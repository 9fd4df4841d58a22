import BinaryLayout.Json.Error

/-!
# Reading Data Documents

A text is read byte by byte, and an error names the place up to which it was read. A missing or
unfitting byte is reported at the place behind that byte.
-/

namespace BinaryLayout.Json

/-- The unread bytes of a text and the place where they start. -/
structure Cursor where
  rest : List UInt8
  place : Position

namespace Cursor

def ofText (text : String) : Cursor :=
  ⟨text.toUTF8.data.toList, ⟨1, 0⟩⟩

/-- The place behind one byte. -/
def stepPlace (place : Position) (byte : UInt8) : Position :=
  if byte = 0x0A then ⟨place.line + 1, 0⟩ else ⟨place.line, place.column + 1⟩

/-- The cursor behind the next `count` bytes. -/
def advance : Nat → Cursor → Cursor
  | 0, cursor => cursor
  | count + 1, cursor =>
    match cursor.rest with
    | [] => cursor
    | byte :: rest => advance count ⟨rest, stepPlace cursor.place byte⟩

def isBlank (byte : UInt8) : Bool :=
  byte == 0x20 || byte == 0x0A || byte == 0x09 || byte == 0x0D

def isDigit (byte : UInt8) : Bool :=
  0x30 ≤ byte && byte ≤ 0x39

/-- The cursor behind the bytes at its front that satisfy `test`. -/
def skipWhile (test : UInt8 → Bool) (cursor : Cursor) : Cursor :=
  cursor.advance (cursor.rest.takeWhile test).length

end Cursor

abbrev Reader := StateT Cursor (Except Error)

namespace Reader

/-- Stops at the current place. -/
def failHere {α : Type} (cause : Malformation) : Reader α := fun cursor ↦
  .error ⟨.malformed cause, some cursor.place⟩

/-- Stops behind the next byte. -/
def failAfter {α : Type} (cause : Malformation) : Reader α := fun cursor ↦
  .error ⟨.malformed cause, some (cursor.advance 1).place⟩

def peek : Reader (Option UInt8) := do
  return (← get).rest.head?

def skip (count : Nat) : Reader Unit :=
  modify (·.advance count)

/-- The next byte after blanks, which is not consumed. -/
def peekToken : Reader (Option UInt8) := do
  modify (·.skipWhile Cursor.isBlank)
  peek

/-! ## Strings -/

def hexDigit? (byte : UInt8) : Option Nat :=
  if 0x30 ≤ byte ∧ byte ≤ 0x39 then some (byte - 0x30).toNat
  else if 0x61 ≤ byte ∧ byte ≤ 0x66 then some (byte - 0x57).toNat
  else if 0x41 ≤ byte ∧ byte ≤ 0x46 then some (byte - 0x37).toNat
  else none

/-- The number of four hexadecimal digits. -/
def hexNumber : Reader Nat := do
  let digits := (← get).rest.take 4
  skip 4
  if digits.length < 4 then failHere .endOfString
  else
    match digits.mapM hexDigit? with
    | some values => return values.foldl (fun number digit ↦ 16 * number + digit) 0
    | none => failHere .invalidEscape

/-- Consumes the given byte, which must follow the first half of a surrogate pair. -/
def continuePair (byte : UInt8) : Reader Unit := do
  match ← peek with
  | none => failHere .endOfString
  | some next => if next = byte then skip 1 else failAfter .hexEscapeCut

/-- The character of a hexadecimal escape, written as one number or as a surrogate pair. -/
def hexEscape : Reader Char := do
  let first ← hexNumber
  if 0xDC00 ≤ first ∧ first ≤ 0xDFFF then failHere .loneSurrogate
  else if first < 0xD800 ∨ 0xDFFF < first then return Char.ofNat first
  else
    continuePair 0x5C
    continuePair 0x75
    let second ← hexNumber
    if 0xDC00 ≤ second ∧ second ≤ 0xDFFF then
      return Char.ofNat (0x10000 + 0x400 * (first - 0xD800) + (second - 0xDC00))
    else failHere .loneSurrogate

/-- The character that an escape letter stands for. -/
def escapeLetter? (byte : UInt8) : Option Char :=
  [(0x22, '"'), (0x5C, '\\'), (0x2F, '/'), (0x62, '\x08'), (0x66, '\x0c'), (0x6E, '\n'),
   (0x72, '\r'), (0x74, '\t')].lookup byte

/-- The character of the escape behind a backslash. -/
def escaped : Reader Char := do
  match ← peek with
  | none => failHere .endOfString
  | some byte =>
    if byte = 0x75 then
      skip 1
      hexEscape
    else
      match escapeLetter? byte with
      | some character =>
        skip 1
        return character
      | none => failAfter .invalidEscape

/-- Bytes that stand for themselves inside a string. -/
def isPlain (byte : UInt8) : Bool :=
  byte != 0x22 && byte != 0x5C && 0x20 ≤ byte

/-- The rest of a string behind its opening quote. `read` are the bytes before, in pieces from the
last. The fuel bounds the pieces still to be read. -/
def stringTail : Nat → List (List UInt8) → Reader String
  | 0, _ => failHere .endOfString
  | fuel + 1, read => do
    let plain := (← get).rest.takeWhile isPlain
    skip plain.length
    match ← peek with
    | none => failHere .endOfString
    | some 0x22 =>
      skip 1
      let bytes := (plain :: read).reverse.flatten
      return (String.fromUTF8? ⟨bytes.toArray⟩).getD ""
    | some 0x5C =>
      skip 1
      let character ← escaped
      stringTail fuel (String.utf8EncodeChar character :: plain :: read)
    | some _ => failAfter .controlCharacter

/-- A string whose opening quote is the next byte. -/
def string (fuel : Nat) : Reader String := do
  skip 1
  stringTail fuel []

/-! ## Numbers -/

/-- Whether one more digit keeps a number within 64 bits. -/
def fits (number digit : Nat) : Bool :=
  10 * number + digit < UInt64.size

/-- Appends digits to a number while it fits 64 bits, and counts the digits that it took. -/
def absorbDigits (number : Nat) : List Nat → Nat × Nat
  | [] => (number, 0)
  | digit :: rest =>
    if fits number digit then
      let (total, taken) := absorbDigits (10 * number + digit) rest
      (total, taken + 1)
    else (number, 0)

/-- The digits at the front, consumed. -/
def digits : Reader (List Nat) := do
  let span := (← get).rest.takeWhile Cursor.isDigit
  skip span.length
  return span.map fun byte ↦ (byte - 0x30).toNat

/-- The double for a decimal, reported behind it if out of range. -/
def real (isNegative : Bool) (significand : Nat) (exponent : Int) : Reader Number :=
  match Number.ofDecimal? isNegative significand exponent with
  | some result => return result
  | none => failHere .numberOutOfRange

/-- The value of exponent digits, with the number of digits read when it passes 31 bits. -/
def exponentValue (value read : Nat) : List Nat → Except Nat Nat
  | [] => .ok value
  | digit :: rest =>
    if 0x80000000 ≤ 10 * value + digit then .error (read + 1)
    else exponentValue (10 * value + digit) (read + 1) rest

/-- A number from its exponent mark on. -/
def exponentPart (isNegative : Bool) (significand : Nat) (shift : Int) : Reader Number := do
  skip 1
  let sign ← peek
  if sign = some 0x2B ∨ sign = some 0x2D then skip 1
  match ← peek with
  | none => failHere .endOfValue
  | some byte =>
    if !Cursor.isDigit byte then failAfter .invalidNumber
    else
      let start ← get
      let span ← digits
      match exponentValue 0 0 span with
      | .ok value =>
        real isNegative significand (if sign = some 0x2D then shift - value else shift + value)
      | .error read =>
        if significand ≠ 0 ∧ sign ≠ some 0x2D then
          set (start.advance read)
          failHere .numberOutOfRange
        else real isNegative 0 0

/-- A number from its decimal point on. -/
def fractionPart (isNegative : Bool) (significand : Nat) (dropped : Nat) : Reader Number := do
  skip 1
  let span ← digits
  if span.isEmpty then
    match ← peek with
    | none => failHere .endOfValue
    | some _ => failAfter .invalidNumber
  else
    let (total, taken) := absorbDigits significand span
    let shift : Int := (dropped : Int) - taken
    match ← peek with
    | some 0x65 | some 0x45 => exponentPart isNegative total shift
    | _ => real isNegative total shift

/-- A whole number that fits 64 bits, if it is negative its opposite. Minus zero is a double. -/
def whole (isNegative : Bool) (significand : Nat) : Reader Number :=
  if !isNegative then return .natural significand.toUInt64
  else if 0 < significand ∧ significand ≤ 0x8000000000000000 then
    return .negative (Int64.ofInt (-significand))
  else real true significand 0

/-- A number behind its sign. -/
def number (isNegative : Bool) : Reader Number := do
  match ← peek with
  | none => failHere .endOfValue
  | some first =>
    if !Cursor.isDigit first then failAfter .invalidNumber
    else
      let start ← get
      let span ← digits
      if first = 0x30 ∧ 1 < span.length then
        set (start.advance 1)
        failAfter .invalidNumber
      else
        let (significand, taken) := absorbDigits 0 span
        let dropped := span.length - taken
        match ← peek with
        | some 0x2E => fractionPart isNegative significand dropped
        | some 0x65 | some 0x45 => exponentPart isNegative significand dropped
        | _ =>
          if dropped = 0 then whole isNegative significand
          else real isNegative significand dropped

/-! ## Values -/

/-- The rest of a word, byte by byte. -/
def word : List UInt8 → Reader Unit
  | [] => return
  | expected :: rest => do
    match ← peek with
    | none => failHere .endOfValue
    | some byte =>
      if byte = expected then
        skip 1
        word rest
      else failAfter .identExpected

/-- A scalar whose first byte is `first`; nothing if no scalar starts with that byte. -/
def scalar? (fuel : Nat) (first : UInt8) : Reader (Option Json) := do
  match first with
  | 0x6E =>
    skip 1
    word [0x75, 0x6C, 0x6C]
    return some .null
  | 0x74 =>
    skip 1
    word [0x72, 0x75, 0x65]
    return some (.bool true)
  | 0x66 =>
    skip 1
    word [0x61, 0x6C, 0x73, 0x65]
    return some (.bool false)
  | 0x22 => return some (.string (← string fuel))
  | 0x2D =>
    skip 1
    return some (.number (← number true))
  | byte =>
    if Cursor.isDigit byte then return some (.number (← number false)) else return none

/-- Arrays and objects may lie this deep inside one another, less one. -/
def depthLimit : Nat := 128

/-- The depth left inside an array or object. -/
def enter (depth : Nat) : Reader Nat :=
  if depth ≤ 1 then failAfter .tooDeep
  else do
    skip 1
    return depth - 1

/-- Whether another item follows. A comma before it is consumed, and so is the closing bracket. -/
def nextItem (isFirst : Bool) : Reader Bool := do
  match ← peekToken with
  | none => failHere .endOfList
  | some 0x5D =>
    skip 1
    return false
  | some byte =>
    if isFirst then return true
    else if byte ≠ 0x2C then failAfter .listEndExpected
    else
      skip 1
      match ← peekToken with
      | none => failHere .endOfValue
      | some 0x5D => failAfter .trailingComma
      | some _ => return true

/-- Whether another member follows. A comma before it is consumed, and so is the closing brace. -/
def nextMember (isFirst : Bool) : Reader Bool := do
  match ← peekToken with
  | none => failHere .endOfObject
  | some 0x7D =>
    skip 1
    return false
  | some byte =>
    if isFirst then
      if byte = 0x22 then return true else failAfter .keyNotString
    else if byte ≠ 0x2C then failAfter .objectEndExpected
    else
      skip 1
      match ← peekToken with
      | none => failHere .endOfValue
      | some 0x22 => return true
      | some 0x7D => failAfter .trailingComma
      | some _ => failAfter .keyNotString

def colon : Reader Unit := do
  match ← peekToken with
  | none => failHere .endOfObject
  | some 0x3A => skip 1
  | some _ => failAfter .colonExpected

mutual

/-- A value, with the depth that is left. The fuel bounds the values, items and pieces of strings still to
be read. -/
def value : Nat → Nat → Reader Json
  | 0, _ => failHere .endOfValue
  | fuel + 1, depth => do
    match ← peekToken with
    | none => failHere .endOfValue
    | some 0x5B =>
      let inner ← enter depth
      return .array (← items fuel inner true)
    | some 0x7B =>
      let inner ← enter depth
      return .object (← members fuel inner [])
    | some first =>
      match ← scalar? fuel first with
      | some value => return value
      | none => failAfter .valueExpected

def items : Nat → Nat → Bool → Reader (List Json)
  | 0, _, _ => failHere .endOfList
  | fuel + 1, depth, isFirst => do
    if ← nextItem isFirst then
      let item ← value fuel depth
      return item :: (← items fuel depth false)
    else return []

def members : Nat → Nat → List (String × Json) → Reader (List (String × Json))
  | 0, _, _ => failHere .endOfObject
  | fuel + 1, depth, read => do
    if ← nextMember read.isEmpty then
      let name ← string fuel
      colon
      let member ← value fuel depth
      members fuel depth (insertMember name member read)
    else return read

end

/-- Enough fuel for a text of the given number of bytes. -/
def fuelFor (bytes : Nat) : Nat :=
  2 * bytes + 2

/-- The end of the text, blanks apart. -/
def finish : Reader Unit := do
  match ← peekToken with
  | none => return
  | some _ => failAfter .trailingCharacters

/-- An object that is the whole document. Any other value is reported as out of place. -/
def root : Reader (List (String × Json)) := do
  let fuel := fuelFor (← get).rest.length
  let misplaced (found : Json) : Reader (List (String × Json)) := fun cursor ↦
    .error ⟨.wrongType found "a map", some cursor.place⟩
  match ← peekToken with
  | none => failHere .endOfValue
  | some 0x7B =>
    let inner ← enter depthLimit
    members fuel inner []
  | some 0x5B => misplaced (.array [])
  | some first =>
    match ← scalar? fuel first with
    | some value => misplaced value
    | none => failAfter .valueExpected

/-- A number that must be a signed 64-bit integer. -/
def integer : Reader Int := do
  let isNegative := (← peek) = some 0x2D
  if isNegative then skip 1
  let found ← number isNegative
  match found with
  | .real _ => fun cursor ↦ .error ⟨.wrongType (.number found) "i64", some cursor.place⟩
  | _ =>
    match found.integer? with
    | some value => return value.toInt
    | none => fun cursor ↦ .error ⟨.wrongValue (.number found) "i64", some cursor.place⟩

/-- The integer that a member name spells. -/
def integerKey : Reader Int := do
  match ← peek with
  | some first =>
    if first = 0x2D ∨ Cursor.isDigit first then
      let value ← integer
      if (← peek).isSome then throw ⟨.keyNotNumber, none⟩
      return value
    else throw ⟨.keyNotNumber, none⟩
  | none => throw ⟨.keyNotNumber, none⟩

end Reader

/-- The integer that a member name spells, with places counted from its start. -/
def parseIntegerKey (name : String) : Except Error Int :=
  Reader.integerKey.run' (Cursor.ofText name)

/-- The document in a text. -/
def parse (text : String) : Except Error Json := do
  let cursor := Cursor.ofText text
  let reader : Reader Json := do
    let value ← Reader.value (Reader.fuelFor cursor.rest.length) Reader.depthLimit
    Reader.finish
    return value
  reader.run' cursor

/-- The members of the object in a text. -/
def parseObject (text : String) : Except Error (List (String × Json)) := do
  let reader : Reader (List (String × Json)) := do
    let members ← Reader.root
    Reader.finish
    return members
  reader.run' (Cursor.ofText text)

end BinaryLayout.Json
