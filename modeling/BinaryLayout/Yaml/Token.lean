import BinaryLayout.Yaml.Scalar

/-!
# Tokens

A document as a list of tokens. Tokens for the start and the end of block collections stand where the
indentation says so.
-/

namespace BinaryLayout.Yaml

/-- A tag as it is written: a handle, which stands for the start of the tag, and the rest. -/
structure Tag where
  handle : String
  suffix : List UInt8
deriving DecidableEq, Repr

inductive Token
  | streamEnd
  | version (major minor : Nat)
  | tagDirective (handle : String) (start : List UInt8)
  | documentStart
  | documentEnd
  | blockSequenceStart
  | blockMappingStart
  | blockEnd
  | flowSequenceStart
  | flowSequenceEnd
  | flowMappingStart
  | flowMappingEnd
  | blockEntry
  | flowEntry
  | key
  | value
  | alias (name : String)
  | anchor (name : String)
  | tag (tag : Tag)
  | scalar (style : ScalarStyle) (text : String)
deriving DecidableEq, Repr

namespace Token

/-! ## Names and tags -/

/-- The name of an anchor or alias, from its indicator on. -/
def anchorName (cursor : Cursor) : Except Problem (String × Cursor) :=
  let (name, behind) := (cursor.forward 1).span isWord
  let ends := behind.endsWord 0 || behind.sees 0 fun character ↦
    character == '?' || character == ':' || character == ',' || character == ']' ||
      character == '\x7d' || character == '%' || character == '@' || character == '\x60'
  if name.isEmpty || !ends then .error .anchorName else .ok (String.ofList name, behind)

/-- A character of a tag. Commas and brackets belong to it only where no collection can end. -/
def isTagCharacter (brackets : Bool) (character : Char) : Bool :=
  isWord character || ";/?:@&=+$.%!~*'()".toList.contains character ||
    (brackets && ",[]".toList.contains character)

/-- The number of bytes of a character that starts with the given one. -/
def sequenceLength? (byte : Nat) : Option Nat :=
  if byte < 0x80 then some 1
  else if 0xC0 ≤ byte ∧ byte < 0xE0 then some 2
  else if 0xE0 ≤ byte ∧ byte < 0xF0 then some 3
  else if 0xF0 ≤ byte ∧ byte < 0xF8 then some 4
  else none

/-- The bytes of the characters of a tag. `owed` bytes are missing to complete a character that is
escaped byte by byte. -/
def tagBytes : Nat → List Char → Except Problem (List UInt8)
  | 0, [] => .ok []
  | 0, '%' :: high :: low :: rest =>
    match Scalar.hexNumber? [high, low] with
    | none => .error .tagEscape
    | some byte =>
      match sequenceLength? byte with
      | none => .error .tagEscape
      | some length => (tagBytes (length - 1) rest).map (byte.toUInt8 :: ·)
  | 0, '%' :: _ => .error .tagEscape
  | 0, character :: rest => (tagBytes 0 rest).map (character.toUInt8 :: ·)
  | owed + 1, '%' :: high :: low :: rest =>
    match Scalar.hexNumber? [high, low] with
    | none => .error .tagEscape
    | some byte =>
      if 0x80 ≤ byte ∧ byte < 0xC0 then (tagBytes owed rest).map (byte.toUInt8 :: ·)
      else .error .tagEscape
  | _ + 1, _ => .error .tagEscape

/-- The bytes of a tag or of the start of one. A zero byte ends them. -/
def tagText (brackets : Bool) (cursor : Cursor) : Except Problem (List UInt8 × Nat × Cursor) := do
  let (characters, behind) := cursor.span (isTagCharacter brackets)
  let bytes ← tagBytes 0 characters
  return (bytes.takeWhile (· != 0), characters.length, behind)

/-- What stands between two exclamation marks, or behind one that no other follows. -/
def tagHandle (cursor : Cursor) : List Char × Cursor :=
  let (word, behind) := (cursor.forward 1).span isWord
  if behind.holds 0 '!' then ('!' :: word ++ ['!'], behind.forward 1) else ('!' :: word, behind)

/-- The tag whose handle or start has been read. -/
def tagBehind (handle : List Char) (cursor : Cursor) : Except Problem (Tag × Cursor) := do
  let (suffix, length, behind) ← tagText false cursor
  if 1 < handle.length && handle.getLast? == some '!' then
    if length = 0 then throw .tagForm
    return (⟨String.ofList handle, suffix⟩, behind)
  let whole := handle.tail.map Char.toUInt8 ++ suffix
  return (if whole.isEmpty then ⟨"", [0x21]⟩ else ⟨"!", whole⟩, behind)

/-- A tag, from its exclamation mark on. -/
def scanTag (flow : Bool) (cursor : Cursor) : Except Problem (Tag × Cursor) := do
  let (found, behind) ←
    if cursor.holds 1 '<' then do
      let (bytes, length, behind) ← tagText true (cursor.forward 2)
      if length = 0 || !behind.holds 0 '>' then throw .tagForm
      pure ((⟨"", bytes⟩ : Tag), behind.forward 1)
    else
      let (handle, behind) := tagHandle cursor
      tagBehind handle behind
  if behind.endsWord 0 || (flow && behind.holds 0 ',') then return (found, behind)
  throw .tagForm

/-! ## Directives -/

/-- A number of at most nine digits. -/
def versionNumber (cursor : Cursor) : Except Problem (Nat × Cursor) :=
  let (digits, behind) := cursor.span Char.isDigit
  if digits.isEmpty || 9 < digits.length then .error .directiveForm
  else .ok (digits.foldl (fun value digit ↦ 10 * value + (digit.toNat - '0'.toNat)) 0, behind)

def versionDirective (cursor : Cursor) : Except Problem (Token × Cursor) := do
  let (major, behind) ← versionNumber (cursor.skip isBlank)
  if !behind.holds 0 '.' then throw .directiveForm
  let (minor, stop) ← versionNumber (behind.forward 1)
  return (.version major minor, stop)

def tagDirectiveToken (cursor : Cursor) : Except Problem (Token × Cursor) := do
  let place := cursor.skip isBlank
  if !place.holds 0 '!' then throw .directiveForm
  let (handle, behind) := tagHandle place
  if 1 < handle.length && handle.getLast? != some '!' then throw .directiveForm
  if !behind.sees 0 isBlank then throw .directiveForm
  let (start, length, stop) ← tagText true (behind.skip isBlank)
  if length = 0 || !stop.endsWord 0 then throw .directiveForm
  return (.tagDirective (String.ofList handle) start, stop)

/-- A directive, from its percent sign to the end of its line. -/
def directive (cursor : Cursor) : Except Problem (Token × Cursor) := do
  let (name, behind) := (cursor.forward 1).span isWord
  if name.isEmpty || !behind.endsWord 0 then throw .directiveForm
  let (token, stop) ←
    match String.ofList name with
    | "YAML" => versionDirective behind
    | "TAG" => tagDirectiveToken behind
    | other => throw (.unknownDirective other)
  let place := stop.skipComment
  if place.endsLine 0 then return (token, place.skipBreak) else throw .directiveForm

end Token

end BinaryLayout.Yaml
