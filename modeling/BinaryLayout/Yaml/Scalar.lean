import BinaryLayout.Yaml.Cursor
import BinaryLayout.Yaml.Problem

/-!
# Scalars

The texts of plain, quoted and block scalars. Inside a plain or quoted scalar a single line break counts
as a space, and further breaks count as themselves. What is read with fuel has no more characters left
than fuel.
-/

namespace BinaryLayout.Yaml

inductive ScalarStyle
  | plain
  | singleQuoted
  | doubleQuoted
  | literal
  | folded
deriving DecidableEq, Repr

namespace Scalar

/-! ## Gaps -/

/-- What stands between two words. -/
structure Gap where
  blanks : List Char := []
  /-- Whether the gap holds a line break. -/
  broken : Bool := false
  first : List Char := []
  later : List Char := []

namespace Gap

/-- The text that a gap stands for. -/
def text (gap : Gap) : List Char :=
  if !gap.broken then gap.blanks
  else if gap.first == ['\n'] then
    if gap.later.isEmpty then [' '] else gap.later
  else gap.first ++ gap.later

/-- Reads on to the end of a gap. No tab may stand before column `floor` of a line. -/
def read (floor : Nat) : Nat → Gap → Cursor → Except Problem (Gap × Cursor)
  | 0, gap, cursor => .ok (gap, cursor)
  | fuel + 1, gap, cursor =>
    match cursor.peek? 0 with
    | none => .ok (gap, cursor)
    | some character =>
      if isBlank character then
        if gap.broken && character == '\t' && cursor.column < floor then .error .tabIndentation
        else
          let longer := if gap.broken then gap else { gap with blanks := gap.blanks ++ [character] }
          read floor fuel longer (cursor.forward 1)
      else if isBreak character then
        let (text, next) := cursor.lineBreak
        let longer :=
          if gap.broken then { gap with later := gap.later ++ text }
          else { gap with blanks := [], broken := true, first := text }
        read floor fuel longer next
      else .ok (gap, cursor)

end Gap

/-! ## Plain scalars -/

/-- The word that a plain scalar goes on with. It may be empty. -/
def plainWord (flow : Bool) : List Char → Except Problem (List Char)
  | [] => .ok []
  | character :: rest =>
    if isBlank character || isBreak character then .ok []
    else if flow && character == ':' && rest.head?.any fun next ↦ isFlowIndicator next || next == '?' then
      .error .colonInFlow
    else if (character == ':' && rest.head?.all fun next ↦ isBlank next || isBreak next) ||
        (flow && isFlowIndicator character) then .ok []
    else (plainWord flow rest).map (character :: ·)

/-- Reads on behind a gap, which belongs to the scalar only if a word follows. The result says whether a
line break follows the scalar. -/
def plainText (flow : Bool) (floor : Nat) : Nat → Gap → Cursor →
    Except Problem (List Char × Bool × Cursor)
  | 0, gap, cursor => .ok ([], gap.broken, cursor)
  | fuel + 1, gap, cursor =>
    if cursor.atDocumentMarker || cursor.holds 0 '#' then .ok ([], gap.broken, cursor)
    else do
      let word ← plainWord flow cursor.rest
      if word.isEmpty then return ([], gap.broken, cursor)
      let text := gap.text ++ word
      let behind := cursor.forward word.length
      if behind.atEnd || !behind.endsWord 0 then return (text, false, behind)
      let (after, next) ← Gap.read floor fuel {} behind
      if !flow && next.column < floor then return (text, after.broken, next)
      let (rest, broken, stop) ← plainText flow floor fuel after next
      return (text ++ rest, broken, stop)

/-- A plain scalar. Outside flow collections its lines are indented to `floor` at least. -/
def plain (flow : Bool) (floor fuel : Nat) (cursor : Cursor) :
    Except Problem (String × Bool × Cursor) := do
  let (text, broken, behind) ← plainText flow floor fuel {} cursor
  return (String.ofList text, broken, behind)

/-! ## Quoted scalars -/

def hexDigit? (character : Char) : Option Nat :=
  if '0' ≤ character ∧ character ≤ '9' then some (character.toNat - '0'.toNat)
  else if 'a' ≤ character ∧ character ≤ 'f' then some (character.toNat - 'a'.toNat + 10)
  else if 'A' ≤ character ∧ character ≤ 'F' then some (character.toNat - 'A'.toNat + 10)
  else none

/-- The number of hexadecimal digits, most significant first. -/
def hexNumber? (digits : List Char) : Option Nat :=
  digits.foldlM (fun value digit ↦ (hexDigit? digit).map (16 * value + ·)) 0

/-- The character that a letter behind a backslash stands for. -/
def escape? : Char → Option Char
  | '0' => some '\x00'
  | 'a' => some '\x07'
  | 'b' => some '\x08'
  | 't' => some '\t'
  | '\t' => some '\t'
  | 'n' => some '\n'
  | 'v' => some '\x0b'
  | 'f' => some '\x0c'
  | 'r' => some '\r'
  | 'e' => some '\x1b'
  | ' ' => some ' '
  | '"' => some '"'
  | '/' => some '/'
  | '\\' => some '\\'
  | 'N' => some '\u0085'
  | '_' => some '\u00a0'
  | 'L' => some '\u2028'
  | 'P' => some '\u2029'
  | _ => none

/-- The number of hexadecimal digits that a letter behind a backslash asks for. -/
def escapeDigits? : Char → Option Nat
  | 'x' => some 2
  | 'u' => some 4
  | 'U' => some 8
  | _ => none

/-- The character of an escape, and the number of characters behind the backslash. -/
def escaped : List Char → Except Problem (Char × Nat)
  | [] => .error .unknownEscape
  | letter :: rest =>
    match escape? letter, escapeDigits? letter with
    | some character, _ => .ok (character, 1)
    | none, none => .error .unknownEscape
    | none, some count =>
      let digits := rest.take count
      match hexNumber? digits with
      | none => .error .unknownEscape
      | some code =>
        if digits.length < count then .error .unknownEscape
        else if h : code.isValidChar then .ok (Char.ofNatAux code h, count + 1)
        else .error .escapedCharacter

/-- Reads on to the end of a word, to the closing quote or over an escaped line break. The result says
whether it was such a break. -/
def quotedWord (double : Bool) : Nat → Cursor → Except Problem (List Char × Bool × Cursor)
  | 0, cursor => .ok ([], false, cursor)
  | fuel + 1, cursor =>
    let behind (character : Char) (count : Nat) : Except Problem (List Char × Bool × Cursor) := do
      let (word, broken, stop) ← quotedWord double fuel (cursor.forward count)
      return (character :: word, broken, stop)
    match cursor.rest with
    | [] => .ok ([], false, cursor)
    | character :: rest =>
      if isBlank character || isBreak character then .ok ([], false, cursor)
      else if double then
        if character == '"' then .ok ([], false, cursor)
        else if character == '\\' then
          if rest.head?.any isBreak then .ok ([], true, (cursor.forward 1).skipBreak)
          else do
            let (meant, count) ← escaped rest
            behind meant (count + 1)
        else behind character 1
      else if character == '\'' then
        if rest.head? == some '\'' then behind character 2 else .ok ([], false, cursor)
      else behind character 1

/-- Reads on inside a quoted scalar, up to and over its closing quote. -/
def quotedText (double : Bool) : Nat → Cursor → Except Problem (List Char × Cursor)
  | 0, _ => .error .unclosedQuote
  | fuel + 1, cursor =>
    if cursor.atDocumentMarker || cursor.atEnd then .error .unclosedQuote
    else do
      let (word, broken, behind) ← quotedWord double (fuel + 1) cursor
      if behind.holds 0 (if double then '"' else '\'') then return (word, behind.forward 1)
      let (gap, next) ← Gap.read 0 (fuel + 1) { broken } behind
      let (rest, stop) ← quotedText double fuel next
      return (word ++ gap.text ++ rest, stop)

/-- A quoted scalar, from its opening quote on. -/
def quoted (double : Bool) (fuel : Nat) (cursor : Cursor) : Except Problem (String × Cursor) := do
  let (text, behind) ← quotedText double fuel (cursor.forward 1)
  return (String.ofList text, behind)

/-! ## Block scalars -/

/-- Which of the line breaks at the end of a block scalar belong to it. -/
inductive Chomping
  | clip
  | strip
  | keep
deriving DecidableEq, Repr

structure BlockHeader where
  chomping : Chomping := .clip
  /-- The indentation beyond that of the parent, if it is given. -/
  increment : Option Nat := none

def chomping? : Char → Option Chomping
  | '+' => some .keep
  | '-' => some .strip
  | _ => none

def blockHeader (cursor : Cursor) : Except Problem (BlockHeader × Cursor) := do
  let chomp (header : BlockHeader) (place : Cursor) : BlockHeader × Cursor :=
    match (place.peek? 0).bind chomping? with
    | some chomping => ({ header with chomping }, place.forward 1)
    | none => (header, place)
  let indent (header : BlockHeader) (place : Cursor) : Except Problem (BlockHeader × Cursor) :=
    match place.peek? 0 with
    | some digit =>
      if digit == '0' then .error .blockHeader
      else if digit.isDigit then
        .ok ({ header with increment := some (digit.toNat - '0'.toNat) }, place.forward 1)
      else .ok (header, place)
    | none => .ok (header, place)
  let (first, behind) := chomp {} cursor
  let (second, after) ← indent first behind
  let (header, place) := if first.chomping == .clip then chomp second after else (second, after)
  let stop := place.skipComment
  if stop.endsLine 0 then return (header, stop.skipBreak) else throw .blockHeader

/-- Skips the indentation of a line and reads the empty lines before the next that is not. `indent` is
zero as long as it is not known, and `deepest` is the deepest indentation so far. -/
def blockBreaks (indent : Nat) : Nat → Nat → List Char → Cursor →
    Except Problem (Nat × List Char × Cursor)
  | 0, deepest, breaks, cursor => .ok (deepest, breaks, cursor)
  | fuel + 1, deepest, breaks, cursor =>
    let spaces := (cursor.rest.takeWhile (· == ' ')).length
    let place := cursor.forward (if indent = 0 then spaces else min spaces (indent - cursor.column))
    let deeper := max deepest place.column
    if (indent = 0 || place.column < indent) && place.holds 0 '\t' then .error .tabIndentation
    else if place.sees 0 isBreak then
      let (text, next) := place.lineBreak
      blockBreaks indent fuel deeper (breaks ++ text) next
    else .ok (deeper, breaks, place)

/-- What stands behind a line of a block scalar. -/
structure BlockGap where
  /-- The break behind the line. -/
  lead : List Char := []
  /-- The breaks of the empty lines behind it. -/
  breaks : List Char := []
  /-- Whether the line starts with a blank. -/
  blank : Bool := false

/-- Reads the lines at the indentation of a block scalar behind a gap, and the gap behind them. -/
def blockLines (folds : Bool) (indent : Nat) : Nat → BlockGap → Cursor →
    Except Problem (List Char × BlockGap × Cursor)
  | 0, gap, cursor => .ok ([], gap, cursor)
  | fuel + 1, gap, cursor =>
    if cursor.column != indent || cursor.atEnd then .ok ([], gap, cursor)
    else do
      let blank := cursor.sees 0 isBlank
      let joint :=
        if folds && gap.lead == ['\n'] && !gap.blank && !blank then
          if gap.breaks.isEmpty then [' '] else []
        else gap.lead
      let (line, stop) := cursor.span (!isBreak ·)
      let (lead, next) := stop.lineBreak
      let (_, breaks, place) ← blockBreaks indent (fuel + 1) 0 [] next
      let (rest, last, behind) ← blockLines folds indent fuel { lead, breaks, blank } place
      return (joint ++ gap.breaks ++ line ++ rest, last, behind)

/-- A block scalar, from its indicator on, inside a collection indented to `parent`. -/
def block (folds : Bool) (parent : Int) (fuel : Nat) (cursor : Cursor) :
    Except Problem (String × Cursor) := do
  let (header, start) ← blockHeader (cursor.forward 1)
  let given := ((header.increment.map fun increment ↦ (max parent 0).toNat + increment)).getD 0
  let (deepest, breaks, place) ← blockBreaks given fuel 0 [] start
  let indent := if given = 0 then max (max deepest (parent + 1).toNat) 1 else given
  let (text, last, behind) ← blockLines folds indent fuel { breaks } place
  let lead := if header.chomping == .strip then [] else last.lead
  let breaks := if header.chomping == .keep then last.breaks else []
  return (String.ofList (text ++ lead ++ breaks), behind)

end Scalar

end BinaryLayout.Yaml
