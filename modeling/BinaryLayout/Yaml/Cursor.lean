/-!
# Places in a Text

A cursor is the rest of a text together with the place where it starts.
-/

namespace BinaryLayout.Yaml

/-! ## Characters -/

def isBreak (character : Char) : Bool :=
  character == '\n' || character == '\r' || character == '\u0085' || character == '\u2028' ||
    character == '\u2029'

def isBlank (character : Char) : Bool :=
  character == ' ' || character == '\t'

/-- A character of a name. -/
def isWord (character : Char) : Bool :=
  character.isAlphanum || character == '_' || character == '-'

/-- A character that a document may hold. -/
def isReadable (character : Char) : Bool :=
  let code := character.toNat
  code == 0x9 || code == 0xA || code == 0xD || (0x20 ≤ code && code ≤ 0x7E) || code == 0x85 ||
    (0xA0 ≤ code && code ≤ 0xD7FF) || (0xE000 ≤ code && code ≤ 0xFFFD) || 0x10000 ≤ code

def isFlowIndicator (character : Char) : Bool :=
  character == ',' || character == '[' || character == ']' || character == '\x7b' ||
    character == '\x7d'

/-! ## Cursors -/

/-- The rest of a text and the place where it starts. The index counts the bytes before it, the column
the characters. -/
structure Cursor where
  rest : List Char
  index : Nat := 0
  line : Nat := 0
  column : Nat := 0
deriving DecidableEq, Repr

namespace Cursor

def peek? (cursor : Cursor) (ahead : Nat) : Option Char :=
  cursor.rest[ahead]?

def sees (cursor : Cursor) (ahead : Nat) (test : Char → Bool) : Bool :=
  (cursor.peek? ahead).any test

/-- Whether a character stands some characters ahead. -/
def holds (cursor : Cursor) (ahead : Nat) (character : Char) : Bool :=
  cursor.sees ahead (· == character)

def atEnd (cursor : Cursor) : Bool :=
  cursor.rest.isEmpty

/-- Whether a line ends at a character ahead. -/
def endsLine (cursor : Cursor) (ahead : Nat) : Bool :=
  (cursor.peek? ahead).all isBreak

/-- Whether a word ends at a character ahead. -/
def endsWord (cursor : Cursor) (ahead : Nat) : Bool :=
  (cursor.peek? ahead).all fun character ↦ isBlank character || isBreak character

/-- The bytes that characters take in a text. -/
def byteCount (characters : List Char) : Nat :=
  characters.foldl (fun count character ↦ count + character.utf8Size) 0

/-- Moves over characters of one line. -/
def forward (cursor : Cursor) (count : Nat) : Cursor :=
  { cursor with
    rest := cursor.rest.drop count
    index := cursor.index + byteCount (cursor.rest.take count)
    column := cursor.column + count }

/-- The characters of one line that pass a test, and the place behind them. -/
def span (cursor : Cursor) (test : Char → Bool) : List Char × Cursor :=
  let taken := cursor.rest.takeWhile test
  (taken, cursor.forward taken.length)

def skip (cursor : Cursor) (test : Char → Bool) : Cursor :=
  (cursor.span test).2

/-- The text of a line break, and the start of the next line. Only the separators of lines and
paragraphs keep their own character. -/
def lineBreak (cursor : Cursor) : List Char × Cursor :=
  let next (taken rest : List Char) : Cursor :=
    { rest, index := cursor.index + byteCount taken, line := cursor.line + 1, column := 0 }
  match cursor.rest with
  | '\r' :: '\n' :: rest => (['\n'], next ['\r', '\n'] rest)
  | character :: rest =>
    if character == '\u2028' || character == '\u2029' then ([character], next [character] rest)
    else if isBreak character then (['\n'], next [character] rest)
    else ([], cursor)
  | [] => ([], cursor)

def skipBreak (cursor : Cursor) : Cursor :=
  cursor.lineBreak.2

/-- Whether a character stands here three times, at the start of a line and as a word of its own. -/
def atMarker (cursor : Cursor) (character : Char) : Bool :=
  cursor.column == 0 && cursor.holds 0 character && cursor.holds 1 character &&
    cursor.holds 2 character && cursor.endsWord 3

/-- Whether a document starts or ends here. -/
def atDocumentMarker (cursor : Cursor) : Bool :=
  cursor.atMarker '-' || cursor.atMarker '.'

/-- Skips blanks and a comment up to the end of the line. -/
def skipComment (cursor : Cursor) : Cursor :=
  let behind := cursor.skip isBlank
  if behind.holds 0 '#' then behind.skip (!isBreak ·) else behind

end Cursor

end BinaryLayout.Yaml
