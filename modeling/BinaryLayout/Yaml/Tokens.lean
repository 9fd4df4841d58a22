import BinaryLayout.Yaml.Token

/-!
# Tokens of a Text

A text is read from left to right. Whether a node is a key shows only at the colon behind it, so the
place of every node that may be one is kept until then.
-/

namespace BinaryLayout.Yaml

/-- A node that a colon can turn into a key. -/
structure Candidate where
  /-- The number of its first token. -/
  number : Nat
  place : Cursor
  /-- Whether it is nothing else but a key where it stands. -/
  required : Bool

/-- What is known between two tokens. -/
structure Scan where
  cursor : Cursor
  /-- The tokens so far, from the last, and their number. -/
  tokens : List Token := []
  count : Nat := 0
  /-- The indentation of the innermost block collection. -/
  indent : Int := -1
  /-- The indentations of the collections around it. -/
  outer : List Int := []
  /-- The candidate of the block context. -/
  candidate : Option Candidate := none
  /-- The candidates of the flow collections, from the innermost. -/
  flow : List (Option Candidate) := []
  /-- Whether a key can start here. -/
  keyAllowed : Bool := true

namespace Scan

def inFlow (scan : Scan) : Bool :=
  !scan.flow.isEmpty

def push (scan : Scan) (token : Token) : Scan :=
  { scan with tokens := token :: scan.tokens, count := scan.count + 1 }

/-- Puts a token before the one with the given number. -/
def insert (scan : Scan) (number : Nat) (token : Token) : Scan :=
  let later := scan.count - number
  { scan with
    tokens := scan.tokens.take later ++ token :: scan.tokens.drop later
    count := scan.count + 1 }

/-! ## Candidates -/

/-- A key is on one line and takes no more bytes than that. -/
def longestKey : Nat := 1024

/-- Whether a candidate can no longer be a key. -/
def isStale (scan : Scan) (candidate : Candidate) : Bool :=
  candidate.place.line < scan.cursor.line || candidate.place.index + longestKey < scan.cursor.index

/-- The candidate of the innermost collection, as long as it can be a key. -/
def current (scan : Scan) : Option Candidate :=
  let innermost :=
    match scan.flow with
    | [] => scan.candidate
    | candidate :: _ => candidate
  innermost.filter (!scan.isStale ·)

def setCurrent (scan : Scan) (candidate : Option Candidate) : Scan :=
  match scan.flow with
  | [] => { scan with candidate }
  | _ :: outer => { scan with flow := candidate :: outer }

/-- Gives up the candidate of the innermost collection. -/
def dropCandidate (scan : Scan) : Except Problem Scan :=
  if scan.current.any Candidate.required then .error .keyWithoutValue
  else .ok (scan.setCurrent none)

/-- Makes what starts here a candidate, if a key can start here. -/
def addCandidate (scan : Scan) : Except Problem Scan :=
  if scan.keyAllowed then do
    let required := !scan.inFlow && scan.indent == scan.cursor.column
    let dropped ← scan.dropCandidate
    return dropped.setCurrent (some ⟨scan.count, scan.cursor, required⟩)
  else .ok scan

/-- Checks that no key is missed: only a candidate of the block context can be required. -/
def checkRequired (scan : Scan) : Except Problem Scan :=
  if scan.candidate.any fun candidate ↦ candidate.required && scan.isStale candidate then
    .error .keyWithoutValue
  else .ok scan

/-! ## Indentation -/

/-- Starts a block collection at a deeper column, with its token before the one of the given number. -/
def roll (scan : Scan) (column number : Nat) (token : Token) : Scan :=
  if !scan.inFlow && scan.indent < column then
    { scan.insert number token with indent := column, outer := scan.indent :: scan.outer }
  else scan

/-- Starts a block collection here. -/
def rollHere (scan : Scan) (token : Token) : Scan :=
  scan.roll scan.cursor.column scan.count token

/-- Ends the block collections deeper than a column. `outer` are the indentations around the
innermost. -/
def unrollFrom (column : Int) : List Int → Scan → Scan
  | [], scan => scan
  | indent :: outer, scan =>
    if column < scan.indent then
      unrollFrom column outer { scan.push .blockEnd with indent, outer }
    else scan

def unroll (scan : Scan) (column : Int) : Scan :=
  if scan.inFlow then scan else unrollFrom column scan.outer scan

/-! ## Tokens -/

/-- Skips blanks, comments and line breaks. No more characters are left than there is fuel. -/
def skipSpace : Nat → Scan → Scan
  | 0, scan => scan
  | fuel + 1, scan =>
    let start := scan.cursor
    let text := if start.column == 0 && start.holds 0 '\ufeff' then start.forward 1 else start
    let tabs := scan.inFlow || !scan.keyAllowed
    let behind := text.skip fun character ↦ character == ' ' || (tabs && character == '\t')
    let stop := if behind.holds 0 '#' then behind.skip (!isBreak ·) else behind
    if stop.sees 0 isBreak then
      skipSpace fuel
        { scan with cursor := stop.skipBreak, keyAllowed := scan.keyAllowed || !scan.inFlow }
    else { scan with cursor := stop }

/-- A token of one or more characters. -/
def emit (scan : Scan) (length : Nat) (token : Token) : Scan :=
  { scan.push token with cursor := scan.cursor.forward length }

/-- A token that has been read up to a place. -/
def emitAt (scan : Scan) (cursor : Cursor) (token : Token) : Scan :=
  { scan.push token with cursor }

/-- The end of all block collections. -/
def close (scan : Scan) : Except Problem Scan := do
  let dropped ← (scan.unroll (-1)).dropCandidate
  return { dropped with keyAllowed := false }

def openFlow (scan : Scan) (token : Token) : Except Problem Scan := do
  let noted ← scan.addCandidate
  return { noted.emit 1 token with flow := none :: noted.flow, keyAllowed := true }

def closeFlow (scan : Scan) (token : Token) : Except Problem Scan := do
  let dropped ← scan.dropCandidate
  return { dropped.emit 1 token with flow := dropped.flow.tail, keyAllowed := false }

def flowEntry (scan : Scan) : Except Problem Scan := do
  let dropped ← scan.dropCandidate
  return { dropped.emit 1 .flowEntry with keyAllowed := true }

def blockEntry (scan : Scan) : Except Problem Scan := do
  if !scan.inFlow && !scan.keyAllowed then throw .entryNotAllowed
  let dropped ← (scan.rollHere .blockSequenceStart).dropCandidate
  return { dropped.emit 1 .blockEntry with keyAllowed := true }

def explicitKey (scan : Scan) : Except Problem Scan := do
  if !scan.inFlow && !scan.keyAllowed then throw .keyNotAllowed
  let dropped ← (scan.rollHere .blockMappingStart).dropCandidate
  return { dropped.emit 1 .key with keyAllowed := !scan.inFlow }

def value (scan : Scan) : Except Problem Scan := do
  match scan.current with
  | some candidate =>
    let keyed := (scan.insert candidate.number .key).roll candidate.place.column candidate.number
      .blockMappingStart
    return { (keyed.setCurrent none).emit 1 .value with keyAllowed := false }
  | none =>
    if !scan.inFlow && !scan.keyAllowed then throw .valueNotAllowed
    return { (scan.rollHere .blockMappingStart).emit 1 .value with keyAllowed := !scan.inFlow }

/-- A node, read by `read`, that can be a key. -/
def node (scan : Scan) (read : Cursor → Except Problem (Token × Cursor)) : Except Problem Scan := do
  let noted ← scan.addCandidate
  let (token, behind) ← read scan.cursor
  return { noted.emitAt behind token with keyAllowed := false }

def plain (fuel : Nat) (scan : Scan) : Except Problem Scan := do
  let noted ← scan.addCandidate
  let (text, broken, behind) ←
    Scalar.plain scan.inFlow (scan.indent + 1).toNat fuel scan.cursor
  return { noted.emitAt behind (.scalar .plain text) with keyAllowed := broken }

def block (fuel : Nat) (scan : Scan) (style : ScalarStyle) : Except Problem Scan := do
  let dropped ← scan.dropCandidate
  let (text, behind) ← Scalar.block (style == .folded) scan.indent fuel scan.cursor
  return { dropped.emitAt behind (.scalar style text) with keyAllowed := true }

def quoted (fuel : Nat) (scan : Scan) (style : ScalarStyle) : Except Problem Scan :=
  scan.node fun cursor ↦
    (Scalar.quoted (style == .doubleQuoted) fuel cursor).map fun (text, behind) ↦
      (.scalar style text, behind)

/-- Whether a plain scalar can start with a character, whatever follows. -/
def startsPlain (character : Char) : Bool :=
  !(isBlank character || isBreak character ||
    "-?:,[]\x7b\x7d#&*!|>'\"%@\x60".toList.contains character)

/-- The token that starts with a character. No more characters are left than there is fuel. -/
def token (fuel : Nat) (scan : Scan) (character : Char) : Except Problem Scan :=
  let cursor := scan.cursor
  let alone := cursor.endsWord 1
  if cursor.column == 0 && character == '%' then do
    let closed ← scan.close
    let (token, behind) ← Token.directive cursor
    return closed.emitAt behind token
  else if cursor.atMarker '-' then scan.close.map (·.emit 3 .documentStart)
  else if cursor.atMarker '.' then scan.close.map (·.emit 3 .documentEnd)
  else if character == '[' then scan.openFlow .flowSequenceStart
  else if character == '\x7b' then scan.openFlow .flowMappingStart
  else if character == ']' then scan.closeFlow .flowSequenceEnd
  else if character == '\x7d' then scan.closeFlow .flowMappingEnd
  else if character == ',' then scan.flowEntry
  else if character == '-' && alone then scan.blockEntry
  else if character == '?' && (scan.inFlow || alone) then scan.explicitKey
  else if character == ':' && (scan.inFlow || alone) then scan.value
  else if character == '*' then
    scan.node fun start ↦ (Token.anchorName start).map fun (name, behind) ↦ (.alias name, behind)
  else if character == '&' then
    scan.node fun start ↦ (Token.anchorName start).map fun (name, behind) ↦ (.anchor name, behind)
  else if character == '!' then
    scan.node fun start ↦
      (Token.scanTag scan.inFlow start).map fun (tag, behind) ↦ (.tag tag, behind)
  else if character == '|' && !scan.inFlow then block fuel scan .literal
  else if character == '>' && !scan.inFlow then block fuel scan .folded
  else if character == '\'' then quoted fuel scan .singleQuoted
  else if character == '"' then quoted fuel scan .doubleQuoted
  else if startsPlain character || character == '-' ||
      (!scan.inFlow && (character == '?' || character == ':')) then plain fuel scan
  else .error (.unexpectedCharacter character)

/-- Reads all tokens. Every one of them but the last takes a character at least, so fewer characters are
left than there is fuel. -/
def run : Nat → Scan → Except Problem Scan
  | 0, scan => .ok scan
  | fuel + 1, scan => do
    let fresh ← (skipSpace fuel scan).checkRequired
    let level := fresh.unroll fresh.cursor.column
    match level.cursor.peek? 0 with
    | none => level.close.map (·.push .streamEnd)
    | some character => run fuel (← token fuel level character)

end Scan

/-- The tokens of a text. -/
def tokens (text : String) : Except Problem (List Token) :=
  let characters := text.toList
  match characters.find? (!isReadable ·) with
  | some character => .error (.unreadable character)
  | none =>
    (Scan.run (characters.length + 1) { cursor := { rest := characters } }).map
      (·.tokens.reverse)

end BinaryLayout.Yaml
