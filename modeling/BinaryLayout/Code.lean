/-!
# Generated Code

Code is a list of indented lines. The parts of a line keep apart what matters about it: where it
mentions a shared helper, where it defines one, and where it reads the offset of a field. All else is
wording.
-/

namespace BinaryLayout

namespace Code

inductive Part
  | text (wording : String)
  /-- A function or type that a helper defines. -/
  | mention (item : String)
  /-- The function or type defined here. -/
  | define (item : String)
  /-- The offset of a field in the profile. -/
  | offset (owner field : String)
deriving DecidableEq, Repr

instance : Coe String Part := ⟨.text⟩

/-- The name of the offset of a field. -/
def offsetName (owner field : String) : String :=
  "Off_" ++ owner ++ "_" ++ field

def Part.render : Part → String
  | .text wording => wording
  | .mention item => item
  | .define item => item
  | .offset owner field => offsetName owner field

structure Line where
  indent : Nat
  parts : List Part
deriving DecidableEq, Repr

def spaces (count : Nat) : String :=
  String.ofList (List.replicate count ' ')

/-- The text of a line. A line without parts is blank. -/
def Line.render (line : Line) : String :=
  if line.parts.isEmpty then ""
  else spaces line.indent ++ String.join (line.parts.map Part.render)

end Code

structure Code where
  lines : List Code.Line
deriving DecidableEq, Repr

namespace Code

instance : Append Code := ⟨fun first second ↦ ⟨first.lines ++ second.lines⟩⟩

def empty : Code := ⟨[]⟩

/-- A line of the given parts. -/
def line (parts : List Part) : Code :=
  ⟨[⟨0, parts⟩]⟩

def blank : Code :=
  line []

instance : Coe String Code := ⟨fun wording ↦ line [.text wording]⟩

def join (pieces : List Code) : Code :=
  ⟨pieces.flatMap Code.lines⟩

def indented (count : Nat) (code : Code) : Code :=
  ⟨code.lines.map fun line ↦ { line with indent := line.indent + count }⟩

/-- The first line of a wording and those behind it. -/
def splitBreaks : List Char → List Char × List (List Char)
  | [] => ([], [])
  | character :: rest =>
    let (first, others) := splitBreaks rest
    if character = '\n' then ([], first :: others) else (character :: first, others)

/-- Parts with a wording behind them, on as many lines as the wording has. -/
def wrapped (head : List Part) (wording : String) : Code :=
  let (first, rest) := splitBreaks wording.toList
  line (head ++ [.text (String.ofList first)]) ++
    join (rest.map fun text ↦ if text.isEmpty then blank else line [.text (String.ofList text)])

/-- Indented code between braces. The first line starts with `head`, the last ends with `tail`. -/
def block (head : List Part) (body : List Code) (tail : List Part := []) : Code :=
  let opening : List Part := if head.isEmpty then ["\x7b"] else head ++ [.text " \x7b"]
  line opening ++ (join body).indented 4 ++ line (.text "\x7d" :: tail)

/-- A value of a structure type, on one line. -/
def record (type : List Part) (fields : List String) : List Part :=
  type ++ [.text (" \x7b " ++ String.intercalate ", " fields ++ " \x7d")]

/-- The code with parts put before its first line and behind its last. -/
def enclosed (before : List Part) (code : Code) (after : List Part) : Code :=
  let opened : List Line :=
    match code.lines with
    | [] => [⟨0, before⟩]
    | first :: rest => { first with parts := before ++ first.parts } :: rest
  match opened.reverse with
  | [] => ⟨[]⟩
  | last :: rest => ⟨({ last with parts := last.parts ++ after } :: rest).reverse⟩

/-- The lines with breaks between them. -/
def render (code : Code) : String :=
  String.intercalate "\n" (code.lines.map Line.render)

/-- The lines with a break behind each. -/
def text (code : Code) : String :=
  String.join (code.lines.map fun line ↦ line.render ++ "\n")

end Code

end BinaryLayout
