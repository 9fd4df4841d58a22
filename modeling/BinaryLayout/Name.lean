import BinaryLayout.Text.Alphabetic
import BinaryLayout.Text.Numeric
import BinaryLayout.Text.Uppercase

/-!
# Names

Names of structures and fields come from a schema and become identifiers of the generated code. A
structure is known by its canonical name; a name that is a keyword of the generated code is escaped.
-/

namespace BinaryLayout.Name

open Text

/-- The canonical name of a structure: leading underscores go, the next character is put in upper
case. -/
def canonical (name : String) : String :=
  match name.toList.dropWhile (· == '_') with
  | [] => ""
  | first :: rest => String.ofList (Uppercase.uppercase first ++ rest)

def keywords : List String :=
  ["abstract", "as", "async", "await", "become", "box", "break", "const", "continue", "do",
   "dyn", "else", "enum", "extern", "false", "final", "fn", "for", "gen", "if", "impl", "in",
   "let", "loop", "macro", "match", "mod", "move", "mut", "override", "priv", "pub", "ref",
   "return", "static", "struct", "trait", "true", "try", "type", "typeof", "unsafe",
   "unsized", "use", "virtual", "where", "while", "yield"]

/-- Words that cannot name an item even when escaped. -/
def unusable : List String :=
  ["self", "Self", "super", "crate", "_"]

def startsIdentifier (character : Char) : Bool :=
  character == '_' || Alphabetic.isAlphabetic character

def continuesIdentifier (character : Char) : Bool :=
  character == '_' || Alphabetic.isAlphabetic character || Numeric.isNumeric character

/-- Whether a name can name a generated item, escaped if need be. -/
def isIdentifier (name : String) : Bool :=
  match name.toList with
  | [] => false
  | first :: rest =>
    startsIdentifier first && rest.all continuesIdentifier && !unusable.contains name

def isKeyword (name : String) : Bool :=
  keywords.contains name

/-- The name as the generated code spells it. -/
def escaped (name : String) : String :=
  if isKeyword name then "r#" ++ name else name

end BinaryLayout.Name
