import BinaryLayout.Yaml.Node

/-!
# Shapes

Readers for nodes of an expected shape. Every scalar is a text as it is written. A scalar that is plain
and empty is also an empty sequence or mapping. Tags do not matter, except that a literal block needs one
to be a boolean.
-/

namespace BinaryLayout.Yaml

/-- Reads a node, and counts the aliases that are followed. -/
abbrev Shape := ReaderT Aliases (StateT Nat (Except Problem))

namespace Shape

/-- The node that an alias stands for, or the node itself. -/
def follow : Node → Shape Node
  | .alias number => do
    let count ← modifyGet fun count ↦ (count + 1, count + 1)
    if (← read).limit < count then throw .repetition
    match (← read).targets.lookup number with
    | some node => return node
    | none => throw .repetition
  | node => return node

/-- Whether a node stands for nothing. -/
def isAbsent : Node → Bool
  | .scalar _ _ style text => style == .plain && text.isEmpty
  | _ => false

def text (node : Node) : Shape String := do
  match ← follow node with
  | .scalar _ _ _ text => return text
  | _ => throw .textExpected

def boolean? : String → Option Bool
  | "true" | "True" | "TRUE" => some true
  | "false" | "False" | "FALSE" => some false
  | _ => none

def booleanTag : List UInt8 :=
  "tag:yaml.org,2002:bool".toUTF8.toList

def boolean (node : Node) : Shape Bool := do
  match ← follow node with
  | .scalar _ tag style text =>
    if style == .plain || (style == .literal && tag == some booleanTag) then
      match boolean? text with
      | some value => return value
      | none => throw .booleanExpected
    else throw .booleanExpected
  | _ => throw .booleanExpected

/-- The items of a sequence, each read by `item`. -/
def sequence {α : Type} (item : Node → Shape α) (node : Node) : Shape (List α) := do
  match ← follow node with
  | .sequence _ items => items.mapM item
  | other => if isAbsent other then return [] else throw .sequenceExpected

/-- The pairs of a mapping. -/
def pairs (node : Node) : Shape (List (Node × Node)) := do
  match ← follow node with
  | .mapping _ found => return found
  | other => if isAbsent other then return [] else throw .mappingExpected

/-- Reads the root of a document, or gives `absent` if there is none. -/
def ofDocument {α : Type} (absent : α) (read : Node → Shape α) (document : Document) :
    Except Problem α :=
  match document.root with
  | none => .ok absent
  | some root => (read root (.ofRoot root) 0).map Prod.fst

end Shape

end BinaryLayout.Yaml
