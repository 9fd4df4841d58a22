import BinaryLayout.Ordered
import BinaryLayout.Spec
import BinaryLayout.Yaml.Shape

/-!
# Run Descriptions as Documents

A run description is written as a mapping. A key may be left out but not be repeated, and other keys are
ignored. In a list of fields by structure, the last of several entries for a structure counts.
-/

namespace BinaryLayout.Spec

open Yaml

/-- Lists of names by a name. -/
def listing (node : Node) : Shape (List (String × List String)) := do
  let pairs ← Shape.pairs node
  pairs.foldlM
    (fun lists (key, value) ↦ do
      let name ← Shape.text key
      return Ordered.insert name (← Shape.sequence Shape.text value) lists) []

/-- The keys of a description. -/
def keys : List String :=
  ["Module", "Profile", "Filename", "Structs", "FieldWhiteList", "FieldBlackList",
   "GenerateDebugString"]

/-- The description with the value of a key. -/
def withKey (spec : Spec) (key : String) (value : Node) : Shape Spec := do
  match key with
  | "Module" => return { spec with module := ← Shape.text value }
  | "Profile" => return { spec with profile := ← Shape.text value }
  | "Filename" => return { spec with filename := ← Shape.text value }
  | "Structs" => return { spec with structs := ← Shape.sequence Shape.text value }
  | "FieldWhiteList" => return { spec with allow := ← listing value }
  | "FieldBlackList" => return { spec with deny := ← listing value }
  | "GenerateDebugString" => return { spec with debug := ← Shape.boolean value }
  | _ => return spec

/-- Reads the pairs of a description. `seen` are the keys so far. -/
def withPairs (spec : Spec) (seen : List String) : List (Node × Node) → Shape Spec
  | [] => return spec
  | (node, value) :: rest => do
    let key ← Shape.text node
    if keys.contains key && seen.contains key then throw (.repeatedKey key)
    (← spec.withKey key value).withPairs (key :: seen) rest

def ofDocument (document : Document) : Except Problem Spec :=
  Shape.ofDocument {} (fun root ↦ do withPairs {} [] (← Shape.pairs root)) document

/-- The description that a text holds. -/
def ofText (text : String) : Except Problem Spec := do
  ofDocument (← Document.ofText text)

end BinaryLayout.Spec
