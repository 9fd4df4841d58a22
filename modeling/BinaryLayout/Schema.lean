import BinaryLayout.Json.Reader
import BinaryLayout.Name

/-!
# Schemas

A schema maps names of structures to their entries, in the order of the file. An entry gives the size
and the fields of a structure; it is looked into only when a run selects the structure.
-/

namespace BinaryLayout

/-- Pairs of a structure name and its entry. -/
structure Schema where
  entries : List (String × Json)

namespace Schema

def ofText (text : String) : Except Json.Error Schema :=
  (Json.parseObject text).map fun members ↦ ⟨members⟩

def ofJson : Json → Except Json.Error Schema
  | .object members => .ok ⟨members⟩
  | value => .error ⟨.wrongType value "a map", none⟩

def entry? (schema : Schema) (name : String) : Option Json :=
  schema.entries.lookup name

def contains (schema : Schema) (name : String) : Bool :=
  (schema.entry? name).isSome

/-- The names of the structures in order. -/
def sortedNames (schema : Schema) : List String :=
  (schema.entries.map Prod.fst).mergeSort (· ≤ ·)

/-- The text of a column of the given width. -/
def padded (width : Nat) (text : String) : String :=
  text ++ String.ofList (List.replicate (width - text.length) ' ')

/-- The size that an entry declares, as far as it can be read. -/
def sizeText (entry : Option Json) : String :=
  match entry.bind Json.array? with
  | some (size :: _) => (size.natural?.map (toString ·.toNat)).getD "?"
  | _ => "?"

/-- One line for each structure: its name, its canonical name and its size. The columns are as wide
as the longest name takes bytes. -/
def listing (schema : Schema) : String :=
  let names := schema.sortedNames
  let width := (names.map String.utf8ByteSize).foldl max 0
  String.join <| names.map fun name ↦
    padded width name ++ "  " ++ padded width (Name.canonical name) ++ "  " ++
      sizeText (schema.entry? name) ++ "\n"

end Schema

end BinaryLayout
