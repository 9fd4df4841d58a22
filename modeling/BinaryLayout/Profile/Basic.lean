import BinaryLayout.Field.Context

/-!
# Profiles

A profile holds the structures that a run selects, in the order of their canonical names, with the
fields that it keeps. Errors say why a schema gives no profile.
-/

namespace BinaryLayout

/-- A field of a structure, with its name. -/
structure Member extends Numbered where
  name : String
deriving DecidableEq, Repr

structure Structure where
  /-- The canonical name. -/
  name : String
  /-- The name in the schema. -/
  schemaName : String
  size : UInt64
  /-- The fields that are kept, in the order of the schema. -/
  members : List Member
deriving DecidableEq, Repr

namespace Structure

/-- The fields in the order of their names, in which code mentions them. -/
def sortedMembers (struct : Structure) : List Member :=
  struct.members.mergeSort fun first second ↦ first.name ≤ second.name

def member? (struct : Structure) (name : String) : Option Member :=
  struct.members.find? (·.name == name)

/-- The field whose accessor has the given name. -/
def accessor? (struct : Structure) (name : String) : Option Member :=
  struct.members.find? (Name.escaped ·.name == name)

end Structure

structure Profile where
  name : String
  structures : List Structure
deriving DecidableEq, Repr

namespace Profile

def structure? (profile : Profile) (name : String) : Option Structure :=
  profile.structures.find? (·.name == name)

/-- The offsets of all fields, in the order in which code lists them. -/
def offsets (profile : Profile) : List ((String × String) × UInt64) :=
  profile.structures.flatMap fun struct ↦
    struct.sortedMembers.map fun member ↦ ((struct.name, member.name), member.field.offset)

end Profile

/-- What a name was to be used for. -/
inductive NameUse
  | profile
  | struct
  | field
deriving DecidableEq, Repr

/-- Why an entry is no structure. -/
inductive StructureFault
  | notPair
  | size
  | fields
deriving DecidableEq, Repr

/-- Why a field cannot give the count of an array. -/
inductive CountFault
  | absent
  | notInteger
  /-- The array is itself the element of an array or pointer. -/
  | nested
deriving DecidableEq, Repr

inductive BuildError
  | malformedStructure (struct : String) (fault : StructureFault)
  | entry (struct field : String) (error : EntryError)
  | nameCollision (name first second : String)
  | invalidName (name : String) (use : NameUse)
  | countField (struct field count : String) (fault : CountFault)
  /-- Structures that contain one another, the last of them the first again. -/
  | structureCycle (path : List String)
deriving Repr

def NameUse.message : NameUse → String
  | .profile => "a profile name"
  | .struct => "a structure name"
  | .field => "a field name"

def StructureFault.message : StructureFault → String
  | .notPair => "not a two-element array"
  | .size => "size is not a non-negative integer"
  | .fields => "fields are not an object"

def CountFault.message : CountFault → String
  | .absent => "is not a field of this structure"
  | .notInteger => "is not an integer field"
  | .nested => "can only size a top-level array"

def BuildError.message : BuildError → String
  | .malformedStructure struct fault =>
    "structure `" ++ struct ++ "`: expected [size, \x7bfields\x7d]: " ++ fault.message
  | .entry struct field error => "decoding " ++ struct ++ "." ++ field ++ ": " ++ error.message
  | .nameCollision name first second =>
    "structures `" ++ first ++ "` and `" ++ second ++ "` both normalize to `" ++ name ++ "`"
  | .invalidName name use => "`" ++ name ++ "` cannot be used as " ++ use.message
  | .countField struct field count fault =>
    struct ++ "." ++ field ++ ": count field `" ++ count ++ "` " ++ fault.message
  | .structureCycle path =>
    "structure cycle without pointer indirection: " ++ String.intercalate " -> " path

end BinaryLayout
