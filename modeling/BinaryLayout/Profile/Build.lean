import BinaryLayout.Profile.Cycle
import BinaryLayout.Schema

/-!
# Building a Profile

A run goes through the structures of the schema in the order of their names, takes those it selects,
and resolves the fields that it keeps. What it does not select it does not look at. The context stays
as far as the run came, also when an error ends it.
-/

namespace BinaryLayout

/-- A step of a run, which may end it with an error. -/
abbrev Run := Attempt BuildError

/-- Names that the generated code defines, imports or relies on. -/
def reservedNames : List String :=
  ["Enumeration", "Flags", "Signature", "ReaderAt", "Structure", "Box", "Clone", "Copy", "Debug",
   "Default", "Eq", "Err", "None", "Ok", "Option", "PartialEq", "Result", "Some", "String", "Vec"]

namespace Structure

/-- What is wrong with the count of an array field, if anything. -/
def countError? (struct : Structure) (member : Member) : Option BuildError :=
  let error (count : String) (fault : CountFault) : BuildError :=
    .countField struct.schemaName member.name count fault
  let own :=
    match member.field.kind with
    | .array (.sibling count) _ =>
      match struct.member? count with
      | none => some (error count .absent)
      | some sibling =>
        match sibling.field.kind with
        | .integer _ | .bitField _ => none
        | _ => some (error count .notInteger)
    | _ => none
  own.or (member.field.kind.nestedSibling?.map (error · .nested))

/-- Resolves the fields of a structure that the run keeps. -/
def buildMembers (spec : Spec) (schemaName : String) : List (String × Json) → Run (List Member)
  | [] => return []
  | (name, entry) :: rest => do
    if !spec.selectsField schemaName name then
      modify (·.report (.filtered schemaName name))
      buildMembers spec schemaName rest
    else if !Name.isIdentifier name then throw (.invalidName name .field)
    else
      let (result, after) := (← get).resolve spec entry
      set after
      match result with
      | .error error => throw (.entry schemaName name error)
      | .ok found => return ⟨found, name⟩ :: (← buildMembers spec schemaName rest)

/-- The size and the fields in the entry of a structure. -/
def entryParts (schemaName : String) (entry : Json) :
    Except BuildError (UInt64 × List (String × Json)) :=
  match entry with
  | .array (size :: fields :: _) =>
    match size.natural?, fields.object? with
    | none, _ => .error (.malformedStructure schemaName .size)
    | some _, none => .error (.malformedStructure schemaName .fields)
    | some bytes, some members => .ok (bytes, members)
  | _ => .error (.malformedStructure schemaName .notPair)

def build (spec : Spec) (schemaName : String) (entry : Json) : Run Structure := do
  let (size, fields) ← entryParts schemaName entry
  let members ← buildMembers spec schemaName fields
  let struct : Structure := ⟨Name.canonical schemaName, schemaName, size, members⟩
  match struct.members.findSome? struct.countError? with
  | some error => throw error
  | none => return struct

end Structure

namespace Profile

/-- Whether a name can be that of the profile. -/
def isUsableName (name : String) : Bool :=
  Name.isIdentifier name && !Name.isKeyword name && !reservedNames.contains name

/-- Builds the selected structures. `taken` pairs the canonical names so far with those of the
schema. -/
def buildStructures (spec : Spec) (schema : Schema) (profile : String) :
    List (String × String) → List String → Run (List Structure)
  | _, [] => return []
  | taken, schemaName :: rest => do
    if !spec.selectsStruct schemaName then buildStructures spec schema profile taken rest
    else
      let name := Name.canonical schemaName
      if !Name.isIdentifier name || reservedNames.contains name || name == profile then
        throw (.invalidName schemaName .struct)
      if let some first := taken.lookup name then
        throw (.nameCollision name first schemaName)
      let some entry := schema.entry? schemaName
        | buildStructures spec schema profile ((name, schemaName) :: taken) rest
      let struct ← Structure.build spec schemaName entry
      return struct :: (← buildStructures spec schema profile ((name, schemaName) :: taken) rest)

/-- The names of all offsets with the fields that they belong to, in order. -/
def offsetOwners (structures : List Structure) : List (String × String) :=
  structures.flatMap fun struct ↦
    struct.members.map fun member ↦
      (Code.offsetName struct.name member.name, struct.schemaName ++ "." ++ member.name)

/-- The first two fields whose offsets have the same name. -/
def offsetCollision? : List (String × String) → List (String × String) → Option BuildError
  | _, [] => none
  | seen, (name, owner) :: rest =>
    match seen.lookup name with
    | some first => some (.nameCollision name first owner)
    | none => offsetCollision? ((name, owner) :: seen) rest

/-- Builds the profile that the description selects from the schema. -/
def build (spec : Spec) (schema : Schema) : Run Profile := do
  let name := (← get).options.profile
  if !isUsableName name then throw (.invalidName name .profile)
  let missing := spec.structs.filter fun selected ↦ !schema.contains selected
  modify (·.warnAll (missing.map .structureMissing))
  let built ← buildStructures spec schema name [] schema.sortedNames
  let structures := built.mergeSort fun first second ↦ first.name ≤ second.name
  if let some error := offsetCollision? [] (offsetOwners structures) then throw error
  if let some path := Cycle.find? structures then throw (.structureCycle path)
  return ⟨name, structures⟩

end Profile

end BinaryLayout
