import BinaryLayout.Json.Reader
import BinaryLayout.Kind.Basic

/-!
# Parameters of Kinds

The parameters of a kind are a record, written as an object or as an array of its fields in order. The
members of an object are examined in the order in which they are written, members of other names are
passed over, and then the first field that is required and absent is reported.
-/

namespace BinaryLayout.Parameters

open Json (Error)

/-! ## Records -/

/-- One field of a record. -/
structure Slot (α : Type) where
  name : String
  decode : Json → Except Error α
  /-- The value of a field that an object leaves out, if it may. -/
  whenMissing : Option α
  /-- The value of a field that an array is too short for, if it may be. -/
  whenCut : Option α

/-- A field that must be there. -/
def Slot.required {α : Type} (name : String) (decode : Json → Except Error α) : Slot α :=
  ⟨name, decode, none, none⟩

/-- A field with a value of its own when it is left out. -/
def Slot.withDefault {α : Type} (name : String) (value : α) (decode : Json → Except Error α) :
    Slot α :=
  ⟨name, decode, some value, some value⟩

/-- A field that may be left out or null. -/
def Slot.optional {α : Type} (name : String) (decode : Json → Except Error α) : Slot (Option α) :=
  let decodeOrNull : Json → Except Error (Option α)
    | .null => .ok none
    | value => (decode value).map some
  ⟨name, decodeOrNull, some none, none⟩

/-- The name of a field with the test of its value. -/
abbrev Check := String × (Json → Except Error Unit)

def Slot.check {α : Type} (slot : Slot α) : Check :=
  (slot.name, fun value ↦ (slot.decode value).map fun _ ↦ ())

/-- Examines the members of an object in order. -/
def checkMembers (checks : List Check) : List (String × Json) → Except Error Unit
  | [] => .ok ()
  | (name, value) :: rest => do
    match checks.lookup name with
    | some check => check value
    | none => pure ()
    checkMembers checks rest

def Slot.ofMembers {α : Type} (slot : Slot α) (members : List (String × Json)) : Except Error α :=
  match members.lookup slot.name, slot.whenMissing with
  | some value, _ => slot.decode value
  | none, some value => .ok value
  | none, none => .error ⟨.missingField slot.name, none⟩

/-- The field at an index of an array. `expected` describes the whole record. -/
def Slot.ofItems {α : Type} (slot : Slot α) (items : List Json) (index : Nat) (expected : String) :
    Except Error α :=
  match items[index]?, slot.whenCut with
  | some value, _ => slot.decode value
  | none, some value => .ok value
  | none, none => .error ⟨.wrongLength index expected, none⟩

/-- Where the fields of a record come from. -/
inductive Origin
  | members (members : List (String × Json))
  | items (items : List Json) (expected : String)

/-- The field at the given place of a record. -/
def Origin.take {α : Type} (origin : Origin) (index : Nat) (slot : Slot α) : Except Error α :=
  match origin with
  | .members given => slot.ofMembers given
  | .items given expected => slot.ofItems given index expected

/-- A record of the given type. -/
def decodeRecord {α : Type} (type : String) (checks : List Check)
    (build : Origin → Except Error α) : Json → Except Error α
  | .object members => do
    checkMembers checks members
    build (.members members)
  | .array items => do
    let plural := if checks.length = 1 then " element" else " elements"
    let expected := "struct " ++ type ++ " with " ++ toString checks.length ++ plural
    let record ← build (.items items expected)
    if checks.length < items.length then
      .error ⟨.wrongLength items.length "fewer elements in array", none⟩
    else return record
  | value => .error ⟨.wrongType value ("struct " ++ type), none⟩

/-! ## Values -/

def text : Json → Except Error String
  | .string value => .ok value
  | value => .error ⟨.wrongType value "a string", none⟩

/-- A natural number below `bound`, in messages called `type`. -/
def naturalBelow (bound : Nat) (type : String) : Json → Except Error UInt64
  | .number (.natural value) =>
    if value.toNat < bound then .ok value
    else .error ⟨.wrongValue (.number (.natural value)) type, none⟩
  | .number (.negative value) => .error ⟨.wrongValue (.number (.negative value)) type, none⟩
  | value => .error ⟨.wrongType value type, none⟩

def natural : Json → Except Error UInt64 :=
  naturalBelow UInt64.size "u64"

def shortNatural : Json → Except Error UInt64 :=
  naturalBelow UInt32.size "u32"

/-- The count of an array: an integer, or the name of a field. -/
def count : Json → Except Error Count
  | .string field => .ok (.sibling field)
  | .number value =>
    match value.integer? with
    | some count => .ok (.fixed count.toInt)
    | none => .error ⟨.noVariant "CountArg", none⟩
  | _ => .error ⟨.noVariant "CountArg", none⟩

/-- Reads the members of an object one after another. -/
def pairs {κ ν : Type} (key : String → Except Error κ) (value : Json → Except Error ν) :
    List (String × Json) → Except Error (List (κ × ν))
  | [] => .ok []
  | (name, member) :: rest => do
    let first ← key name
    let second ← value member
    return (first, second) :: (← pairs key value rest)

/-- An object as a map with ordered keys. -/
def map {κ ν : Type} [Ord κ] (key : String → Except Error κ) (value : Json → Except Error ν) :
    Json → Except Error (List (κ × ν))
  | .object members => (pairs key value members).map Ordered.ofList
  | other => .error ⟨.wrongType other "a map", none⟩

/-! ## The records of the kinds -/

/-- Parameters of pointers and arrays. -/
structure Target where
  target : Option String
  arguments : Option Json
  count : Option Count

def target : Json → Except Error Target :=
  let target := Slot.optional "target" text
  let arguments := Slot.optional "target_args" .ok
  let count := Slot.optional "count" count
  decodeRecord "TargetArgs" [target.check, arguments.check, count.check] fun origin ↦ do
    return ⟨← origin.take 0 target, ← origin.take 1 arguments, ← origin.take 2 count⟩

def enumeration : Json → Except Error Enumeration :=
  let choices := Slot.withDefault "choices" [] (map Json.parseIntegerKey text)
  let target := Slot.optional "target" text
  decodeRecord "EnumArgs" [choices.check, target.check] fun origin ↦ do
    let choices ← origin.take 0 choices
    return ⟨.ofTarget (← origin.take 1 target), choices⟩

def flags : Json → Except Error Flags :=
  let bitmap := Slot.withDefault "bitmap" [] (map .ok natural)
  let maskmap := Slot.withDefault "maskmap" [] (map .ok natural)
  let target := Slot.optional "target" text
  decodeRecord "FlagsArgs" [bitmap.check, maskmap.check, target.check] fun origin ↦ do
    let bitmap ← origin.take 0 bitmap
    let maskmap ← origin.take 1 maskmap
    return ⟨.ofTarget (← origin.take 2 target), bitmap, maskmap⟩

/-- Parameters of bit fields, before the bits are checked. -/
structure BitRange where
  start : Nat
  stop : Nat
  width : Width

def bitRange : Json → Except Error BitRange :=
  let start := Slot.withDefault "start_bit" 0 shortNatural
  let stop := Slot.required "end_bit" shortNatural
  let target := Slot.optional "target" text
  decodeRecord "BitFieldArgs" [start.check, stop.check, target.check] fun origin ↦ do
    let start ← origin.take 0 start
    let stop ← origin.take 1 stop
    return ⟨start.toNat, stop.toNat, .ofTarget (← origin.take 2 target)⟩

/-- The expected text of a signature. -/
def signature : Json → Except Error String :=
  let value := Slot.required "value" text
  decodeRecord "SignatureArgs" [value.check] fun origin ↦ origin.take 0 value

/-- The length of a text; nothing if it ends with a terminator. -/
def length : Json → Except Error (Option UInt64) :=
  let length := Slot.withDefault "length" 0 natural
  decodeRecord "StringArgs" [length.check] fun origin ↦ do
    let bytes ← origin.take 0 length
    return if bytes = 0 then none else some bytes

end BinaryLayout.Parameters
