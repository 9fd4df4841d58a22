import BinaryLayout.Kind.Width
import BinaryLayout.Ordered

/-!
# Kinds

A kind says how the bytes of a field are read. Arrays and pointers contain the kind of what they hold
or point to, so kinds are finite trees.
-/

namespace BinaryLayout

/-- Bits of an unsigned integer, from `start` up to but not including `stop`. -/
structure BitField where
  start : Fin 64
  stop : Fin 65
  width : Width
deriving DecidableEq, Repr

/-- The mask over the bits below `stop`; the shift drops those below `start`. -/
def BitField.mask (field : BitField) : UInt64 :=
  (Nat.pow 2 field.stop.val - 1).toUInt64

/-- Names for values of an unsigned integer. -/
structure Enumeration where
  width : Width
  /-- Keys as written, in increasing order. Negative keys are read in two's complement. -/
  choices : List (Int × String)
deriving DecidableEq, Repr

namespace Enumeration

/-- The named values, in increasing order. Of two keys for the same value the lesser names it. -/
def arms (enumeration : Enumeration) : List (UInt64 × String) :=
  enumeration.choices.foldl
    (fun arms (key, name) ↦
      match enumeration.width.reinterpret key with
      | some value => Ordered.insertNew value name arms
      | none => arms) []

/-- The choices whose key has too many bits. -/
def dropped (enumeration : Enumeration) : List (Int × String) :=
  enumeration.choices.filter fun choice ↦ (enumeration.width.reinterpret choice.1).isNone

end Enumeration

/-- Names for bits and masks of an unsigned integer, in increasing order of the names. -/
structure Flags where
  width : Width
  /-- Names of single bits, with their positions. -/
  bitmap : List (String × UInt64)
  /-- Names that hold when any bit of the mask is set. -/
  maskmap : List (String × UInt64)
deriving DecidableEq, Repr

namespace Flags

/-- Order by mask, then by name. -/
def precedes (first second : UInt64 × String) : Bool :=
  first.1 < second.1 || (first.1 == second.1 && first.2 ≤ second.2)

/-- The masks of all names, in order. A bit past the sixty-fourth is never set and has none. -/
def predicates (flags : Flags) : List (UInt64 × String) :=
  let bits := flags.bitmap.filterMap fun (name, position) ↦
    if position < 64 then some ((1 : UInt64) <<< position, name) else none
  let masks := flags.maskmap.map fun (name, mask) ↦ (mask, name)
  (bits ++ masks).mergeSort precedes

/-- The names of bits past the sixty-fourth. -/
def dropped (flags : Flags) : List (String × UInt64) :=
  flags.bitmap.filter fun entry ↦ !(entry.2 < 64)

end Flags

/-- How text is encoded. -/
inductive Encoding
  | bytes
  | utf16
deriving DecidableEq, Repr

/-- The number of elements of an array. -/
inductive Count
  | fixed (count : Int)
  /-- The value of another field of the same structure. -/
  | sibling (field : String)
deriving DecidableEq, Repr

inductive Kind
  | integer (type : IntegerType)
  | bitField (field : BitField)
  | enumeration (choices : Enumeration)
  | flags (names : Flags)
  /-- Bytes that are expected to have fixed values. -/
  | signature (expected : List UInt8)
  /-- Text of a fixed number of bytes, or up to a terminator. -/
  | text (encoding : Encoding) (length : Option UInt64)
  | array (count : Count) (element : Kind)
  /-- The absolute offset, in eight bytes, of what is read. -/
  | pointer (element : Kind)
  /-- A structure, by its canonical name. -/
  | reference (target : String)
deriving DecidableEq, Repr

namespace Kind

def name : Kind → String
  | .integer _ => "Integer"
  | .bitField _ => "BitField"
  | .enumeration _ => "Enumeration"
  | .flags _ => "Flags"
  | .signature _ => "Signature"
  | .text .bytes _ => "String"
  | .text .utf16 _ => "UnicodeString"
  | .array _ _ => "Array"
  | .pointer _ => "Pointer"
  | .reference _ => "StructureReference"

/-- The unsigned integer of eight bytes, which pointers are read as. -/
def word : Kind :=
  .integer ⟨.w64, false⟩

/-- The kind of the element that an array holds or a pointer leads to. -/
def element? : Kind → Option Kind
  | .array _ element => some element
  | .pointer element => some element
  | _ => none

/-- The kinds whose helpers the code of this kind calls. -/
def dependencies : Kind → List Kind
  | .bitField field => [.integer (.unsigned field.width)]
  | .enumeration choices => [.integer (.unsigned choices.width)]
  | .flags names => [.integer (.unsigned names.width)]
  | .array _ element => [element]
  | .pointer element => [word, element]
  | .integer _ | .signature _ | .text _ _ | .reference _ => []

/-- Whether a decoded value refers to the source and the profile. -/
def isIndirect : Kind → Bool
  | .reference _ => true
  | .array _ element | .pointer element => element.isIndirect
  | _ => false

/-- The count field that an array anywhere below this kind depends on. -/
def nestedSibling? : Kind → Option String
  | .array _ element | .pointer element =>
    match element with
    | .array (.sibling field) _ => some field
    | _ => element.nestedSibling?
  | _ => none

end Kind

/-- How a formatter shows a field. -/
inductive DebugStyle
  | text
  | hex
  /-- The value's own formatter. -/
  | display
  /-- The formatter of a structure, indented. -/
  | nested
  /-- The number of elements. -/
  | count
  /-- Not at all, since pointers may form cycles. -/
  | skip
deriving DecidableEq, Repr

def Kind.debugStyle : Kind → DebugStyle
  | .text _ _ => .text
  | .integer _ | .bitField _ => .hex
  | .enumeration _ | .flags _ | .signature _ => .display
  | .reference _ => .nested
  | .array _ _ => .count
  | .pointer _ => .skip

end BinaryLayout
