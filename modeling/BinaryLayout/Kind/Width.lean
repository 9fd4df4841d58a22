/-!
# Widths of Integers

Integers take one, two, four or eight bytes, least significant byte first.
-/

namespace BinaryLayout

inductive Width
  | w8
  | w16
  | w32
  | w64
deriving DecidableEq, Repr

namespace Width

def bytes : Width → Nat
  | .w8 => 1
  | .w16 => 2
  | .w32 => 4
  | .w64 => 8

def bits (width : Width) : Nat :=
  8 * width.bytes

/-- The number of values of this width. -/
def cardinality (width : Width) : Nat :=
  Nat.pow 2 width.bits

/-- The width that a target names. What names none takes eight bytes. -/
def ofTarget : Option String → Width
  | some "unsigned long" => .w32
  | some "unsigned short" => .w16
  | some "unsigned char" => .w8
  | _ => .w64

/-- The value of this width with the bits of a key. A negative key is read in two's complement; a key
that has too many bits has no value. -/
def reinterpret (width : Width) (key : Int) : Option UInt64 :=
  let count : Int := width.cardinality
  if -(count / 2) ≤ key ∧ key < count then some (key % count).toNat.toUInt64
  else none

end Width

structure IntegerType where
  width : Width
  signed : Bool
deriving DecidableEq, Repr

namespace IntegerType

def unsigned (width : Width) : IntegerType :=
  ⟨width, false⟩

/-- The name under which keys of kinds mention the type. -/
def key (type : IntegerType) : String :=
  (if type.signed then "int" else "uint") ++ toString type.width.bits

/-- The name of the type in generated code. -/
def typeName (type : IntegerType) : String :=
  (if type.signed then "i" else "u") ++ toString type.width.bits

/-- The integer with the given unsigned value of this width. -/
def interpret (type : IntegerType) (raw : Nat) : Int :=
  let count := type.width.cardinality
  if type.signed ∧ count / 2 ≤ raw then (raw : Int) - count else raw

/-- The type that a schema names, if it names an integer. -/
def ofName? : String → Option IntegerType
  | "unsigned long long" | "uint64" => some ⟨.w64, false⟩
  | "long long" | "int64" => some ⟨.w64, true⟩
  | "unsigned long" | "unsigned int" | "uint32" => some ⟨.w32, false⟩
  | "long" | "int" | "int32" => some ⟨.w32, true⟩
  | "unsigned short" | "uint16" => some ⟨.w16, false⟩
  | "short" | "int16" => some ⟨.w16, true⟩
  | "unsigned char" | "uint8" => some ⟨.w8, false⟩
  | "char" | "int8" => some ⟨.w8, true⟩
  | _ => none

end IntegerType

end BinaryLayout
