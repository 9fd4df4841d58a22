import BinaryLayout.Kind.Basic
import BinaryLayout.Text.Utf8

/-!
# Decoded Values

What the accessors of an artifact give, and how formatters show it.
-/

namespace BinaryLayout

inductive Value
  | integer (type : IntegerType) (value : Int)
  | bits (value : UInt64)
  | enumeration (value : UInt64) (name : String)
  /-- A set of names, in increasing order. -/
  | flags (value : UInt64) (names : List String)
  | signature (bytes expected : List UInt8)
  | text (value : String)
  | array (items : List Value)
  /-- A structure at an offset, with its declared size. -/
  | handle (name : String) (offset size : UInt64)
deriving Repr

namespace Value

/-- Whether a signature holds the bytes that are expected. -/
def isValid (bytes expected : List UInt8) : Bool :=
  bytes == expected

/-- The text of a value. Arrays have none, and that of a structure takes more than its value. -/
def display : Value → String
  | .integer _ value => toString value
  | .bits value => toString value.toNat
  | .enumeration value name => name ++ " (" ++ toString value.toNat ++ ")"
  | .flags value names => toString value.toNat ++ " (" ++ String.intercalate ", " names ++ ")"
  | .signature bytes expected =>
    Text.Utf8.decode bytes ++ " (" ++ (if isValid bytes expected then "valid" else "invalid") ++ ")"
  | .text value => value
  | _ => ""

/-- The bits of a number, read as an unsigned integer of its width. -/
def unsigned : Value → Nat
  | .integer type value => (value % (type.width.cardinality : Int)).toNat
  | .bits value => value.toNat
  | _ => 0

/-- The elements of an array. -/
def items : Value → List Value
  | .array items => items
  | _ => []

def count (value : Value) : Nat :=
  value.items.length

/-- A number as the count of an array: its low 64 bits as a signed integer. -/
def asCount : Value → Int
  | .integer _ value => (Int64.ofInt value).toInt
  | .bits value => value.toInt64.toInt
  | _ => 0

end Value

end BinaryLayout
