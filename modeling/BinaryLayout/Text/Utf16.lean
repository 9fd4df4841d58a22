/-!
# Lossy UTF-16

Bytes are read as 16-bit units, least significant byte first unless the mark `FF FE` stands before
them; the mark `FE FF` changes nothing. A surrogate without its partner and a last byte without one
become the replacement character. Less than two bytes are no text.
-/

namespace BinaryLayout.Text.Utf16

/-- The character that stands for what cannot be read. -/
def replacement : Char := '\ufffd'

def isLead (unit : UInt16) : Bool :=
  0xD800 ≤ unit && unit < 0xDC00

def isTrail (unit : UInt16) : Bool :=
  0xDC00 ≤ unit && unit < 0xE000

/-- The character of a unit that stands alone. -/
def single (unit : UInt16) : Char :=
  if isLead unit || isTrail unit then replacement else Char.ofNat unit.toNat

/-- The character of a surrogate pair. -/
def paired (lead trail : UInt16) : Char :=
  Char.ofNat (0x10000 + 0x400 * (lead.toNat - 0xD800) + (trail.toNat - 0xDC00))

def characters : List UInt16 → List Char
  | [] => []
  | [unit] => [single unit]
  | first :: second :: rest =>
    if isLead first && isTrail second then paired first second :: characters rest
    else single first :: characters (second :: rest)

/-- The order of the two bytes of a unit. -/
inductive ByteOrder
  | littleEndian
  | bigEndian
deriving DecidableEq, Repr

def unitOf (order : ByteOrder) (first second : UInt8) : UInt16 :=
  match order with
  | .littleEndian => first.toUInt16 + 256 * second.toUInt16
  | .bigEndian => 256 * first.toUInt16 + second.toUInt16

/-- The units of bytes in the given order. A byte that is left over is a unit that cannot be read. -/
def units (order : ByteOrder) : List UInt8 → List UInt16
  | [] => []
  | [_] => [0xFFFD]
  | first :: second :: rest => unitOf order first second :: units order rest

/-- The byte order and the bytes behind the mark, if there is one. -/
def split : List UInt8 → ByteOrder × List UInt8
  | 0xFF :: 0xFE :: rest => (.bigEndian, rest)
  | 0xFE :: 0xFF :: rest => (.littleEndian, rest)
  | bytes => (.littleEndian, bytes)

def decode (bytes : List UInt8) : String :=
  if bytes.length < 2 then ""
  else
    let (order, body) := split bytes
    String.ofList (characters (units order body))

end BinaryLayout.Text.Utf16
