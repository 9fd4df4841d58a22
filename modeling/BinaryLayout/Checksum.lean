/-!
# CRC-32

The cyclic redundancy check with the reflected polynomial `0xEDB88320`, a byte at a time. It shortens
the parameters of a kind to eight hexadecimal digits.
-/

namespace BinaryLayout.Checksum

def polynomial : UInt32 := 0xEDB88320

/-- The remainder moved by one bit. -/
def shift (remainder : UInt32) : UInt32 :=
  if remainder &&& 1 = 1 then (remainder >>> 1) ^^^ polynomial else remainder >>> 1

/-- The remainder after one more byte. -/
def absorb (remainder : UInt32) (byte : UInt8) : UInt32 :=
  (List.range 8).foldl (fun state _ ↦ shift state) (remainder ^^^ byte.toUInt32)

def crc32 (bytes : List UInt8) : UInt32 :=
  bytes.foldl absorb 0xFFFFFFFF ^^^ 0xFFFFFFFF

/-- The checksum of a text as eight hexadecimal digits. -/
def digest (text : String) : String :=
  let digits := Nat.toDigits 16 (crc32 text.toUTF8.data.toList).toNat
  String.ofList (List.replicate (8 - digits.length) '0' ++ digits)

end BinaryLayout.Checksum
