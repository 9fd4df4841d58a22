/-!
# Byte String Literals

Bytes as a literal of the generated code: printable ASCII stands for itself, a quote and a backslash
are escaped by a backslash, and every other byte is written in hexadecimal.
-/

namespace BinaryLayout.Text.ByteLiteral

/-- One byte as it stands between the quotes. -/
def escape (byte : UInt8) : List Char :=
  if byte = 0x22 then ['\\', '"']
  else if byte = 0x5C then ['\\', '\\']
  else if 0x20 ≤ byte ∧ byte ≤ 0x7E then [Char.ofNat byte.toNat]
  else ['\\', 'x', Nat.digitChar (byte.toNat / 16), Nat.digitChar (byte.toNat % 16)]

def literal (bytes : List UInt8) : String :=
  String.ofList (['b', '"'] ++ bytes.flatMap escape ++ ['"'])

end BinaryLayout.Text.ByteLiteral
