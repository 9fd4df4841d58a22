import BinaryLayout.Text.Extending
import BinaryLayout.Text.Unprintable

/-!
# Quoted Text

Text between double quotes, as string literals of the generated code and error messages write it.
A quote and a backslash are escaped by a backslash, the common controls have letters of their own,
and every other character without a visible form of its own is written by its code point.
-/

namespace BinaryLayout.Text.Quoted

/-- A character written as its code point in hexadecimal. -/
def codePoint (character : Char) : List Char :=
  ['\\', 'u', '\x7b'] ++ Nat.toDigits 16 character.toNat ++ ['\x7d']

/-- One character as it stands between the quotes. -/
def escape (character : Char) : List Char :=
  if character = '"' then ['\\', '"']
  else if character = '\\' then ['\\', '\\']
  else if character = '\n' then ['\\', 'n']
  else if character = '\r' then ['\\', 'r']
  else if character = '\t' then ['\\', 't']
  else if character = '\x00' then ['\\', '0']
  else if Extending.isExtending character || Unprintable.isUnprintable character then
    codePoint character
  else [character]

/-- The text in quotes. -/
def quote (text : String) : String :=
  String.ofList ('"' :: text.toList.flatMap escape ++ ['"'])

end BinaryLayout.Text.Quoted
