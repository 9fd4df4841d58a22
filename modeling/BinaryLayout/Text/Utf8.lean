/-!
# Lossy UTF-8

Bytes are read as UTF-8 whether or not they are well formed. Every longest piece that starts a
character but does not finish it, and every byte that starts none, becomes the replacement character.
-/

namespace BinaryLayout.Text.Utf8

/-- The character that stands for what cannot be read. -/
def replacement : Char := '\ufffd'

/-- What has been read of a character. -/
inductive State
  | start
  /-- `owed` more bytes follow, the next of them between `low` and `high`; `code` is known so far. -/
  | inside (owed : Nat) (low high : UInt8) (code : Nat)
deriving DecidableEq, Repr

/-- The effect of a byte between characters. -/
def begins (byte : UInt8) : List Char × State :=
  if byte < 0x80 then ([Char.ofNat byte.toNat], .start)
  else if byte < 0xC2 then ([replacement], .start)
  else if byte < 0xE0 then ([], .inside 1 0x80 0xBF (byte.toNat - 0xC0))
  else if byte < 0xF0 then
    let low := if byte = 0xE0 then 0xA0 else 0x80
    let high := if byte = 0xED then 0x9F else 0xBF
    ([], .inside 2 low high (byte.toNat - 0xE0))
  else if byte < 0xF5 then
    let low := if byte = 0xF0 then 0x90 else 0x80
    let high := if byte = 0xF4 then 0x8F else 0xBF
    ([], .inside 3 low high (byte.toNat - 0xF0))
  else ([replacement], .start)

/-- The effect of a byte: the characters that it finishes, and what is known of the next. -/
def step : State → UInt8 → List Char × State
  | .start, byte => begins byte
  | .inside owed low high code, byte =>
    if low ≤ byte ∧ byte ≤ high then
      let longer := 64 * code + (byte.toNat - 0x80)
      if owed ≤ 1 then ([Char.ofNat longer], .start)
      else ([], .inside (owed - 1) 0x80 0xBF longer)
    else
      let (characters, state) := begins byte
      (replacement :: characters, state)

/-- The characters of the bytes that follow a state. -/
def characters : State → List UInt8 → List Char
  | .start, [] => []
  | .inside _ _ _ _, [] => [replacement]
  | state, byte :: rest =>
    let (finished, next) := step state byte
    finished ++ characters next rest

def decode (bytes : List UInt8) : String :=
  String.ofList (characters .start bytes)

end BinaryLayout.Text.Utf8
