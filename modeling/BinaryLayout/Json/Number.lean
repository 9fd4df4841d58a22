import BinaryLayout.Decimal.Shortest

/-!
# Numbers of a Data Document

A number written without fraction or exponent is kept exactly if it fits 64 bits; every other number
is a double. A double is read with at most one rounding for its digits and one for its power of ten,
and written with the fewest digits that read back.
-/

namespace BinaryLayout.Json

inductive Number
  | natural (value : UInt64)
  /-- A whole number below zero. -/
  | negative (value : Int64)
  /-- The double with the given bits. -/
  | real (bits : UInt64)
deriving DecidableEq, Repr

namespace Number

/-- The double nearest to a power of ten that has one. -/
def powerOfTen (exponent : Nat) : Float :=
  Float.ofScientific 1 false exponent

/-- Scales by a power of ten, in steps of at most `10 ^ 308`. No result is out of range. -/
def scaled? : Nat → Float → Int → Option Float
  | 0, _, _ => some 0.0
  | steps + 1, value, exponent =>
    if exponent.natAbs ≤ 308 then
      if 0 ≤ exponent then
        let product := value * powerOfTen exponent.natAbs
        if product.isInf then none else some product
      else some (value / powerOfTen exponent.natAbs)
    else if value == 0.0 then some value
    else if 0 ≤ exponent then none
    else scaled? steps (value / powerOfTen 308) (exponent + 308)

/-- The double for `digits * 10 ^ exponent`, where the digits fit 64 bits. -/
def ofDecimal? (isNegative : Bool) (digits : Nat) (exponent : Int) : Option Number :=
  (scaled? 4 digits.toUInt64.toFloat exponent).map fun magnitude ↦
    .real (if isNegative then -magnitude else magnitude).toBits

/-- Where the decimal point stands, and how many digits follow it, is fixed by the position of the
first digit: from `10 ^ -5` to `10 ^ 15` all places are written, beyond that an exponent is. -/
def layout (number : Decimal.Scientific) : String :=
  let digits := Nat.toDigits 10 number.digits
  let point : Int := number.exponent + digits.length
  let zeros (count : Int) : List Char := List.replicate count.toNat '0'
  let characters :=
    if -4 ≤ point ∧ point ≤ 16 then
      if (digits.length : Int) ≤ point then digits ++ zeros (point - digits.length) ++ ['.', '0']
      else if 0 < point then digits.take point.toNat ++ '.' :: digits.drop point.toNat
      else ['0', '.'] ++ zeros (-point) ++ digits
    else
      let fraction := if digits.length ≤ 1 then [] else '.' :: digits.drop 1
      let sign := if 0 < point then '+' else '-'
      digits.take 1 ++ fraction ++ ['e', sign] ++ Nat.toDigits 10 (point - 1).natAbs
  String.ofList characters

/-- The text of the double with the given bits. -/
def realText (bits : UInt64) : String :=
  let magnitude := bits &&& 0x7FFFFFFFFFFFFFFF
  let sign := if magnitude = bits then "" else "-"
  if magnitude = 0 then sign ++ "0.0"
  else sign ++ layout (Decimal.Binary.ofBits magnitude).shortest

def text : Number → String
  | .natural value => toString value.toNat
  | .negative value => toString value.toInt
  | .real bits => realText bits

/-- The number as a 64-bit natural, if it is one. -/
def natural? : Number → Option UInt64
  | .natural value => some value
  | _ => none

/-- The number as a signed 64-bit integer, if it is one. -/
def integer? : Number → Option Int64
  | .natural value => if value < 0x8000000000000000 then some value.toInt64 else none
  | .negative value => some value
  | .real _ => none

end Number

end BinaryLayout.Json
