/-!
# Shortest Decimals

A double stands for every real that rounds to it. The shortest decimal of a positive finite double is
the one with the fewest digits among them; of two that are equally short the nearer is taken, and of
two equally near ones the even.
-/

namespace BinaryLayout.Decimal

/-- A decimal `digits * 10 ^ exponent`. -/
structure Scientific where
  digits : Nat
  exponent : Int
deriving DecidableEq, Repr

/-- A positive double `mantissa * 2 ^ exponent`. The double below a power of two lies nearer than the
one above it; `narrow` marks such a power. -/
structure Binary where
  mantissa : Nat
  exponent : Int
  narrow : Bool
deriving DecidableEq, Repr

/-- The value of the bits of a finite double, its sign apart. -/
def Binary.ofBits (bits : UInt64) : Binary :=
  let biased := ((bits >>> 52) &&& 0x7FF).toNat
  let fraction := (bits &&& 0xFFFFFFFFFFFFF).toNat
  if biased = 0 then ⟨fraction, -1074, false⟩
  else ⟨fraction + 0x10000000000000, (biased : Int) - 1075, fraction = 0 && biased > 1⟩

/-- A nonnegative rational as numerator and denominator. -/
structure Ratio where
  numerator : Nat
  denominator : Nat

/-- `units` quarters of the last binary place of `value`. -/
def Binary.quarters (value : Binary) (units : Nat) : Ratio :=
  if 2 ≤ value.exponent then ⟨units * Nat.pow 2 (value.exponent - 2).toNat, 1⟩
  else ⟨units, Nat.pow 2 (2 - value.exponent).toNat⟩

/-- Comparison of a ratio with `count * 10 ^ power`. -/
def Ratio.compareScaled (ratio : Ratio) (count : Nat) (power : Int) : Ordering :=
  compare (ratio.numerator * Nat.pow 10 (-power).toNat)
    (count * Nat.pow 10 power.toNat * ratio.denominator)

/-- The whole part of a ratio divided by `10 ^ power`. -/
def Ratio.floorScaled (ratio : Ratio) (power : Int) : Nat :=
  ratio.numerator * Nat.pow 10 (-power).toNat / (Nat.pow 10 power.toNat * ratio.denominator)

def digitCount (number : Nat) : Nat :=
  (Nat.toDigits 10 number).length

/-- The least `k` with the positive ratio below `10 ^ k`. -/
def Ratio.scale (ratio : Ratio) : Int :=
  let whole := ratio.numerator / ratio.denominator
  if whole > 0 then digitCount whole
  else
    let inverse := (ratio.denominator + ratio.numerator - 1) / ratio.numerator
    1 - (digitCount (inverse - 1) : Int)

/-- Whether `count * 10 ^ power` rounds to `value`. The ends of the interval round to the even
mantissa. -/
def Binary.readsBack (value : Binary) (count : Nat) (power : Int) : Bool :=
  let low := value.quarters (4 * value.mantissa - if value.narrow then 1 else 2)
  let high := value.quarters (4 * value.mantissa + 2)
  match low.compareScaled count power, high.compareScaled count power with
  | .lt, .gt => true
  | .eq, .gt | .lt, .eq => value.mantissa % 2 = 0
  | _, _ => false

/-- The neighbour of `value` on the grid of the multiples of `10 ^ power` that rounds to it, if one
does. -/
def Binary.onGrid? (value : Binary) (power : Int) : Option Nat :=
  let exact := value.quarters (4 * value.mantissa)
  let below := exact.floorScaled power
  match value.readsBack below power, value.readsBack (below + 1) power with
  | false, false => none
  | true, false => some below
  | false, true => some (below + 1)
  | true, true =>
    let doubled := value.quarters (8 * value.mantissa)
    match doubled.compareScaled (2 * below + 1) power with
    | .lt => some below
    | .gt => some (below + 1)
    | .eq => some (if below % 2 = 0 then below else below + 1)

/-- Moves the trailing zeros of the digits into the exponent. -/
def Scientific.stripped (number : Scientific) : Scientific :=
  let zeros := ((Nat.toDigits 10 number.digits).reverse.takeWhile (· == '0')).length
  if number.digits = 0 then number
  else ⟨number.digits / Nat.pow 10 zeros, number.exponent + zeros⟩

/-- The shortest decimal that reads back as the positive `value`. -/
def Binary.shortest (value : Binary) : Scientific :=
  let exact := value.quarters (4 * value.mantissa)
  let scale := exact.scale
  let found := (List.range 17).findSome? fun index ↦
    let power := scale - (index + 1 : Nat)
    (value.onGrid? power).map fun count ↦ (⟨count, power⟩ : Scientific)
  match found with
  | some number => number.stripped
  | none => ⟨exact.floorScaled (scale - 17), scale - 17⟩

end BinaryLayout.Decimal
