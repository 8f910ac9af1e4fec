import DroolsInk.Decimal.Binary64

/-!
# The shortest decimal that reads back

Many decimals are read as the same floating-point number: those nearer to it than to its two
neighbours, and the two in the middle as well if its significand is even. A number is written with
the fewest digits that lie in this range. If two decimals of that many digits do, the nearer one is
taken, and the greater one if neither is nearer.

For a given number of digits only the two multiples of the power of ten that enclose the number can
come into question, so it is enough to try these for one digit, two digits, and so on; seventeen
digits always suffice.

All quantities are scaled by one common factor, which makes them natural numbers.
-/

namespace DroolsInk.Shortest

/-- A decimal: `digits * 10 ^ power`. -/
structure Decimal where
  digits : Nat
  power : Int
  deriving DecidableEq, Repr

/-- The range of reals that are read as one number. All three are in units of a common fraction of
one, `scale` of which make one. -/
structure Range where
  low : Nat
  value : Nat
  high : Nat
  scale : Nat
  /-- Whether the two ends belong to the range. -/
  closed : Bool

/-- The range of a finite positive number. Below a power of two the neighbours are half as far. -/
def rangeOf (significand : Nat) (exponent : Int) : Range :=
  let unit := Binary64.scale 2 (exponent - 2)
  let below :=
    if significand = Binary64.leastNormal ∧ Binary64.minExponent < exponent then 1 else 2
  { low := (4 * significand - below) * unit
    value := 4 * significand * unit
    high := (4 * significand + 2) * unit
    scale := Binary64.scale 2 (2 - exponent)
    closed := significand % 2 = 0 }

/-- Whether a decimal lies in the range. -/
def Range.contains (range : Range) (decimal : Decimal) : Bool :=
  let point := decimal.digits * Binary64.scale 10 decimal.power * range.scale
  let unit := Binary64.scale 10 (-decimal.power)
  if range.closed then range.low * unit ≤ point && point ≤ range.high * unit
  else range.low * unit < point && point < range.high * unit

/-- The decimal with that power of ten that lies in the range and is nearest to the value. -/
def Range.nearest? (range : Range) (power : Int) : Option Decimal :=
  let unit := Binary64.scale 10 power * range.scale
  let value := range.value * Binary64.scale 10 (-power)
  let floor : Decimal := ⟨value / unit, power⟩
  let ceiling : Decimal := ⟨value / unit + 1, power⟩
  match range.contains floor, range.contains ceiling with
  | true, true => some (if 2 * (value % unit) < unit then floor else ceiling)
  | true, false => some floor
  | false, true => some ceiling
  | false, false => none

/-- The power of ten of the first digit of the value, or one more. -/
def Range.order (range : Range) : Int :=
  if range.scale ≤ range.value then (Nat.toDigits 10 (range.value / range.scale)).length
  else 1 - (Nat.toDigits 10 (range.scale / range.value)).length

/-- The shortest decimal that is read as the number. -/
def ofFinite (significand : Nat) (exponent : Int) : Decimal :=
  let range := rangeOf significand exponent
  let powers := (List.range 19).map fun (count : Nat) => range.order - (count : Int)
  (powers.findSome? range.nearest?).getD ⟨0, 0⟩

/-- The digits of a decimal that is not zero, with the point after so many of them. -/
def Decimal.positional (decimal : Decimal) : List Char :=
  let digits := Nat.toDigits 10 decimal.digits
  if 0 ≤ decimal.power then digits ++ List.replicate decimal.power.toNat '0' ++ ['.', '0']
  else
    let places := (-decimal.power).toNat
    let padded := List.replicate (places + 1 - digits.length) '0' ++ digits
    let whole := padded.length - places
    padded.take whole ++ '.' :: padded.drop whole

end DroolsInk.Shortest
