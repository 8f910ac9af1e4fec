/-!
# Binary floating point, exactly

A floating-point number of 64 bits is a significand of at most 53 bits times a power of two, an
infinity, or not a number. Here it is kept in that form, so that reading and writing it are
questions about natural numbers.

`ofDecimal` reads a decimal. It rounds to the nearest number, and in the middle between two to the
one with the even significand. What is too large for the format becomes an infinity, and what is
too small becomes zero, which has a sign too.
-/

namespace DroolsInk

/-- A floating-point number of 64 bits. -/
inductive Binary64 where
  /-- The number `significand * 2 ^ exponent`, with a sign. -/
  | finite (negative : Bool) (significand : Nat) (exponent : Int)
  | infinite (negative : Bool)
  | nan
  deriving DecidableEq, Repr

namespace Binary64

def minExponent : Int := -1074

def maxExponent : Int := 971

def leastNormal : Nat := Nat.pow 2 52

/-- The power of a base, or one if the exponent is negative. A fraction is multiplied by a power of
any exponent when its numerator is multiplied by this and its denominator by the same for the
opposite exponent. -/
def scale (base : Nat) (exponent : Int) : Nat := Nat.pow base exponent.toNat

/-- The quotient of two numbers, rounded to the nearest, and to the even one in the middle. -/
def roundQuotient (numerator denominator : Nat) : Nat :=
  let quotient := numerator / denominator
  let twice := 2 * (numerator % denominator)
  if twice < denominator then quotient
  else if denominator < twice then quotient + 1
  else quotient + quotient % 2

/-- The exponent of the greatest power of two that the fraction reaches; both parts are positive. -/
def binaryOrder (numerator denominator : Nat) : Int :=
  let guess : Int := numerator.log2 - denominator.log2
  if numerator * scale 2 (-guess) < denominator * scale 2 guess then guess - 1 else guess

/-- The number nearest to a positive fraction. -/
def ofFraction (negative : Bool) (numerator denominator : Nat) : Binary64 :=
  let exponent := max (binaryOrder numerator denominator - 52) minExponent
  let significand :=
    roundQuotient (numerator * scale 2 (-exponent)) (denominator * scale 2 exponent)
  let carried := significand = 2 * leastNormal
  let exponent := if carried then exponent + 1 else exponent
  if maxExponent < exponent then .infinite negative
  else .finite negative (if carried then leastNormal else significand) exponent

/-- The number nearest to `digits * 10 ^ power`. A decimal that is out of all proportion to the
format is settled by the number of its digits alone. -/
def ofDecimal (negative : Bool) (digits : Nat) (power : Int) : Binary64 :=
  let order : Int := (Nat.toDigits 10 digits).length + power
  if digits = 0 ∨ order < -330 then .finite negative 0 0
  else if 310 < order then .infinite negative
  else ofFraction negative (digits * scale 10 power) (scale 10 (-power))

end Binary64

end DroolsInk
