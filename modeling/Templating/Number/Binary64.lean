/-!
# Binary floating point

The finite values of the 64-bit binary format as `significand * 2 ^ exponent`.
A quotient is rounded to the nearest of them, and products and quotients of
values are rounded once.  Everything is exact arithmetic on natural numbers.
-/

namespace Templating.Number

/-- The value `significand * 2 ^ exponent`, without a sign. -/
structure Binary64 where
  significand : Nat
  exponent : Int
  deriving DecidableEq, Repr

instance : Inhabited Binary64 := ⟨⟨0, 0⟩⟩

/-- A power of two. -/
def twoTo (power : Nat) : Nat := Nat.pow 2 power

/-- A power of ten. -/
def tenTo (power : Nat) : Nat := Nat.pow 10 power

/-- The quotient rounded to the nearest integer, a half to the even one. -/
def roundQuotient (numerator denominator : Nat) : Nat :=
  let quotient := numerator / denominator
  let twice := 2 * (numerator % denominator)
  if twice < denominator then quotient
  else if denominator < twice then quotient + 1
  else quotient + quotient % 2

/-- The smallest exponent of the format. -/
def minExponent : Int := -1074

/-- The largest exponent of a finite value. -/
def maxExponent : Int := 971

/-- The largest `power` with `2 ^ power` at most the positive quotient. -/
def binaryLogarithm (numerator denominator : Nat) : Int :=
  let guess : Int := (Nat.log2 numerator : Int) - Nat.log2 denominator
  if denominator * twoTo guess.toNat ≤ numerator * twoTo (-guess).toNat then
    guess
  else
    guess - 1

namespace Binary64

/-- The value nearest to a positive quotient; none if that is too large. -/
def nearestPositive? (numerator denominator : Nat) : Option Binary64 :=
  let exponent := max minExponent (binaryLogarithm numerator denominator - 52)
  let rounded :=
    roundQuotient (numerator * twoTo (-exponent).toNat)
      (denominator * twoTo exponent.toNat)
  let (significand, exponent) :=
    if rounded = twoTo 53 then (twoTo 52, exponent + 1) else (rounded, exponent)
  if exponent ≤ maxExponent then some ⟨significand, exponent⟩ else none

/-- The value nearest to a quotient; none if that is too large. -/
def nearest? (numerator denominator : Nat) : Option Binary64 :=
  if numerator = 0 then some ⟨0, 0⟩ else nearestPositive? numerator denominator

/-- The value nearest to `numerator / denominator * 2 ^ exponent`. -/
def nearestScaled? (numerator denominator : Nat) (exponent : Int) :
    Option Binary64 :=
  nearest? (numerator * twoTo exponent.toNat)
    (denominator * twoTo (-exponent).toNat)

/-- The rounded product; none if it is too large. -/
def times? (left right : Binary64) : Option Binary64 :=
  nearestScaled? (left.significand * right.significand) 1
    (left.exponent + right.exponent)

/-- The rounded quotient; none if it is too large. -/
def dividedBy? (left right : Binary64) : Option Binary64 :=
  nearestScaled? left.significand right.significand
    (left.exponent - right.exponent)

end Binary64

end Templating.Number
