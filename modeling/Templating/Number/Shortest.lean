import Templating.Number.Binary64

/-!
# Shortest decimals

The decimal with the fewest digits that reads back as a binary floating-point
value, and its text.
-/

namespace Templating.Number

/-- The value `digits * 10 ^ exponent`, without a sign. -/
structure Decimal where
  digits : Nat
  exponent : Int
  deriving DecidableEq, Repr

/-- The largest `power` with `10 ^ power` at most the positive quotient. -/
def decimalLogarithm (numerator denominator : Nat) : Int :=
  if denominator ≤ numerator then
    ((Nat.toDigits 10 (numerator / denominator)).length : Int) - 1
  else
    let places := (Nat.toDigits 10 (denominator / numerator)).length
    if denominator = numerator * tenTo (places - 1) then
      1 - (places : Int)
    else
      -(places : Int)

namespace Binary64

/-- Four times the significand, so that the bounds of the interval of numbers
that round to the value are whole as well. -/
def scaled (value : Binary64) : Nat :=
  4 * value.significand

/-- The lower bound in the units of `scaled`.  Below a power of two the format
is twice as dense. -/
def scaledLow (value : Binary64) : Nat :=
  if value.significand = twoTo 52 && minExponent < value.exponent then
    value.scaled - 1
  else
    value.scaled - 2

/-- The upper bound in the units of `scaled`. -/
def scaledHigh (value : Binary64) : Nat :=
  value.scaled + 2

/-- The decimal on the grid `10 ^ power` that reads back as the value; of two
the nearer, and of two equally near the even one. -/
def onGrid? (value : Binary64) (power : Int) : Option Decimal :=
  let up := twoTo value.exponent.toNat * tenTo (-power).toNat
  let unit := 4 * twoTo (-value.exponent).toNat * tenTo power.toNat
  let target := value.scaled * up
  let closed := value.significand % 2 = 0
  let readsBack (candidate : Nat) : Bool :=
    let place := candidate * unit
    if closed then
      value.scaledLow * up ≤ place && place ≤ value.scaledHigh * up
    else
      value.scaledLow * up < place && place < value.scaledHigh * up
  let below := target / unit
  let nearer := roundQuotient target unit
  let other := if nearer = below then below + 1 else below
  if readsBack nearer then some ⟨nearer, power⟩
  else if readsBack other then some ⟨other, power⟩
  else none

/-- The first hit on the grids with `digits`, `digits + 1`, … digits. -/
def shortestFrom (value : Binary64) (magnitude : Int) :
    (digits attempts : Nat) → Decimal
  | _, 0 => ⟨0, 0⟩
  | digits, attempts + 1 =>
      match value.onGrid? (magnitude - digits + 1) with
      | some decimal => decimal
      | none => value.shortestFrom magnitude (digits + 1) attempts

/-- The decimal with the fewest digits that reads back as the value. -/
def shortest (value : Binary64) : Decimal :=
  if value.significand = 0 then
    ⟨0, 0⟩
  else
    let magnitude :=
      decimalLogarithm (value.significand * twoTo value.exponent.toNat)
        (twoTo (-value.exponent).toNat)
    value.shortestFrom magnitude 1 17

end Binary64

/-- Drops zeros at the end of the digits. -/
def Decimal.withoutTrailingZeros : (attempts : Nat) → Decimal → Decimal
  | 0, decimal => decimal
  | attempts + 1, decimal =>
      if decimal.digits % 10 = 0 && decimal.digits ≠ 0 then
        withoutTrailingZeros attempts
          ⟨decimal.digits / 10, decimal.exponent + 1⟩
      else
        decimal

/-- The decimal in text form.  Magnitudes from `10 ^ -5` to below `10 ^ 16` are
positional with at least one place; all others have one digit before the point
and a signed exponent. -/
def Decimal.text (decimal : Decimal) : List Char :=
  if decimal.digits = 0 then
    "0.0".toList
  else
    let decimal := decimal.withoutTrailingZeros 20
    let digits := Nat.toDigits 10 decimal.digits
    let magnitude : Int := decimal.exponent + digits.length - 1
    if -5 ≤ magnitude && magnitude < 0 then
      "0.".toList ++ List.replicate (-magnitude - 1).toNat '0' ++ digits
    else if 0 ≤ magnitude && magnitude < 16 then
      let whole := magnitude.toNat + 1
      let places := digits.drop whole
      digits.take whole ++ List.replicate (whole - digits.length) '0' ++
        '.' :: (if places.isEmpty then ['0'] else places)
    else
      let places := digits.drop 1
      digits.take 1 ++ (if places.isEmpty then [] else '.' :: places) ++
        'e' :: (if magnitude < 0 then '-' else '+') ::
          Nat.toDigits 10 magnitude.natAbs

end Templating.Number
