import Templating.Json.Basic

/-!
# Numbers in JSON

The value of a number from its digits.  Of the digits of a decimal only those
count that fit 64 bits; the number they make is rounded to a binary
floating-point value and scaled by a power of ten, with one rounding for every
step.  A decimal of up to fifteen digits and a small exponent is therefore read
as the nearest value; one of more digits can be read as a neighbour of it.
-/

namespace Templating.Number.Binary64

/-- The value of a power of ten. -/
def powerOfTen? (power : Nat) : Option Binary64 :=
  nearest? (tenTo power) 1

/-- The largest power of ten with a value. -/
def maxPowerOfTen : Nat := 308

/-- The value divided a number of times by the largest power of ten; zero stays
zero. -/
def shrunk? : (times : Nat) → Binary64 → Option Binary64
  | 0, value => some value
  | times + 1, value =>
      if value.significand = 0 then
        some value
      else
        ((powerOfTen? maxPowerOfTen).bind value.dividedBy?).bind (shrunk? times)

/-- The value divided by a power of ten; beyond the largest power with a value
this takes several quotients. -/
def dividedByTen? (value : Binary64) (power : Nat) : Option Binary64 :=
  let times := (power - 1) / maxPowerOfTen
  (value.shrunk? times).bind fun smaller =>
    (powerOfTen? (power - times * maxPowerOfTen)).bind smaller.dividedBy?

/-- The value scaled by a power of ten; none if that is too large. -/
def scaledByTen? (value : Binary64) (power : Int) : Option Binary64 :=
  if value.significand = 0 then
    some value
  else if power < 0 then
    value.dividedByTen? (-power).toNat
  else if power ≤ maxPowerOfTen then
    (powerOfTen? power.toNat).bind value.times?
  else
    none

end Templating.Number.Binary64

namespace Templating.Json

/-- The bound of unsigned numbers of 64 bits. -/
def wordBound : Nat := 18446744073709551616

/-- Appends digits to a number as long as it fits 64 bits.  Gives the number and
the digits that are left. -/
def takeFitting (number : Nat) : List Char → Nat × List Char
  | [] => (number, [])
  | digit :: rest =>
      let longer := 10 * number + (digit.toNat - '0'.toNat)
      if longer < wordBound then
        takeFitting longer rest
      else
        (number, digit :: rest)

/-- The value of a decimal with these digits before and behind the point;
unreadable if it is too large. -/
def ofDecimal (negative : Bool) (whole places : List Char) (exponent : Int) :
    Json :=
  let (number, droppedWhole) := takeFitting 0 whole
  let (number, droppedPlaces) := takeFitting number places
  let usedPlaces := places.length - droppedPlaces.length
  let power : Int := exponent + droppedWhole.length - usedPlaces
  match (Number.Binary64.nearest? number 1).bind (·.scaledByTen? power) with
  | some magnitude => .decimal negative magnitude
  | none => .unreadable

/-- The value of a number.  Without point and exponent it is an integer, except
that negative zero and integers beyond 64 bits are decimals. -/
def ofNumber (negative : Bool) (whole : List Char) (places : Option (List Char))
    (exponent : Option Int) : Json :=
  match places, exponent with
  | none, none =>
      let magnitude := Nat.ofDigitChars 10 whole 0
      if negative && magnitude = 0 then
        ofDecimal negative whole [] 0
      else
        match JsonInteger.ofInt? (if negative then -magnitude else magnitude) with
        | some number => .integer number
        | none => ofDecimal negative whole [] 0
  | _, _ => ofDecimal negative whole (places.getD []) (exponent.getD 0)

end Templating.Json
