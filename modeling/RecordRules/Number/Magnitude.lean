/-!
# Magnitudes of floating point numbers

A finite double precision number is a sign and a magnitude. The magnitude is a whole number of
units of 2⁻¹⁰⁷⁴, the smallest positive one, and it is kept as a significand below 2⁵³ and a
power of two. The pair is unique: below the normal range the power is zero, and above it the
significand has all of its 53 bits. So two magnitudes are equal exactly when they are the same
pair, and they are ordered by the power first.

Everything inexact goes through one operation, the magnitude nearest to a quotient of natural
numbers. It works in exact arithmetic and rounds once.
-/

namespace RecordRules.Number

/-- Units of the smallest positive magnitude in the number one. -/
def unitsInOne : Nat := 1 <<< 1074

/-- A finite magnitude: `significand` times two to the `exponent`, counted in units. -/
structure Magnitude where
  significand : Nat
  exponent : Nat
  canonical : significand < 1 <<< 53 ∧ exponent < 2046 ∧ (exponent = 0 ∨ 1 <<< 52 ≤ significand)
  deriving DecidableEq

namespace Magnitude

/-- Nothing at all. -/
def zero : Magnitude := ⟨0, 0, by decide⟩

/-- The exact value, as a number of units. -/
def units (magnitude : Magnitude) : Nat := magnitude.significand <<< magnitude.exponent

/-- A number that orders magnitudes as their values do: the power of two counts first. -/
def rank (magnitude : Magnitude) : Nat := magnitude.exponent <<< 53 + magnitude.significand

/-- A number beyond the rank of every magnitude. -/
def rankBound : Nat := 2046 <<< 53

/-- The natural number nearest to a quotient; a half goes to the even neighbour. -/
def roundHalfEven (dividend divisor : Nat) : Nat :=
  let below := dividend / divisor
  let twice := 2 * (dividend % divisor)
  if twice < divisor then below
  else if divisor < twice then below + 1
  else below + below % 2

/-- The pair as a magnitude. A significand that rounding has carried to 2⁵³ is halved into the
next power first; a pair beyond the largest magnitude has none. -/
def ofPair? (significand exponent : Nat) : Option Magnitude :=
  let carried := significand = 1 <<< 53
  let significand := if carried then 1 <<< 52 else significand
  let exponent := if carried then exponent + 1 else exponent
  if canonical : significand < 1 <<< 53 ∧ exponent < 2046 ∧ (exponent = 0 ∨ 1 <<< 52 ≤ significand)
  then some ⟨significand, exponent, canonical⟩
  else none

/-- The magnitude nearest to a quotient, taken in units, or nothing if that lies beyond the
largest one. The power is chosen so that the quotient keeps 53 bits before its point, or is zero
where there are fewer. -/
def nearest? (dividend divisor : Nat) : Option Magnitude :=
  let exponent := (dividend / divisor).log2 - 52
  ofPair? (roundHalfEven dividend (divisor <<< exponent)) exponent

/-- The magnitude nearest to a natural number. -/
def ofNat? (number : Nat) : Option Magnitude := nearest? (number * unitsInOne) 1

/-- The product of two magnitudes, rounded once. -/
def times? (left right : Magnitude) : Option Magnitude :=
  nearest? (left.units * right.units) unitsInOne

/-- The quotient of two magnitudes, rounded once. -/
def over? (left right : Magnitude) : Option Magnitude :=
  nearest? (left.units * unitsInOne) right.units

end Magnitude

end RecordRules.Number
