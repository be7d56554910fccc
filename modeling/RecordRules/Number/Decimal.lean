import RecordRules.Number.Binary64

/-!
# Decimal numbers

A decimal is a whole number of digits with a power of ten. Three things are done with one: it is
written positionally, without a power of ten however large or small it is; it loses the zeros at
its end; and it is rounded to the nearest double precision number.
-/

namespace RecordRules.Number

/-- A power of ten. -/
def tenTo (power : Nat) : Nat := Nat.pow 10 power

/-- The number `digits` times ten to the `exponent`. -/
structure Decimal where
  digits : Nat
  exponent : Int
  deriving DecidableEq

namespace Decimal

/-- The decimal as a quotient of natural numbers, in units of the smallest magnitude. -/
def quotient (decimal : Decimal) : Nat × Nat :=
  if 0 ≤ decimal.exponent then
    (decimal.digits * tenTo decimal.exponent.toNat * unitsInOne, 1)
  else
    (decimal.digits * unitsInOne, tenTo (-decimal.exponent).toNat)

/-- The magnitude nearest to the decimal, or nothing if it is too large. Powers of ten far
outside the range are settled without computing them: above, every number but zero is too large,
and below, every number is less than half of the smallest magnitude. -/
def nearest? (decimal : Decimal) : Option Magnitude :=
  if decimal.digits = 0 then some .zero
  else if 400 < decimal.exponent then none
  else if decimal.exponent + decimal.digits.log2 < -400 then some .zero
  else Magnitude.nearest? decimal.quotient.1 decimal.quotient.2

/-- The double nearest to the decimal with a sign. -/
def toBinary64 (negative : Bool) (decimal : Decimal) : Binary64 :=
  .ofMagnitude? negative decimal.nearest?

/-- Moves up to `bound` zeros from the end of the digits into the power of ten. -/
def trimWithin : Nat → Decimal → Decimal
  | 0, decimal => decimal
  | bound + 1, decimal =>
    if decimal.digits ≠ 0 ∧ decimal.digits % 10 = 0 then
      trimWithin bound ⟨decimal.digits / 10, decimal.exponent + 1⟩
    else decimal

/-- The same number with no zero at the end of its digits. A number has fewer zeros at its end
than its own value, so none is left over. -/
def trimmed (decimal : Decimal) : Decimal := trimWithin decimal.digits decimal

/-- The digits in positional notation: zeros fill the places up to the point, and a fraction is
written only if there is one. -/
def positional (decimal : Decimal) : List Char :=
  let digits := Nat.toDigits 10 decimal.digits
  if 0 ≤ decimal.exponent then
    digits ++ List.replicate decimal.exponent.toNat '0'
  else
    let places := (-decimal.exponent).toNat
    let padded := List.replicate (places + 1 - digits.length) '0' ++ digits
    padded.take (padded.length - places) ++ '.' :: padded.drop (padded.length - places)

example : String.ofList (positional ⟨15, 2⟩) = "1500" := by decide +kernel
example : String.ofList (positional ⟨15, -1⟩) = "1.5" := by decide +kernel
example : String.ofList (positional ⟨1, -7⟩) = "0.0000001" := by decide +kernel

end Decimal

end RecordRules.Number
