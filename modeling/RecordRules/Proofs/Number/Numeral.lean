import RecordRules.Number.Reading
import RecordRules.Proofs.Text.Characters

/-!
# Numerals and their values

A numeral is an optional sign, digits, and an optional point with more digits. Its digits in a row
are a natural number, and each digit behind the point divides it by ten; the value of the numeral
is the double nearest to that decimal. Reading the text of a numeral gives its value, so no numeral
is refused, however many digits it has.
-/

namespace RecordRules.Number

open Characters

/-- A decimal numeral without a power of ten. -/
structure Numeral where
  sign : List Char
  whole : List Char
  fraction : List Char
  signed : sign = [] ∨ sign = ['-'] ∨ sign = ['+']
  whole_ne_nil : whole ≠ []
  whole_digits : ∀ char ∈ whole, char.isDigit = true
  fraction_digits : ∀ char ∈ fraction, char.isDigit = true

namespace Numeral

/-- The point with the digits behind it, if there are any. -/
def point (numeral : Numeral) : List Char :=
  if numeral.fraction = [] then [] else '.' :: numeral.fraction

/-- The text of a numeral. -/
def chars (numeral : Numeral) : List Char := numeral.sign ++ (numeral.whole ++ numeral.point)

/-- The number that the digits write, without the sign. -/
def decimal (numeral : Numeral) : Decimal :=
  ⟨Decimal.ofDigits (numeral.whole ++ numeral.fraction), -numeral.fraction.length⟩

/-- The double nearest to the numeral. -/
def value (numeral : Numeral) : Binary64 :=
  numeral.decimal.toBinary64 (decide (numeral.sign = ['-']))

/-- A point is no digit, and nothing is not either. -/
theorem clear_point (numeral : Numeral) : Clear Char.isDigit numeral.point := by
  unfold point
  split
  · exact clear_nil _
  · exact clear_cons (by decide)

/-- The digits before the point begin with a digit. -/
theorem whole_eq_cons (numeral : Numeral) :
    ∃ first rest, numeral.whole = first :: rest ∧ first.isDigit = true := by
  cases digits : numeral.whole with
  | nil => exact absurd digits numeral.whole_ne_nil
  | cons first rest =>
    exact ⟨first, rest, rfl, numeral.whole_digits first (by simp [digits])⟩

/-- What stands behind the digits before the point is the fraction and nothing else. -/
theorem split_fraction_point (numeral : Numeral) :
    Decimal.splitFraction numeral.point = (numeral.fraction, []) := by
  obtain ⟨taken, dropped⟩ := take_run numeral.fraction_digits (clear_nil Char.isDigit)
  rw [List.append_nil] at taken dropped
  unfold point
  split
  · rename_i none
    rw [none]
    rfl
  · simp only [Decimal.splitFraction, taken, dropped]

/-- The digits of a numeral are read as its decimal. -/
theorem read_decimal (numeral : Numeral) :
    Decimal.read? (numeral.whole ++ numeral.point) = some numeral.decimal := by
  obtain ⟨taken, dropped⟩ := take_run numeral.whole_digits numeral.clear_point
  have digits : numeral.whole ++ numeral.fraction ≠ [] := by simp [numeral.whole_ne_nil]
  simp only [Decimal.read?, taken, dropped, split_fraction_point, if_neg digits,
    Decimal.readEnding?, Option.map_some, decimal]
  simp

/-- A sign is split off, and where there is none the first digit is not taken for one. -/
theorem split_sign_chars (numeral : Numeral) :
    Decimal.splitSign numeral.chars =
      (decide (numeral.sign = ['-']), numeral.whole ++ numeral.point) := by
  obtain ⟨first, rest, starts, digit⟩ := numeral.whole_eq_cons
  unfold chars
  rcases numeral.signed with none | minus | plus
  · have noMinus : first ≠ '-' := ne_of_class digit (by decide)
    have noPlus : first ≠ '+' := ne_of_class digit (by decide)
    simp [none, starts, Decimal.splitSign, noMinus, noPlus]
  · simp [minus, Decimal.splitSign]
  · simp [plus, Decimal.splitSign]

/-- The text of a numeral is read as its value. -/
theorem read_chars (numeral : Numeral) : Binary64.read numeral.chars = .ok numeral.value := by
  have something : numeral.chars ≠ [] := by simp [chars, numeral.whole_ne_nil]
  simp only [Binary64.read, if_neg something, split_sign_chars, read_decimal, value]

end Numeral

end RecordRules.Number
