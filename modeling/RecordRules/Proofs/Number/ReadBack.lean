import RecordRules.Proofs.Number.Numeral
import RecordRules.Proofs.Number.Rounding

/-!
# Numbers are read back from their text

The shortest decimal of a magnitude rounds to that magnitude, and writing a decimal positionally
makes a numeral that rounds as the decimal does. So the text of every finite number is a numeral
whose value is the number again: no digit is lost and the sign of a zero is kept. The other values
have names, and these are read back as well.
-/

namespace RecordRules.Number

/-- The shortest decimal of a magnitude rounds to the magnitude. A candidate is taken only if it
does, the exact decimal behind the candidates always does, and zeros at the end do not matter. -/
theorem Magnitude.nearest_shortest (magnitude : Magnitude) :
    magnitude.shortest.nearest? = some magnitude := by
  unfold shortest
  split
  · rename_i nothing
    obtain ⟨significand, exponent, canonical⟩ := magnitude
    obtain rfl : significand = 0 := nothing
    obtain rfl : exponent = 0 := canonical.2.2.resolve_right (by decide)
    rfl
  · rw [Decimal.nearest_trimmed]
    cases found : (List.range' 1 17).findSome? magnitude.withDigits? with
    | none => exact magnitude.nearest_exact
    | some decimal =>
      obtain ⟨count, _, chosen⟩ := List.exists_of_findSome?_eq_some found
      have reads : magnitude.readsBack decimal = true := List.find?_some chosen
      exact of_decide_eq_true reads

namespace Decimal

/-- Digits followed by zeros are the digits times a power of ten. -/
theorem of_digits_zeros (digits zeros : Nat) :
    ofDigits (Nat.toDigits 10 digits ++ List.replicate zeros '0') = digits * tenTo zeros := by
  rw [ofDigits, Nat.ofDigitChars_append, Nat.ofDigitChars_ten_toDigits,
    Nat.ofDigitChars_replicate_zero]
  exact Nat.mul_comm _ _

/-- Zeros in front of digits do not count. -/
theorem of_zeros_digits (zeros digits : Nat) :
    ofDigits (List.replicate zeros '0' ++ Nat.toDigits 10 digits) = digits := by
  rw [ofDigits, Nat.ofDigitChars_append, Nat.ofDigitChars_replicate_zero, Nat.mul_zero,
    Nat.ofDigitChars_ten_toDigits]

/-- The digits of a number and the zeros beside them are digits. -/
theorem digit_of_mem {digits zeros : Nat} {char : Char}
    (member : char ∈ Nat.toDigits 10 digits ∨ char ∈ List.replicate zeros '0') :
    char.isDigit = true := by
  rcases member with digit | zero
  · exact Nat.isDigit_of_mem_toDigits (by decide) (by decide) digit
  · rw [List.eq_of_mem_replicate zero]
    decide

/-- A decimal that is written positionally is a numeral which rounds as the decimal does, with or
without a minus sign in front. A power of ten is written as zeros; a fraction keeps the digits and
the power as they are, and zeros fill the places in front of the digits. -/
theorem positional_numeral (decimal : Decimal) (sign : List Char)
    (signed : sign = [] ∨ sign = ['-'] ∨ sign = ['+']) :
    ∃ numeral : Numeral, numeral.sign = sign ∧ numeral.chars = sign ++ decimal.positional ∧
      numeral.decimal.nearest? = decimal.nearest? := by
  obtain ⟨digits, exponent⟩ := decimal
  by_cases upward : 0 ≤ exponent
  · have digit : ∀ char ∈ Nat.toDigits 10 digits ++ List.replicate exponent.toNat '0',
        char.isDigit = true := by
      intro char member
      exact digit_of_mem (List.mem_append.mp member)
    refine ⟨⟨sign, Nat.toDigits 10 digits ++ List.replicate exponent.toNat '0', [], signed,
      by simp [Nat.toDigits_ne_nil], digit, by simp⟩, rfl, ?_, ?_⟩
    · simp [Numeral.chars, Numeral.point, positional, upward]
    · have moved := nearest_moved digits exponent.toNat exponent
      have whole : exponent - (exponent.toNat : Int) = 0 := by omega
      rw [whole] at moved
      rw [← moved, ← of_digits_zeros, Numeral.decimal, List.append_nil]
      rfl
  · let places := (-exponent).toNat
    let padded := List.replicate (places + 1 - (Nat.toDigits 10 digits).length) '0' ++
      Nat.toDigits 10 digits
    have fractional : 0 < places := by omega
    have long : places < padded.length := by
      simp only [padded, List.length_append, List.length_replicate]
      omega
    have digit : ∀ char ∈ padded, char.isDigit = true := by
      intro char member
      exact digit_of_mem (List.mem_append.mp member).symm
    have behind : (padded.drop (padded.length - places)).length = places := by
      rw [List.length_drop]
      omega
    have some : padded.drop (padded.length - places) ≠ [] := by
      rw [← List.length_pos_iff, behind]
      exact fractional
    refine ⟨⟨sign, padded.take (padded.length - places), padded.drop (padded.length - places),
      signed, ?_, fun char member => digit char (List.mem_of_mem_take member),
      fun char member => digit char (List.mem_of_mem_drop member)⟩, rfl, ?_, ?_⟩
    · rw [← List.length_pos_iff, List.length_take]
      omega
    · simp only [Numeral.chars, Numeral.point, if_neg some, positional, if_neg upward]
      rfl
    · have exact : (-(places : Int)) = exponent := by omega
      have value : ofDigits padded = digits := of_zeros_digits _ digits
      simp only [Numeral.decimal, List.take_append_drop, behind, exact, value]

end Decimal

/-- The text of a finite number is a numeral with that number as its value. -/
theorem Binary64.finite_numeral (negative : Bool) (magnitude : Magnitude) :
    ∃ numeral : Numeral, numeral.chars = (finite negative magnitude).text ∧
      numeral.value = finite negative magnitude := by
  have signed : (if negative then ['-'] else []) = [] ∨
      (if negative then ['-'] else []) = ['-'] ∨ (if negative then ['-'] else []) = ['+'] := by
    cases negative <;> decide
  obtain ⟨numeral, sign, chars, rounded⟩ :=
    magnitude.shortest.positional_numeral (if negative then ['-'] else []) signed
  have below : decide (numeral.sign = ['-']) = negative := by
    rw [sign]
    cases negative <;> decide
  refine ⟨numeral, chars, ?_⟩
  rw [Numeral.value, Decimal.toBinary64, rounded, Magnitude.nearest_shortest, below]
  rfl

/-- Every number is read back from its text as the same number. -/
theorem Binary64.read_text (number : Binary64) : read number.text = .ok number := by
  cases number with
  | nan => decide
  | infinite negative => cases negative <;> decide
  | finite negative magnitude =>
    obtain ⟨numeral, chars, value⟩ := finite_numeral negative magnitude
    rw [← chars, numeral.read_chars, value]

end RecordRules.Number
