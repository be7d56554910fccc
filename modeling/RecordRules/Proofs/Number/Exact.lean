import RecordRules.Proofs.Number.Rounding

/-!
# Numbers that are exact as doubles

A number of at most 2⁵³ is a magnitude, and stays one when powers of two multiply it as far as the
range goes. So it is converted without rounding, and so is a power of ten up to the twenty-second,
whose odd part is a power of five below 2⁵³. The quotient of two such numbers is rounded once, as
the decimal that they write is. A quotient is in range as long as its leading bit is.
-/

namespace RecordRules.Number

namespace Magnitude

/-- A number up to 2⁵³ with a power of two within the range is a magnitude. The induction moves a
factor of two from the power to the number, until the number has 53 bits or the power is used up.
-/
theorem exists_units (number power : Nat) (short : number ≤ 2 ^ 53) (within : power ≤ 2044) :
    ∃ magnitude : Magnitude, magnitude.units = number * 2 ^ power := by
  induction power generalizing number with
  | zero =>
    by_cases carried : number = 2 ^ 53
    · refine ⟨⟨1 <<< 52, 1, by decide⟩, ?_⟩
      rw [carried]
      rfl
    · exact ⟨⟨number, 0, by omega, by decide, .inl rfl⟩, by simp [units]⟩
  | succ power inductionHypothesis =>
    by_cases normal : 2 ^ 52 ≤ number
    · by_cases carried : number = 2 ^ 53
      · have halved : 2 ^ 52 * 2 ^ (power + 2) = 2 ^ 53 * 2 ^ (power + 1) := by ring
        refine ⟨⟨1 <<< 52, power + 2, by decide, by omega, .inr (Nat.le_refl _)⟩, ?_⟩
        rw [carried]
        exact (Nat.shiftLeft_eq _ _).trans halved
      · exact ⟨⟨number, power + 1, by omega, by omega, .inr (by omega)⟩, Nat.shiftLeft_eq _ _⟩
    · obtain ⟨magnitude, exact⟩ := inductionHypothesis (2 * number) (by omega) (by omega)
      refine ⟨magnitude, ?_⟩
      rw [exact, Nat.pow_succ]
      ring

/-- A number of at most 53 bits with a power of two is converted exactly. -/
theorem of_nat_exact (number power : Nat) (short : number ≤ 2 ^ 53) (within : power ≤ 970) :
    ∃ magnitude, ofNat? (number * 2 ^ power) = some magnitude ∧
      magnitude.units = number * 2 ^ power * unitsInOne := by
  obtain ⟨shift, wide, one⟩ := units_in_one
  obtain ⟨magnitude, exact⟩ := exists_units number (power + shift) short (by omega)
  have units : magnitude.units = number * 2 ^ power * unitsInOne := by
    rw [exact, one, Nat.pow_add, Nat.mul_assoc]
  refine ⟨magnitude, ?_, units⟩
  rw [ofNat?, ← units]
  exact nearest_units magnitude

/-- Dividing magnitudes that are whole numbers rounds the quotient of the numbers. -/
theorem over_exact {left right : Magnitude} {dividend divisor : Nat}
    (above : left.units = dividend * unitsInOne) (below : right.units = divisor * unitsInOne) :
    left.over? right = nearest? (dividend * unitsInOne) divisor := by
  have positive : 0 < unitsInOne := by
    obtain ⟨shift, _, one⟩ := units_in_one
    rw [one]
    exact Nat.two_pow_pos shift
  rw [over?, above, below]
  exact nearest_scaled _ _ positive

/-- Rounding goes down to the whole number below or up to the next. -/
theorem round_bounds (dividend divisor : Nat) :
    dividend / divisor ≤ roundHalfEven dividend divisor ∧
      roundHalfEven dividend divisor ≤ dividend / divisor + 1 := by
  have parity := Nat.mod_lt (dividend / divisor) (Nat.two_pos)
  dsimp only [roundHalfEven]
  split
  · omega
  · split <;> omega

/-- A significand of 53 bits has a magnitude in every power within the range, also if it has just
been carried to 2⁵³. -/
theorem of_pair_some {significand exponent : Nat} (bounded : significand ≤ 2 ^ 53)
    (within : exponent < 2045) (normal : exponent = 0 ∨ 2 ^ 52 ≤ significand) :
    ∃ magnitude, ofPair? significand exponent = some magnitude := by
  have whole : (1 <<< 53 : Nat) = 2 ^ 53 := by decide
  have half : (1 <<< 52 : Nat) = 2 ^ 52 := by decide
  simp only [ofPair?, whole, half]
  split
  · rw [dif_pos (by omega)]
    exact ⟨_, rfl⟩
  · rw [dif_pos (by omega)]
    exact ⟨_, rfl⟩

/-- The power that is chosen for a quotient leaves 53 bits of it before the point, or all the bits
that it has. -/
theorem chosen_bits (quotient : Nat) :
    quotient / 2 ^ (quotient.log2 - 52) < 2 ^ 53 ∧
      (quotient.log2 - 52 = 0 ∨ 2 ^ 52 ≤ quotient / 2 ^ (quotient.log2 - 52)) := by
  have positive : 0 < 2 ^ (quotient.log2 - 52) := Nat.two_pow_pos _
  constructor
  · rw [Nat.div_lt_iff_lt_mul positive, ← Nat.pow_add]
    exact Nat.lt_of_lt_of_le Nat.lt_log2_self (Nat.pow_le_pow_right (by decide) (by omega))
  · by_cases few : quotient.log2 - 52 = 0
    · exact .inl few
    · have something : quotient ≠ 0 := by
        rintro rfl
        exact few (by decide)
      refine .inr ((Nat.le_div_iff_mul_le positive).mpr ?_)
      rw [← Nat.pow_add, ← Nat.le_log2 something]
      omega

/-- A quotient within the range has a nearest magnitude. -/
theorem nearest_some {dividend divisor : Nat} (within : (dividend / divisor).log2 < 2097) :
    ∃ magnitude, nearest? dividend divisor = some magnitude := by
  have below : dividend / (divisor <<< ((dividend / divisor).log2 - 52)) =
      dividend / divisor / 2 ^ ((dividend / divisor).log2 - 52) := by
    rw [Nat.shiftLeft_eq, Nat.div_div_eq_div_mul]
  obtain ⟨low, high⟩ := round_bounds dividend (divisor <<< ((dividend / divisor).log2 - 52))
  obtain ⟨bounded, normal⟩ := chosen_bits (dividend / divisor)
  rw [below] at low high
  rw [nearest?]
  exact of_pair_some (by omega) (by omega) (by omega)

end Magnitude

namespace Decimal

/-- A decimal without a power of ten is rounded as its digits are. -/
theorem nearest_whole (digits : Nat) : nearest? ⟨digits, 0⟩ = Magnitude.ofNat? digits := by
  rw [nearest_quotient]
  simp [quotient, Magnitude.ofNat?, tenTo]

/-- A power of ten up to the twenty-second is exact: its power of five is below 2⁵³. -/
theorem nearest_ten_exact {power : Nat} (small : power ≤ 22) :
    ∃ magnitude, nearest? ⟨1, power⟩ = some magnitude ∧
      magnitude.units = tenTo power * unitsInOne := by
  have split : tenTo power = 5 ^ power * 2 ^ power := Nat.mul_pow 5 2 power
  have short : 5 ^ power ≤ 2 ^ 53 :=
    Nat.le_trans (Nat.pow_le_pow_right (by decide) small) (by decide)
  have moved := nearest_moved 1 power power
  rw [Nat.one_mul, Int.sub_self, nearest_whole] at moved
  rw [← moved, split]
  exact Magnitude.of_nat_exact _ power short (by omega)

/-- A fraction is rounded as the quotient of its digits and a power of ten. -/
theorem nearest_over (digits places : Nat) :
    nearest? ⟨digits, -places⟩ = Magnitude.nearest? (digits * unitsInOne) (tenTo places) := by
  rw [nearest_quotient]
  by_cases whole : places = 0
  · simp [whole, quotient, tenTo]
  · have downward : ¬ 0 ≤ -(places : Int) := by omega
    have back : (- -(places : Int)).toNat = places := by omega
    rw [quotient, if_neg downward, back]

/-- Digits up to 2⁵³ divided by a power of ten up to the twenty-second round as the decimal that
they write: both are exact, so the division is the only rounding. -/
theorem over_ten {digits places : Nat} (short : digits ≤ 2 ^ 53) (few : places ≤ 22) :
    ∃ left right, Magnitude.ofNat? digits = some left ∧ nearest? ⟨1, places⟩ = some right ∧
      left.over? right = nearest? ⟨digits, -places⟩ := by
  obtain ⟨left, converted, above⟩ := Magnitude.of_nat_exact digits 0 short (by omega)
  obtain ⟨right, rounded, below⟩ := nearest_ten_exact few
  rw [Nat.pow_zero, Nat.mul_one] at converted above
  refine ⟨left, right, converted, rounded, ?_⟩
  rw [Magnitude.over_exact above below, nearest_over]

/-- Digits up to 2⁵³ have a nearest magnitude, however many of them stand behind the point. -/
theorem nearest_short {digits : Nat} (places : Nat) (short : digits ≤ 2 ^ 53) :
    ∃ magnitude, nearest? ⟨digits, -places⟩ = some magnitude := by
  obtain ⟨power, wide, units⟩ := units_in_one
  have bounded : digits * unitsInOne / tenTo places < 2 ^ (54 + power) := by
    calc digits * unitsInOne / tenTo places
        ≤ digits * 2 ^ power := units ▸ Nat.div_le_self _ _
      _ < 2 ^ 54 * 2 ^ power := Nat.mul_lt_mul_of_pos_right (by omega) (Nat.two_pow_pos power)
      _ = 2 ^ (54 + power) := (Nat.pow_add 2 54 power).symm
  rw [nearest_over]
  apply Magnitude.nearest_some
  by_cases nothing : digits * unitsInOne / tenTo places = 0
  · rw [nothing]
    decide
  · have bits := (Nat.log2_lt nothing).mpr bounded
    omega

end Decimal

end RecordRules.Number
