import Mathlib.Tactic.Ring
import RecordRules.Number.Shortest

/-!
# Rounding depends on the value only

The nearest magnitude is computed from a dividend and a divisor, and a decimal is turned into such
a pair from its digits and its power of ten. Neither the pair nor the digits matter by themselves:
pairs with the same quotient have the same nearest magnitude, and a zero may be moved between the
digits and the power of ten. The two ranges of powers that are settled without computing them are
settled as the quotient would be.

A magnitude is the nearest one to its own units, so the exact decimal of a magnitude rounds to it.
-/

namespace RecordRules.Number

namespace Magnitude

/-- A factor of both numbers does not change how their quotient is rounded. -/
theorem round_scaled (dividend divisor : Nat) {factor : Nat} (positive : 0 < factor) :
    roundHalfEven (dividend * factor) (divisor * factor) = roundHalfEven dividend divisor := by
  have below : dividend * factor / (divisor * factor) = dividend / divisor :=
    Nat.mul_div_mul_right dividend divisor positive
  have rest : dividend * factor % (divisor * factor) = dividend % divisor * factor :=
    Nat.mul_mod_mul_right factor dividend divisor
  have twice : 2 * (dividend % divisor * factor) = 2 * (dividend % divisor) * factor :=
    (Nat.mul_assoc 2 _ factor).symm
  simp only [roundHalfEven, below, rest, twice, Nat.mul_lt_mul_right positive]

/-- A factor of both numbers does not change the nearest magnitude. -/
theorem nearest_scaled (dividend divisor : Nat) {factor : Nat} (positive : 0 < factor) :
    nearest? (dividend * factor) (divisor * factor) = nearest? dividend divisor := by
  have shifted : ∀ power, (divisor * factor) <<< power = divisor <<< power * factor := by
    intro power
    rw [Nat.shiftLeft_eq, Nat.shiftLeft_eq, Nat.mul_right_comm]
  simp only [nearest?, Nat.mul_div_mul_right _ _ positive, shifted, round_scaled _ _ positive]

/-- Equal quotients have the same nearest magnitude. -/
theorem nearest_of_same_quotient {dividend divisor dividend' divisor' : Nat}
    (positive : 0 < divisor) (positive' : 0 < divisor')
    (same : dividend * divisor' = dividend' * divisor) :
    nearest? dividend divisor = nearest? dividend' divisor' := by
  rw [← nearest_scaled dividend divisor positive', ← nearest_scaled dividend' divisor' positive,
    same, Nat.mul_comm divisor divisor']

/-- The pair of a magnitude is that magnitude. -/
theorem of_pair_self (magnitude : Magnitude) :
    ofPair? magnitude.significand magnitude.exponent = some magnitude := by
  have uncarried : magnitude.significand ≠ 1 <<< 53 := Nat.ne_of_lt magnitude.canonical.1
  simp only [ofPair?, if_neg uncarried]
  rw [dif_pos magnitude.canonical]

/-- A power beyond the range has no magnitude. -/
theorem of_pair_none {significand exponent : Nat} (beyond : 2046 ≤ exponent) :
    ofPair? significand exponent = none := by
  simp only [ofPair?]
  apply dif_neg
  split <;> omega

/-- Less than half of the smallest magnitude rounds to zero. -/
theorem nearest_small {dividend divisor : Nat} (small : 2 * dividend < divisor) :
    nearest? dividend divisor = some zero := by
  have less : dividend < divisor := by omega
  have below : dividend / divisor = 0 := Nat.div_eq_of_lt less
  have rest : dividend % divisor = dividend := Nat.mod_eq_of_lt less
  have power : Nat.log2 0 - 52 = 0 := by decide
  simp only [nearest?, below, power, Nat.shiftLeft_zero, roundHalfEven, rest, if_pos small]
  exact of_pair_self zero

/-- A number whose leading bit lies beyond the range rounds to no magnitude. -/
theorem nearest_large {number : Nat} (large : 2098 ≤ number.log2) : nearest? number 1 = none := by
  unfold nearest?
  rw [Nat.div_one]
  exact of_pair_none (by omega)

/-- The power that rounding chooses for the units of a magnitude is the one it has. -/
theorem log2_units (magnitude : Magnitude) :
    magnitude.units.log2 - 52 = magnitude.exponent := by
  obtain ⟨bounded, _, normal⟩ := magnitude.canonical
  rw [Nat.one_shiftLeft] at bounded normal
  rcases normal with none | leading
  · rw [units, none, Nat.shiftLeft_zero]
    have low : magnitude.significand.log2 < 53 := by
      by_cases nothing : magnitude.significand = 0
      · rw [nothing]
        decide
      · exact (Nat.log2_lt nothing).mpr bounded
    omega
  · have unit : 0 < 2 ^ magnitude.exponent := Nat.two_pow_pos _
    have low : 2 ^ (52 + magnitude.exponent) ≤ magnitude.significand * 2 ^ magnitude.exponent := by
      rw [Nat.pow_add]
      exact Nat.mul_le_mul_right _ leading
    have high : magnitude.significand * 2 ^ magnitude.exponent <
        2 ^ (52 + magnitude.exponent + 1) := by
      rw [Nat.add_right_comm, Nat.pow_add]
      exact Nat.mul_lt_mul_of_pos_right bounded unit
    have something : magnitude.significand * 2 ^ magnitude.exponent ≠ 0 := by
      have positive : 0 < 2 ^ (52 + magnitude.exponent) := Nat.two_pow_pos _
      omega
    rw [units, Nat.shiftLeft_eq, (Nat.log2_eq_iff something).mpr ⟨low, high⟩]
    omega

/-- A magnitude is the nearest one to its units. -/
theorem nearest_units (magnitude : Magnitude) :
    nearest? magnitude.units 1 = some magnitude := by
  have rounded : roundHalfEven magnitude.units (1 <<< magnitude.exponent) =
      magnitude.significand := by
    have positive : 0 < 2 ^ magnitude.exponent := Nat.two_pow_pos _
    rw [units, Nat.shiftLeft_eq, Nat.one_shiftLeft, roundHalfEven, Nat.mul_mod_left,
      Nat.mul_div_cancel _ positive]
    exact if_pos positive
  rw [nearest?, Nat.div_one, log2_units, rounded]
  exact of_pair_self magnitude

end Magnitude

/-- Powers of ten multiply by adding their exponents. -/
theorem ten_to_add (first second : Nat) : tenTo (first + second) = tenTo first * tenTo second :=
  Nat.pow_add 10 first second

/-- A power of ten is positive. -/
theorem ten_to_pos (power : Nat) : 0 < tenTo power := Nat.pow_pos (by decide)

/-- A power of ten is at least the power of two with three times its exponent. -/
theorem two_pow_le_ten_to (power : Nat) : 2 ^ (3 * power) ≤ tenTo power := by
  rw [Nat.pow_mul]
  exact Nat.pow_le_pow_left (by decide) power

/-- The units in one are a power of two. The exponent is a variable, so that no step computes the
power. -/
theorem units_in_one : ∃ power, power = 1074 ∧ unitsInOne = 2 ^ power := by
  have shifted : ∃ power, power = 1074 ∧ unitsInOne = 1 <<< power := ⟨1074, rfl, rfl⟩
  obtain ⟨power, wide, units⟩ := shifted
  exact ⟨power, wide, units.trans (Nat.one_shiftLeft power)⟩

namespace Decimal

/-- A decimal is never divided by zero. -/
theorem quotient_pos (decimal : Decimal) : 0 < decimal.quotient.2 := by
  unfold quotient
  split
  · exact Nat.one_pos
  · exact ten_to_pos _

/-- Digits that are zero make a quotient that is zero. -/
theorem nearest_quotient_zero (exponent : Int) :
    Magnitude.nearest? (quotient ⟨0, exponent⟩).1 (quotient ⟨0, exponent⟩).2 = some .zero := by
  have nothing : (quotient ⟨0, exponent⟩).1 = 0 := by
    unfold quotient
    split <;> simp
  rw [nothing]
  exact Magnitude.nearest_small (quotient_pos _)

/-- A large power of ten makes a quotient beyond the range, unless the digits are zero. -/
theorem nearest_quotient_large {decimal : Decimal} (something : decimal.digits ≠ 0)
    (large : 400 < decimal.exponent) :
    Magnitude.nearest? decimal.quotient.1 decimal.quotient.2 = none := by
  obtain ⟨power, wide, units⟩ := units_in_one
  have upward : 0 ≤ decimal.exponent := by omega
  have digits : 1 ≤ decimal.digits := Nat.one_le_iff_ne_zero.mpr something
  have far : 2 ^ (3 * decimal.exponent.toNat + power) ≤
      decimal.digits * tenTo decimal.exponent.toNat * unitsInOne := by
    calc 2 ^ (3 * decimal.exponent.toNat + power)
        = 1 * 2 ^ (3 * decimal.exponent.toNat) * 2 ^ power := by rw [Nat.one_mul, Nat.pow_add]
      _ ≤ decimal.digits * tenTo decimal.exponent.toNat * 2 ^ power :=
        Nat.mul_le_mul_right _ (Nat.mul_le_mul digits (two_pow_le_ten_to _))
      _ = decimal.digits * tenTo decimal.exponent.toNat * unitsInOne := by rw [units]
  have positive : 0 < 2 ^ (3 * decimal.exponent.toNat + power) := Nat.two_pow_pos _
  have leading : 3 * decimal.exponent.toNat + power ≤
      (decimal.digits * tenTo decimal.exponent.toNat * unitsInOne).log2 :=
    (Nat.le_log2 (Nat.ne_of_gt (Nat.lt_of_lt_of_le positive far))).mpr far
  rw [quotient, if_pos upward]
  exact Magnitude.nearest_large (Nat.le_trans (by omega) leading)

/-- A small power of ten makes a quotient of less than half a unit. -/
theorem nearest_quotient_small {decimal : Decimal}
    (small : decimal.exponent + decimal.digits.log2 < -400) :
    Magnitude.nearest? decimal.quotient.1 decimal.quotient.2 = some .zero := by
  obtain ⟨power, wide, units⟩ := units_in_one
  have downward : ¬ 0 ≤ decimal.exponent := by omega
  have bounded : decimal.digits < 2 ^ (decimal.digits.log2 + 1) := Nat.lt_log2_self
  have unit : 0 < 2 ^ (power + 1) := Nat.two_pow_pos _
  rw [quotient, if_neg downward]
  apply Magnitude.nearest_small
  calc 2 * (decimal.digits * unitsInOne) = decimal.digits * 2 ^ (power + 1) := by
        rw [units, Nat.pow_succ]
        ring
    _ < 2 ^ (decimal.digits.log2 + 1) * 2 ^ (power + 1) :=
      Nat.mul_lt_mul_of_pos_right bounded unit
    _ = 2 ^ (decimal.digits.log2 + 1 + (power + 1)) := (Nat.pow_add _ _ _).symm
    _ ≤ 2 ^ (3 * (-decimal.exponent).toNat) := Nat.pow_le_pow_right (by decide) (by omega)
    _ ≤ tenTo (-decimal.exponent).toNat := two_pow_le_ten_to _

/-- The powers of ten that are not computed round as their quotients would. -/
theorem nearest_quotient (decimal : Decimal) :
    decimal.nearest? = Magnitude.nearest? decimal.quotient.1 decimal.quotient.2 := by
  unfold nearest?
  split
  · rename_i nothing
    obtain ⟨digits, exponent⟩ := decimal
    obtain rfl : digits = 0 := nothing
    exact (nearest_quotient_zero exponent).symm
  · rename_i something
    split
    · rename_i large
      exact (nearest_quotient_large something large).symm
    · split
      · rename_i small
        exact (nearest_quotient_small small).symm
      · rfl

/-- Zeros may be moved from the power of ten to the end of the digits. -/
theorem nearest_moved (digits zeros : Nat) (exponent : Int) :
    nearest? ⟨digits * tenTo zeros, exponent - zeros⟩ = nearest? ⟨digits, exponent⟩ := by
  rw [nearest_quotient, nearest_quotient]
  apply Magnitude.nearest_of_same_quotient (quotient_pos _) (quotient_pos _)
  simp only [quotient]
  by_cases upward : 0 ≤ exponent - zeros
  · have split : exponent.toNat = zeros + (exponent - zeros).toNat := by omega
    rw [if_pos upward, if_pos (by omega), split, ten_to_add]
    ring
  · rw [if_neg upward]
    by_cases before : 0 ≤ exponent
    · have split : zeros = exponent.toNat + (-(exponent - zeros)).toNat := by omega
      rw [if_pos before]
      have powers : tenTo zeros = tenTo exponent.toNat * tenTo (-(exponent - zeros)).toNat := by
        rw [← ten_to_add, ← split]
      rw [powers]
      ring
    · have split : (-(exponent - zeros)).toNat = zeros + (-exponent).toNat := by omega
      rw [if_neg before, split, ten_to_add]
      ring

/-- Moving zeros from the end of the digits into the power of ten keeps the nearest magnitude. -/
theorem nearest_trim_within (bound : Nat) (decimal : Decimal) :
    (trimWithin bound decimal).nearest? = decimal.nearest? := by
  induction bound generalizing decimal with
  | zero => rfl
  | succ bound inductionHypothesis =>
    rw [trimWithin]
    split
    · rename_i ends
      rw [inductionHypothesis, ← nearest_moved (decimal.digits / 10) 1 (decimal.exponent + 1)]
      have whole : decimal.digits / 10 * tenTo 1 = decimal.digits :=
        Nat.div_mul_cancel (Nat.dvd_of_mod_eq_zero ends.2)
      have back : decimal.exponent + 1 - (1 : Nat) = decimal.exponent := by omega
      rw [whole, back]
    · rfl

/-- A decimal without the zeros at its end has the same nearest magnitude. -/
theorem nearest_trimmed (decimal : Decimal) : decimal.trimmed.nearest? = decimal.nearest? :=
  nearest_trim_within decimal.digits decimal

/-- A factor of five and a division by ten for each of the powers of two in one cancel against
the units. -/
theorem nearest_fives (number power : Nat) (units : unitsInOne = 2 ^ power) :
    nearest? ⟨number * Nat.pow 5 power, -power⟩ = Magnitude.nearest? number 1 := by
  have powers : Nat.pow 5 power * unitsInOne = tenTo power := by
    rw [units]
    exact (Nat.mul_pow 5 2 power).symm
  rw [nearest_quotient]
  apply Magnitude.nearest_of_same_quotient (quotient_pos _) Nat.one_pos
  rw [Nat.mul_one]
  by_cases nothing : power = 0
  · subst nothing
    simp [quotient, units, tenTo]
  · have downward : ¬ 0 ≤ -(power : Int) := by omega
    have places : (- -(power : Int)).toNat = power := by omega
    rw [quotient, if_neg downward, places, ← powers, Nat.mul_assoc]

end Decimal

/-- The exact decimal of a magnitude rounds to it. -/
theorem Magnitude.nearest_exact (magnitude : Magnitude) :
    magnitude.exact.nearest? = some magnitude := by
  obtain ⟨power, wide, units⟩ := units_in_one
  have places : (-1074 : Int) = -(power : Int) := by omega
  rw [Magnitude.exact, places, ← wide, ← magnitude.nearest_units]
  exact Decimal.nearest_fives magnitude.units power units

end RecordRules.Number
