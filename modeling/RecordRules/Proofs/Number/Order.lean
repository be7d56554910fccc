import Mathlib.Algebra.Order.Field.Rat
import Mathlib.Order.WithBot
import Mathlib.Tactic.Linarith
import RecordRules.Proofs.Number.Rounding

/-!
# Comparing numbers is comparing what they stand for

IEEE 754 compares two numbers by what they stand for: rational numbers for finite magnitudes, with
an infinity on either side of all of them. One of four relations holds, and it is the fourth,
unordered, as soon as one of the two is not a number.

Numbers are compared by a rank that looks at the power of two first. It orders magnitudes as their
exact values, the infinities have their ranks beyond all others, and signs turn both orders around.
So the relation of the ranks is the relation of the numbers.
-/

namespace RecordRules.Number

namespace Magnitude

/-- The number that a magnitude stands for. -/
def value (magnitude : Magnitude) : ℚ := magnitude.units / unitsInOne

/-- A magnitude of a smaller rank is a smaller number. If the powers of two are different, the
significand of the larger one has all its bits, which makes up for what the other may have more. -/
theorem units_lt {left right : Magnitude} (below : left.rank < right.rank) :
    left.units < right.units := by
  obtain ⟨leftBound, -, -⟩ := left.canonical
  obtain ⟨rightBound, -, rightNormal⟩ := right.canonical
  simp only [rank, units, Nat.shiftLeft_eq, Nat.one_mul] at *
  have unit : 0 < 2 ^ left.exponent := Nat.two_pow_pos _
  obtain smaller | same | larger := Nat.lt_trichotomy left.exponent right.exponent
  · have normal : 2 ^ 52 ≤ right.significand := rightNormal.resolve_left (by omega)
    calc left.significand * 2 ^ left.exponent
        < 2 ^ 53 * 2 ^ left.exponent := Nat.mul_lt_mul_of_pos_right leftBound unit
      _ = 2 ^ 52 * 2 ^ (left.exponent + 1) := by rw [Nat.pow_succ 2 left.exponent]; omega
      _ ≤ 2 ^ 52 * 2 ^ right.exponent :=
        Nat.mul_le_mul_left _ (Nat.pow_le_pow_right (by decide) smaller)
      _ ≤ right.significand * 2 ^ right.exponent := Nat.mul_le_mul_right _ normal
  · rw [same] at below unit ⊢
    exact Nat.mul_lt_mul_of_pos_right (by omega) unit
  · omega

/-- Magnitudes of one rank are one number. -/
theorem units_eq {left right : Magnitude} (same : left.rank = right.rank) :
    left.units = right.units := by
  obtain ⟨leftBound, -, -⟩ := left.canonical
  obtain ⟨rightBound, -, -⟩ := right.canonical
  simp only [rank, units, Nat.shiftLeft_eq, Nat.one_mul] at *
  have exponents : left.exponent = right.exponent := by omega
  have significands : left.significand = right.significand := by omega
  rw [exponents, significands]

/-- Magnitudes are ordered by their ranks as by their values. -/
theorem value_lt_iff (left right : Magnitude) :
    left.value < right.value ↔ left.rank < right.rank := by
  have positive : (0 : ℚ) < unitsInOne := by
    obtain ⟨power, -, one⟩ := units_in_one
    rw [one]
    exact Nat.cast_pos.mpr (Nat.two_pow_pos power)
  rw [value, value, div_lt_div_iff_of_pos_right positive, Nat.cast_lt]
  constructor
  · intro below
    by_contra above
    rcases Nat.lt_or_eq_of_le (Nat.le_of_not_lt above) with larger | same
    · exact Nat.lt_asymm below (units_lt larger)
    · exact absurd (units_eq same) (Nat.ne_of_gt below)
  · exact units_lt

/-- A magnitude is nothing at all exactly if its rank is. -/
theorem value_pos_iff (magnitude : Magnitude) : 0 < magnitude.value ↔ 0 < magnitude.rank := by
  have nothing : zero.value = 0 := by simp [value, units, zero]
  rw [← nothing, value_lt_iff]
  exact Iff.rfl

/-- No magnitude is a negative number. -/
theorem value_nonneg (magnitude : Magnitude) : 0 ≤ magnitude.value :=
  div_nonneg (Nat.cast_nonneg _) (Nat.cast_nonneg _)

/-- Every magnitude has a rank below the bound. -/
theorem rank_bounded (magnitude : Magnitude) : magnitude.rank < rankBound := by
  obtain ⟨bound, small, -⟩ := magnitude.canonical
  simp only [rank, rankBound, Nat.shiftLeft_eq, Nat.one_mul] at *
  omega

end Magnitude

/-- A negative number is smaller than a positive one, unless both are zero. -/
theorem neg_lt_iff {Number : Type} [AddCommGroup Number] [LinearOrder Number]
    [IsOrderedAddMonoid Number] {left right : Number} (some : 0 ≤ left) (other : 0 ≤ right) :
    -left < right ↔ 0 < left ∨ 0 < right := by
  rw [neg_lt_iff_pos_add']
  constructor
  · intro above
    by_contra none
    rw [not_or, not_lt, not_lt] at none
    exact absurd above (not_lt.mpr (add_nonpos none.1 none.2))
  · rintro (positive | positive)
    · exact add_pos_of_pos_of_nonneg positive other
    · exact add_pos_of_nonneg_of_pos some positive

/-- The four ways in which two numbers can compare. -/
inductive Relation
  | less
  | equal
  | greater
  | unordered
  deriving DecidableEq

namespace Binary64

/-- A number with a sign. -/
def signed {Number : Type} [Neg Number] (negative : Bool) (number : Number) : Number :=
  if negative then -number else number

/-- The number that a double stands for, with an infinity below and one above the rational numbers.
What is not a number stands for none. -/
def value? : Binary64 → Option (WithBot (WithTop ℚ))
  | nan => none
  | infinite negative => some (if negative then ⊥ else ⊤)
  | finite negative magnitude => some ((signed negative magnitude.value : ℚ) : WithTop ℚ)

/-- How two numbers compare: as what they stand for, and not at all if one is not a number. -/
def relation (left right : Binary64) : Relation :=
  match left.value?, right.value? with
  | some left, some right =>
    if left < right then .less else if left = right then .equal else .greater
  | _, _ => .unordered

/-- Signed values are ordered as signed ranks. -/
theorem signed_lt_iff (leftNegative rightNegative : Bool) (left right : Magnitude) :
    signed leftNegative left.value < signed rightNegative right.value ↔
      signed leftNegative (left.rank : Int) < signed rightNegative (right.rank : Int) := by
  have leftNonneg := left.value_nonneg
  have rightNonneg := right.value_nonneg
  cases leftNegative <;> cases rightNegative <;>
    simp only [signed, Bool.false_eq_true, if_true, if_false]
  · rw [Magnitude.value_lt_iff, Int.ofNat_lt]
  · constructor
    · intro below
      linarith
    · intro below
      omega
  · rw [neg_lt_iff leftNonneg rightNonneg, neg_lt_iff (Int.natCast_nonneg _) (Int.natCast_nonneg _),
      Magnitude.value_pos_iff, Magnitude.value_pos_iff, Int.natCast_pos, Int.natCast_pos]
  · rw [neg_lt_neg_iff, neg_lt_neg_iff, Magnitude.value_lt_iff, Int.ofNat_lt]

/-- The rank of a number lies between those of the infinities. -/
theorem signed_rank_bounded (negative : Bool) (magnitude : Magnitude) :
    -(Magnitude.rankBound : Int) < signed negative (magnitude.rank : Int) ∧
      signed negative (magnitude.rank : Int) < Magnitude.rankBound := by
  have bounded := magnitude.rank_bounded
  cases negative <;> simp only [signed, Bool.false_eq_true, if_true, if_false] <;> omega

/-- What numbers stand for is ordered as their ranks are. The infinities stand on either side of all
rational numbers, and so do their ranks of all others. -/
theorem exact_lt_iff {left right : Binary64} {first second : WithBot (WithTop ℚ)}
    {low high : Int} (leftExact : left.value? = some first)
    (rightExact : right.value? = some second) (leftRank : left.rank? = some low)
    (rightRank : right.rank? = some high) : first < second ↔ low < high := by
  have positive : (0 : Int) < Magnitude.rankBound := by decide
  cases left with
  | nan => cases leftExact
  | infinite leftNegative =>
    cases right with
    | nan => cases rightExact
    | infinite rightNegative =>
      cases leftExact; cases rightExact; cases leftRank; cases rightRank
      cases leftNegative <;> cases rightNegative <;> simp
      omega
    | finite rightNegative magnitude =>
      cases leftExact; cases rightExact; cases leftRank; cases rightRank
      obtain ⟨above, below⟩ := signed_rank_bounded rightNegative magnitude
      cases leftNegative with
      | true => exact iff_of_true (WithBot.bot_lt_coe _) above
      | false => exact iff_of_false not_top_lt (Int.not_lt.mpr (Int.le_of_lt below))
  | finite leftNegative magnitude =>
    cases right with
    | nan => cases rightExact
    | infinite rightNegative =>
      cases leftExact; cases rightExact; cases leftRank; cases rightRank
      obtain ⟨above, below⟩ := signed_rank_bounded leftNegative magnitude
      cases rightNegative with
      | true => exact iff_of_false not_lt_bot (Int.not_lt.mpr (Int.le_of_lt above))
      | false => exact iff_of_true (WithBot.coe_lt_coe.mpr (WithTop.coe_lt_top _)) below
    | finite rightNegative other =>
      cases leftExact; cases rightExact; cases leftRank; cases rightRank
      rw [WithBot.coe_lt_coe, WithTop.coe_lt_coe]
      exact signed_lt_iff leftNegative rightNegative magnitude other

/-- A double has a rank exactly if it stands for a number. -/
theorem exact_or_nan (number : Binary64) :
    number = nan ∨ ∃ value rank, number.value? = some value ∧ number.rank? = some rank := by
  cases number with
  | nan => exact .inl rfl
  | infinite negative => exact .inr ⟨_, _, rfl, rfl⟩
  | finite negative magnitude => exact .inr ⟨_, _, rfl, rfl⟩

/-- Numbers compare as their ranks. -/
theorem relation_of_rank {left right : Binary64} {low high : Int} (leftRank : left.rank? = some low)
    (rightRank : right.rank? = some high) :
    left.relation right =
      if low < high then .less else if low = high then .equal else .greater := by
  obtain rfl | ⟨first, _, leftExact, leftAgain⟩ := exact_or_nan left
  · cases leftRank
  obtain rfl | ⟨second, _, rightExact, rightAgain⟩ := exact_or_nan right
  · cases rightRank
  have below := exact_lt_iff leftExact rightExact leftRank rightRank
  have above := exact_lt_iff rightExact leftExact rightRank leftRank
  have same : first = second ↔ low = high := by
    rw [le_antisymm_iff, ← not_lt, ← not_lt, below, above]
    omega
  simp only [relation, leftExact, rightExact, below, same]

/-- Two numbers do not compare exactly if one of them is not a number. -/
theorem relation_unordered_iff (left right : Binary64) :
    left.relation right = .unordered ↔ left = nan ∨ right = nan := by
  obtain rfl | ⟨_, low, -, leftRank⟩ := exact_or_nan left
  · simp [relation, value?]
  obtain rfl | ⟨_, high, -, rightRank⟩ := exact_or_nan right
  · cases left <;> simp [relation, value?]
  have leftNumber : left ≠ nan := by
    rintro rfl
    cases leftRank
  have rightNumber : right ≠ nan := by
    rintro rfl
    cases rightRank
  rw [relation_of_rank leftRank rightRank]
  simp only [leftNumber, rightNumber, or_self, iff_false]
  split
  · simp
  · split <;> simp

end Binary64

end RecordRules.Number
