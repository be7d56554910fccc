/-!
# Sets of characters given by code point ranges

A property of characters that a standard fixes by enumeration is written down as an
ascending list of closed ranges of code points. This module says what such a list contains.
The lists themselves stand in a module of their own for each property.

Membership stops at the first range that begins beyond the character, so a character of the
basic Latin block is settled by the first few ranges however long the list is.
-/

namespace RecordRules.Text

/-- Closed ranges of code points, the first and the last member of each. -/
abbrev CodePoints := List (Nat × Nat)

namespace CodePoints

/-- Whether a code point lies in one of the ranges, which must be ascending. -/
def covers (code : Nat) : CodePoints → Bool
  | [] => false
  | (first, last) :: others =>
    if code < first then false
    else if code ≤ last then true
    else covers code others

/-- The ranges ascend, none is empty and no two of them meet. -/
def Ascending : CodePoints → Prop
  | [] => True
  | [(first, last)] => first ≤ last
  | (first, last) :: (next, end_) :: others =>
    first ≤ last ∧ last < next ∧ Ascending ((next, end_) :: others)

/-- Membership as it reads without regard to the order of the ranges. -/
def Mem (code : Nat) (ranges : CodePoints) : Prop :=
  ∃ range ∈ ranges, range.1 ≤ code ∧ code ≤ range.2

@[simp] theorem covers_nil (code : Nat) : covers code [] = false := rfl

/-- A code point that is covered lies in one of the ranges. -/
theorem mem_of_covers {code : Nat} {ranges : CodePoints} (covered : covers code ranges = true) :
    Mem code ranges := by
  induction ranges with
  | nil => simp at covered
  | cons range others inductionHypothesis =>
    obtain ⟨first, last⟩ := range
    simp only [covers] at covered
    split at covered
    · simp at covered
    · split at covered
      · exact ⟨(first, last), by simp, by omega, by assumption⟩
      · obtain ⟨found, member, bounds⟩ := inductionHypothesis covered
        exact ⟨found, by simp [member], bounds⟩

end CodePoints

end RecordRules.Text
