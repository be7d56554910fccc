import RecordRules.Proofs.Condition.Meaning
import RecordRules.Proofs.Number.Order
import RecordRules.Proofs.Number.ReadBack

/-!
# Numbers are compared through their texts

A comparison with a number reads the canonical text of its field. The text of a number is read back
as that number, also if it is a zero with a sign, an infinity or not a number at all, so writing and
reading change nothing: the comparison never fails, and it answers as the exact values compare.
-/

namespace RecordRules.Comparing

open Meaning Number

/-- Whether an operator asks for a relation. What is not a number is unequal to everything, and every
other operator denies it. -/
def accepts : NumericOperator → Relation → Bool
  | .greater, relation => decide (relation = .greater)
  | .less, relation => decide (relation = .less)
  | .equal, relation => decide (relation = .equal)
  | .notEqual, relation => !decide (relation = .equal)
  | .atLeast, relation => decide (relation = .greater ∨ relation = .equal)
  | .atMost, relation => decide (relation = .less ∨ relation = .equal)

/-- An operator holds of two numbers exactly if it asks for the way they compare. -/
theorem holds_eq_accepts (operator : NumericOperator) (left right : Binary64) :
    operator.holds left right = accepts operator (left.relation right) := by
  by_cases unordered : left = .nan ∨ right = .nan
  · rw [(Binary64.relation_unordered_iff left right).mpr unordered]
    obtain rfl | rfl := unordered
    · cases operator <;> cases right <;> rfl
    · cases operator <;> cases left <;> rfl
  · rw [not_or] at unordered
    obtain ⟨_, low, -, leftRank⟩ := (Binary64.exact_or_nan left).resolve_left unordered.1
    obtain ⟨_, high, -, rightRank⟩ := (Binary64.exact_or_nan right).resolve_left unordered.2
    have ranks (relation : Int → Int → Bool) :
        Binary64.related relation left right = relation low high ∧
          Binary64.related relation right left = relation high low := by
      simp only [Binary64.related, leftRank, rightRank, and_self]
    rw [Binary64.relation_of_rank leftRank rightRank]
    simp only [NumericOperator.holds, Binary64.below, Binary64.equals, Binary64.atMost, ranks]
    obtain below | rfl | above := Int.lt_trichotomy low high
    · have apart : low ≠ high := Int.ne_of_lt below
      have notAbove : ¬ high < low := Int.not_lt.mpr (Int.le_of_lt below)
      cases operator <;> simp [accepts, below, apart, notAbove, Int.le_of_lt below]
    · cases operator <;> simp [accepts]
    · have apart : low ≠ high := (Int.ne_of_lt above).symm
      have notBelow : ¬ low < high := Int.not_lt.mpr (Int.le_of_lt above)
      cases operator <;> simp [accepts, above, apart, notBelow, Int.le_of_lt above]

/-- The characters of a number are read back as that number, whether it is a number or its text. -/
theorem read_shown {number : Binary64} {value : Value}
    (shown : value = .number number ∨ value = .text (Value.number number).canonical) :
    Binary64.read value.chars = .ok number := by
  obtain rfl | rfl := shown
  · exact Binary64.read_text number
  · rw [Value.chars, Value.canonical, String.toList_ofList]
    exact Binary64.read_text number

/-- A comparison of a number with a literal never fails, and it is true exactly if its operator asks
for the relation in which IEEE 754 puts the two. This holds of every number and every literal: of
finite ones however large or small, of zeros with either sign, of infinities and of what is not a
number. It makes no difference whether the field has the number or its canonical text. -/
theorem evaluate_compares (field : FieldReference) (operator : NumericOperator)
    (number literal : Binary64) {record : Record} {value : Value}
    (bound : record.get? field.name = some value)
    (shown : value = .number number ∨ value = .text (Value.number number).canonical) :
    (Expression.comparison ⟨field, .numeric operator literal⟩).evaluate record =
      .ok (accepts operator (number.relation literal)) := by
  rw [evaluate_comparison, ← holds_eq_accepts]
  simp only [Comparison.evaluate, FieldReference.lookup, bound, bind, Except.bind,
    read_shown shown]

/-- The least positive number. -/
def least : Binary64 := .finite false ⟨1, 0, by decide⟩

/-- Nothing at all, from below. -/
def minusZero : Binary64 := .finite true .zero

/-- The least number exceeds a zero, also as a text of more than three hundred digits. The two zeros
are equal, and what is not a number differs even from itself. -/
theorem compare_least :
    let record : Record := .ofList [("least", .number least),
      ("text", .text (Value.number least).canonical), ("zero", .number minusZero),
      ("none", .number .nan)]
    let compare (name : String) (operator : NumericOperator) (literal : Binary64) : Outcome :=
      (Expression.comparison ⟨⟨name, 0⟩, .numeric operator literal⟩).evaluate record
    compare "least" .greater minusZero = .ok true ∧ compare "text" .greater minusZero = .ok true ∧
      compare "zero" .atLeast (.finite false .zero) = .ok true ∧
      compare "none" .equal .nan = .ok false ∧ compare "none" .notEqual .nan = .ok true := by
  intro record compare
  have above : accepts .greater (least.relation minusZero) = true := by decide +kernel
  have same : accepts .atLeast (minusZero.relation (.finite false .zero)) = true := by
    decide +kernel
  refine ⟨?_, ?_, ?_, ?_, ?_⟩
  · rw [← above]
    exact evaluate_compares _ _ least _ (by decide +kernel) (.inl rfl)
  · rw [← above]
    exact evaluate_compares _ _ least _ (by decide +kernel) (.inr rfl)
  · rw [← same]
    exact evaluate_compares _ _ minusZero _ (by decide +kernel) (.inl rfl)
  · exact evaluate_compares _ _ .nan _ (by decide +kernel) (.inl rfl)
  · exact evaluate_compares _ _ .nan _ (by decide +kernel) (.inl rfl)

end RecordRules.Comparing
