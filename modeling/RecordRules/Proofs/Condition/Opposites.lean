import RecordRules.Proofs.Condition.Comparing

/-!
# Opposite conditions

Every operator has an opposite, and so has every connective. Turning all of them around turns a
condition into its opposite: it is true where the condition is false, and it fails where the
condition fails, in the same way. Since every comparison is evaluated and the leftmost failure
counts, the two conditions meet the same failures in the same order.

Two things stand in the way. A membership test of a missing field is false, and so is its opposite.
What is not a number is neither below, above nor equal to anything, so the comparisons by order are
all false of it.
-/

namespace RecordRules

/-- The operator that asks for the other relations of two numbers. -/
def NumericOperator.opposite : NumericOperator → NumericOperator
  | greater => atMost
  | less => atLeast
  | equal => notEqual
  | notEqual => equal
  | atLeast => less
  | atMost => greater

/-- Whether an operator compares by the order of the numbers. -/
def NumericOperator.isOrder : NumericOperator → Bool
  | equal => false
  | notEqual => false
  | _ => true

/-- The operator that denies what another says of a text. -/
def TextOperator.opposite : TextOperator → TextOperator
  | contains => excludes
  | excludes => contains
  | equal => notEqual
  | notEqual => equal

/-- The operator that denies what another says of a list. -/
def ListOperator.opposite : ListOperator → ListOperator
  | among => notAmong
  | notAmong => among

/-- The connective that joins the opposites of what another joins. -/
def Connective.opposite : Connective → Connective
  | and => or
  | or => and

/-- The test with the opposite operator and the same literal. -/
def Test.opposite : Test → Test
  | numeric operator literal => numeric operator.opposite literal
  | text operator literal => text operator.opposite literal
  | list operator literal => list operator.opposite literal

/-- The comparison of the same field with the opposite test. -/
def Comparison.opposite (comparison : Comparison) : Comparison :=
  ⟨comparison.field, comparison.test.opposite⟩

/-- The opposite of a condition: the fields, the literals and the parentheses stay as they are. -/
def Expression.opposite : Expression → Expression
  | comparison leaf => comparison leaf.opposite
  | joined connective left right => joined connective.opposite left.opposite right.opposite
  | grouped inner => grouped inner.opposite

namespace Opposites

open Comparing Meaning Number

/-- Nothing stands in the way of a comparison on a record: a membership test finds its field, and a
comparison by order has a number on either side, as far as its field is read as one. -/
structure Decided (record : Record) (leaf : Comparison) : Prop where
  present : ∀ operator literal, leaf.test = .list operator literal →
    ∃ value, record.get? leaf.field.name = some value
  ordered : ∀ operator literal, leaf.test = .numeric operator literal → operator.isOrder = true →
    literal ≠ .nan ∧ ∀ value, record.get? leaf.field.name = some value →
      Binary64.read value.chars ≠ .ok .nan

/-- The opposite of what comes of a condition: a failure stays as it is. -/
def oppositeOutcome (outcome : Outcome) : Outcome := outcome.map not

section Operators

/-- The opposite operator accepts all other relations. Without order, that is none of the two. -/
theorem accepts_opposite {operator : NumericOperator} {relation : Relation}
    (ordered : operator.isOrder = true → relation ≠ .unordered) :
    accepts operator.opposite relation = !accepts operator relation := by
  revert ordered
  cases operator <;> cases relation <;> decide

/-- The opposite operator holds of numbers exactly if the operator does not. -/
theorem holds_opposite_numeric {operator : NumericOperator} {left right : Binary64}
    (ordered : operator.isOrder = true → left ≠ .nan ∧ right ≠ .nan) :
    operator.opposite.holds left right = !operator.holds left right := by
  rw [holds_eq_accepts, holds_eq_accepts]
  refine accepts_opposite fun orders unordered => ?_
  obtain ⟨leftNumber, rightNumber⟩ := ordered orders
  rcases (Binary64.relation_unordered_iff left right).mp unordered with same | same
  · exact leftNumber same
  · exact rightNumber same

/-- The opposite operator holds of texts exactly if the operator does not. -/
theorem holds_opposite_text (operator : TextOperator) (text literal : List Char) :
    operator.opposite.holds text literal = !operator.holds text literal := by
  cases operator <;> simp [TextOperator.opposite, TextOperator.holds]

/-- The opposite operator holds of a list exactly if the operator does not. -/
theorem holds_opposite_list (operator : ListOperator) (found : Bool) :
    operator.opposite.holds found = !operator.holds found := by
  cases operator <;> simp [ListOperator.opposite, ListOperator.holds]

end Operators

section Outcomes

/-- Joining opposites by the opposite connective is the opposite of joining. A failure on the left
comes first in both. -/
theorem join_opposite (connective : Connective) (left right : Outcome) :
    joinOutcomes connective.opposite (oppositeOutcome left) (oppositeOutcome right) =
      oppositeOutcome (joinOutcomes connective left right) := by
  cases left with
  | error failure => rfl
  | ok first =>
    cases right with
    | error failure => rfl
    | ok second => cases connective <;> cases first <;> cases second <;> rfl

/-- The opposite of a comparison comes to the opposite, if nothing stands in the way. -/
theorem leaf_opposite {record : Record} {leaf : Comparison} (decided : Decided record leaf) :
    leaf.opposite.evaluate record = oppositeOutcome (leaf.evaluate record) := by
  obtain ⟨field, test⟩ := leaf
  cases test with
  | numeric operator literal =>
    simp only [Comparison.opposite, Test.opposite, Comparison.evaluate, FieldReference.lookup, bind,
      Except.bind]
    cases present : record.get? field.name with
    | none => rfl
    | some value =>
      dsimp only
      cases read : Binary64.read value.chars with
      | error fault => rfl
      | ok number =>
        have ordered : operator.isOrder = true → number ≠ .nan ∧ literal ≠ .nan := by
          intro orders
          obtain ⟨literalNumber, numbers⟩ := decided.ordered operator literal rfl orders
          exact ⟨fun same => numbers value present (same ▸ read), literalNumber⟩
        exact congrArg Except.ok (holds_opposite_numeric ordered)
  | text operator literal =>
    simp only [Comparison.opposite, Test.opposite, Comparison.evaluate, FieldReference.lookup, bind,
      Except.bind]
    cases record.get? field.name with
    | none => rfl
    | some value => exact congrArg Except.ok (holds_opposite_text operator _ _)
  | list operator literal =>
    obtain ⟨value, present⟩ := decided.present operator literal rfl
    simp only [Comparison.opposite, Test.opposite, Comparison.evaluate, present]
    cases Scalar.readList literal with
    | error fault => rfl
    | ok items => exact congrArg Except.ok (holds_opposite_list operator _)

/-- The opposite of a condition comes to the opposite, if nothing stands in the way of any of its
comparisons. -/
theorem outcome_opposite {record : Record} {tree : Expression}
    (decided : ∀ leaf ∈ tree.comparisons, Decided record leaf) :
    tree.opposite.evaluate record = oppositeOutcome (tree.evaluate record) := by
  induction tree with
  | comparison leaf =>
    rw [Expression.opposite, evaluate_comparison, evaluate_comparison]
    exact leaf_opposite (decided leaf (List.mem_singleton_self leaf))
  | grouped inner inductionHypothesis =>
    rw [Expression.opposite, evaluate_grouped, evaluate_grouped]
    exact inductionHypothesis decided
  | joined connective left right leftHypothesis rightHypothesis =>
    have onLeft := leftHypothesis fun leaf member => decided leaf (List.mem_append_left _ member)
    have onRight := rightHypothesis fun leaf member => decided leaf (List.mem_append_right _ member)
    rw [Expression.opposite, evaluate_joined, evaluate_joined, onLeft, onRight, join_opposite]

end Outcomes

/-- A condition and its opposite are never true together and never false together, and they fail
together with the same error. Whatever the tree is like, this takes a record that has the field of
each membership test, and numbers on both sides of each comparison by order: the literal is one, and
the field is not read as what is not a number. Equality and its opposite need no such thing, and
neither does a field that is missing or not read as a number. -/
theorem evaluate_opposite {record : Record} {tree : Expression}
    (decided : ∀ leaf ∈ tree.comparisons, Decided record leaf) :
    (∀ value, tree.evaluate record = .ok value →
      tree.opposite.evaluate record = .ok (!value)) ∧
    ∀ failure, tree.evaluate record = .error failure →
      tree.opposite.evaluate record = .error failure := by
  rw [outcome_opposite decided]
  constructor
  · intro value valued
    rw [valued]
    rfl
  · intro failure failed
    rw [failed]
    rfl

/-- Comparisons of every kind, with a chain on the right and a literal that is not a number. -/
def mixedTree : Expression :=
  .joined .and (.comparison ⟨⟨"a", 0⟩, .numeric .greater (.finite false .zero)⟩)
    (.joined .or (.grouped (.comparison ⟨⟨"b", 9⟩, .list .notAmong "[1, 2]"⟩))
      (.joined .and (.comparison ⟨⟨"c", 20⟩, .text .contains "x"⟩)
        (.comparison ⟨⟨"a", 30⟩, .numeric .notEqual .nan⟩)))

/-- A record of which the tree is true. -/
def mixedRecord : Record := .ofList [("a", .text "1"), ("b", .text "2"), ("c", .text "x")]

/-- Where the tree is true its opposite is false, and where a field of it is missing both fail. -/
theorem opposite_mixed :
    (∀ leaf ∈ mixedTree.comparisons, Decided mixedRecord leaf) ∧
      mixedTree.evaluate mixedRecord = .ok true ∧
      mixedTree.opposite.evaluate mixedRecord = .ok false ∧
      mixedTree.opposite.evaluate (mixedRecord.erase "c") =
        .error (.fieldNotFound ⟨"c", 20⟩) := by
  have one : Binary64.read (Value.text "1").chars = .ok (Decimal.toBinary64 false ⟨1, 0⟩) := by
    decide +kernel
  have decided {record : Record} (a : record.get? "a" = some (.text "1"))
      (b : record.get? "b" = some (.text "2")) :
      ∀ leaf ∈ mixedTree.comparisons, Decided record leaf := by
    simp only [mixedTree, Expression.comparisons, List.forall_mem_append, List.forall_mem_singleton]
    refine ⟨⟨?_, ?_⟩, ⟨fun _ _ _ => ⟨_, b⟩, ?_⟩, ⟨?_, ?_⟩, ?_, ?_⟩
    all_goals
      intro _ _ same
      cases same
    · intro _
      refine ⟨by decide +kernel, fun value present => ?_⟩
      obtain rfl : .text "1" = value := Option.some.inj (a.symm.trans present)
      rw [one]
      decide +kernel
    · intro orders
      cases orders
  have whole : ∀ leaf ∈ mixedTree.comparisons, Decided mixedRecord leaf :=
    decided (by decide +kernel) (by decide +kernel)
  have holds : mixedTree.evaluate mixedRecord = .ok true := by decide +kernel
  have fails : mixedTree.evaluate (mixedRecord.erase "c") = .error (.fieldNotFound ⟨"c", 20⟩) := by
    decide +kernel
  refine ⟨whole, holds, (evaluate_opposite whole).1 true holds, ?_⟩
  exact (evaluate_opposite (decided (by decide +kernel) (by decide +kernel))).2 _ fails

end Opposites

end RecordRules
