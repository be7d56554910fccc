import RecordRules.Condition.Basic

/-!
# What a condition means on a record

Walking a chain down its left side, with the operands on the right evaluated on the way, comes to
the same as evaluating both sides of every connective and joining them. So a condition fails
exactly if one of its comparisons fails alone, with the failure of the leftmost such comparison,
and otherwise it is the truth function of its connectives over the values of its comparisons.

Trees of every shape are covered, also those that no text has: a chain on the right of a
connective, and a chain of any length.
-/

namespace RecordRules.Meaning

/-- The truth of a condition whose comparisons have these values. -/
def holds (value : Comparison → Bool) : Expression → Bool
  | .comparison leaf => value leaf
  | .joined .and left right => holds value left && holds value right
  | .joined .or left right => holds value left || holds value right
  | .grouped inner => holds value inner

/-- Both outcomes are there before they are joined, and a failure on the left comes first. -/
def joinOutcomes (connective : Connective) (left right : Outcome) : Outcome := do
  let first ← left
  let second ← right
  return connective.apply first second

/-- An operand without links is its own chain. -/
theorem settle_nil (first : Outcome) : Expression.settle first [] = first := by
  cases first <;> rfl

/-- The first link joins the first operand to the next, and the chain goes on from there. -/
theorem settle_cons (first next : Outcome) (connective : Connective)
    (links : List (Connective × Outcome)) :
    Expression.settle first ((connective, next) :: links) =
      Expression.settle (joinOutcomes connective first next) links := by
  cases first with
  | error failure => rfl
  | ok value => cases next <;> rfl

/-- Walking a tree with links on its right is evaluating the tree and settling the links.

The links collected on the way down are exactly those still to be settled, so the induction needs
them to be arbitrary. -/
theorem walk_settle (record : Record) (tree : Expression) (links : List (Connective × Outcome)) :
    Expression.walk record tree links = Expression.settle (tree.evaluate record) links := by
  induction tree generalizing links with
  | comparison leaf => simp only [Expression.evaluate, Expression.walk, settle_nil]
  | grouped inner inductionHypothesis =>
    simp only [Expression.evaluate, Expression.walk, settle_nil]
  | joined connective left right leftHypothesis rightHypothesis =>
    have walked : ∀ links, Expression.walk record (.joined connective left right) links =
        Expression.settle
          (joinOutcomes connective (left.evaluate record) (right.evaluate record)) links := by
      intro links
      rw [← settle_cons, ← leftHypothesis]
      rfl
    rw [Expression.evaluate, walked, walked, settle_nil]

/-- A comparison is evaluated as it is. -/
@[simp] theorem evaluate_comparison (record : Record) (leaf : Comparison) :
    (Expression.comparison leaf).evaluate record = leaf.evaluate record :=
  settle_nil _

/-- Parentheses change nothing. -/
@[simp] theorem evaluate_grouped (record : Record) (inner : Expression) :
    (Expression.grouped inner).evaluate record = inner.evaluate record :=
  settle_nil _

/-- Both sides of a connective are evaluated before they are joined. -/
@[simp] theorem evaluate_joined (record : Record) (connective : Connective)
    (left right : Expression) :
    (Expression.joined connective left right).evaluate record =
      joinOutcomes connective (left.evaluate record) (right.evaluate record) := by
  have walked : Expression.walk record (.joined connective left right) [] =
      Expression.walk record left [(connective, right.evaluate record)] := rfl
  rw [Expression.evaluate, walked, walk_settle, settle_cons, settle_nil]

/-- Why a comparison fails on a record, if it does. -/
def failure? (record : Record) (leaf : Comparison) : Option EvaluationError :=
  match leaf.evaluate record with
  | .ok _ => none
  | .error failure => some failure

/-- A comparison does not fail exactly if it has a value. -/
theorem failure_none_iff {record : Record} {leaf : Comparison} :
    failure? record leaf = none ↔ ∃ value, leaf.evaluate record = .ok value := by
  unfold failure?
  cases leaf.evaluate record <;> simp

/-- A comparison fails as it is evaluated. -/
theorem failure_some_iff {record : Record} {leaf : Comparison} {failure : EvaluationError} :
    failure? record leaf = some failure ↔ leaf.evaluate record = .error failure := by
  unfold failure?
  cases leaf.evaluate record <;> simp

/-- Where no comparison fails, the condition is the truth function of its connectives. -/
theorem evaluate_holds (record : Record) (tree : Expression) (value : Comparison → Bool)
    (valued : ∀ leaf ∈ tree.comparisons, leaf.evaluate record = .ok (value leaf)) :
    tree.evaluate record = .ok (holds value tree) := by
  induction tree with
  | comparison leaf =>
    rw [evaluate_comparison]
    exact valued leaf (List.mem_singleton_self leaf)
  | grouped inner inductionHypothesis =>
    rw [evaluate_grouped]
    exact inductionHypothesis valued
  | joined connective left right leftHypothesis rightHypothesis =>
    have onLeft := leftHypothesis fun leaf member => valued leaf (List.mem_append_left _ member)
    have onRight := rightHypothesis fun leaf member => valued leaf (List.mem_append_right _ member)
    rw [evaluate_joined, onLeft, onRight]
    cases connective <;> rfl

/-- Comparisons none of which fails all have values. -/
theorem valued_of_no_failure (record : Record) (leaves : List Comparison)
    (none : leaves.findSome? (failure? record) = none) :
    ∃ value : Comparison → Bool, ∀ leaf ∈ leaves, leaf.evaluate record = .ok (value leaf) := by
  refine ⟨fun leaf => (leaf.evaluate record).toOption.getD false, ?_⟩
  intro leaf member
  have silent := List.findSome?_eq_none_iff.mp none leaf member
  obtain ⟨value, outcome⟩ := failure_none_iff.mp silent
  simp only [outcome, Except.toOption, Option.getD_some]

/-- Where a comparison fails, the condition fails as the leftmost one does. -/
theorem evaluate_failure (record : Record) (tree : Expression) (failure : EvaluationError)
    (first : tree.comparisons.findSome? (failure? record) = some failure) :
    tree.evaluate record = .error failure := by
  induction tree with
  | comparison leaf =>
    rw [evaluate_comparison]
    rw [Expression.comparisons, List.findSome?_singleton] at first
    exact failure_some_iff.mp first
  | grouped inner inductionHypothesis =>
    rw [evaluate_grouped]
    exact inductionHypothesis first
  | joined connective left right leftHypothesis rightHypothesis =>
    rw [evaluate_joined]
    simp only [Expression.comparisons, List.findSome?_append] at first
    cases onLeft : left.comparisons.findSome? (failure? record) with
    | some cause =>
      obtain rfl : cause = failure := by simpa [onLeft] using first
      rw [leftHypothesis onLeft]
      rfl
    | none =>
      obtain ⟨value, valued⟩ := valued_of_no_failure record left.comparisons onLeft
      rw [onLeft, Option.none_or] at first
      rw [evaluate_holds record left value valued, rightHypothesis first]
      rfl

/-- A condition that is one comparison is evaluated as the comparison. For every condition, the
leftmost comparison that fails gives its failure to the whole condition, whatever the connectives,
the parentheses and the comparisons behind it; and if every comparison has a value, the condition
has the value that its connectives make of them. One of the two is the case for every condition and
every record.

The chain is settled operand by operand, and an operand that fails is met before those on its
right, so the first failure in the order of the comparisons is the one that comes out. -/
theorem evaluate_exact (tree : Expression) (record : Record) :
    (∀ leaf, (Expression.comparison leaf).evaluate record = leaf.evaluate record) ∧
    (∀ before leaf after failure, tree.comparisons = before ++ leaf :: after →
      (∀ earlier ∈ before, ∃ value, earlier.evaluate record = .ok value) →
      leaf.evaluate record = .error failure →
      tree.evaluate record = .error failure) ∧
    (∀ value : Comparison → Bool,
      (∀ leaf ∈ tree.comparisons, leaf.evaluate record = .ok (value leaf)) →
      tree.evaluate record = .ok (holds value tree)) ∧
    ((∃ before leaf after failure, tree.comparisons = before ++ leaf :: after ∧
        (∀ earlier ∈ before, ∃ value, earlier.evaluate record = .ok value) ∧
        leaf.evaluate record = .error failure) ∨
      ∃ value : Comparison → Bool, ∀ leaf ∈ tree.comparisons,
        leaf.evaluate record = .ok (value leaf)) := by
  refine ⟨evaluate_comparison record, ?_, evaluate_holds record tree, ?_⟩
  · intro before leaf after failure order fine fails
    have skipped : before.findSome? (failure? record) = none := by
      apply List.findSome?_eq_none_iff.mpr
      intro earlier member
      obtain ⟨value, outcome⟩ := fine earlier member
      simp [failure?, outcome]
    have met : failure? record leaf = some failure := by simp [failure?, fails]
    apply evaluate_failure record tree failure
    simp [order, List.findSome?_append, skipped, met]
  · cases first : tree.comparisons.findSome? (failure? record) with
    | none => exact .inr (valued_of_no_failure record tree.comparisons first)
    | some failure =>
      obtain ⟨before, leaf, after, order, fails, fine⟩ := List.findSome?_eq_some_iff.mp first
      refine .inl ⟨before, leaf, after, failure, order, ?_, ?_⟩
      · intro earlier member
        have silent := fine earlier member
        unfold failure? at silent
        cases outcome : earlier.evaluate record with
        | ok value => exact ⟨value, rfl⟩
        | error cause => simp [outcome] at silent
      · unfold failure? at fails
        cases outcome : leaf.evaluate record with
        | ok value => simp [outcome] at fails
        | error cause => simpa [outcome] using fails

end RecordRules.Meaning
