import RecordRules.Proofs.Condition.Columns
import RecordRules.Proofs.Condition.Recognition
import RecordRules.Proofs.Condition.Writing

/-!
# Compiling the normal text of a condition

The normal text of a condition that was compiled has the same words as its source, so it is
compiled to the same tree but for the columns, and its own normal text is itself. The exception is
a number with so many digits that it is infinite: its text reads as a field, where the grammar has
no place for one, and then the normal text is refused.
-/

namespace RecordRules.NormalText

open Number Grammar Columns Recognition Writing

/-- Whether a word is an infinite number. -/
def isInfinite : Token.Kind → Bool
  | .number (.infinite _) => true
  | _ => false

/-- A condition has as many fields as literals. -/
theorem balanced_kinds (tree : Expression) :
    (kinds tree).countP isField = (kinds tree).countP isLiteral := by
  induction tree with
  | comparison leaf =>
    obtain ⟨noField, noLiteral⟩ := operator_class leaf.test
    obtain ⟨other, literal⟩ := literal_class leaf.test
    have field : isField (.field leaf.field.name) = true ∧
        isLiteral (.field leaf.field.name) = false := ⟨rfl, rfl⟩
    simp [kinds, field, noField, noLiteral, other, literal]
  | joined connective left right leftHypothesis rightHypothesis =>
    simp [kinds, leftHypothesis, rightHypothesis, isField, isLiteral]
  | grouped inner inductionHypothesis =>
    simp [kinds, inductionHypothesis, isField, isLiteral]

/-- Every infinite number is shown as one field more and one literal less. -/
theorem unbalanced_shown (words : List Token.Kind) :
    (words.map shown).countP isField = words.countP isField + words.countP isInfinite ∧
      (words.map shown).countP isLiteral + words.countP isInfinite = words.countP isLiteral := by
  induction words with
  | nil => exact ⟨rfl, rfl⟩
  | cons kind rest inductionHypothesis =>
    obtain ⟨fields, literals⟩ := inductionHypothesis
    simp only [List.map_cons, List.countP_cons, fields, ← literals]
    cases kind with
    | number value => cases value <;> simp +arith [shown, isField, isLiteral, isInfinite]
    | _ => simp +arith [shown, isField, isLiteral, isInfinite]

/-- The words of a condition with an infinite number are not shown as those of any condition. -/
theorem finite_of_shown {tree other : Expression} (same : kinds other = (kinds tree).map shown) :
    Finite (kinds tree) := by
  obtain ⟨fields, literals⟩ := unbalanced_shown (kinds tree)
  have balanced := balanced_kinds tree
  have balancedOther := balanced_kinds other
  rw [same] at balancedOther
  have none : (kinds tree).countP isInfinite = 0 := by omega
  intro negative member
  exact List.countP_eq_zero.mp none _ member rfl

/-- The words of a tree that is read can be written: they are the words of its text. -/
theorem writable_of_read {source : String} {tree : Expression}
    (read : Expression.parse source = .ok tree) : Writable (kinds tree) := by
  obtain ⟨faultless, derived, _⟩ := (parse_iff_derives source tree).mp read
  rw [derives_kinds derived]
  exact writable_scan faultless

/-- A tree that is read and has only finite numbers is read from its normal text again. -/
theorem read_normal {source : String} {tree : Expression}
    (read : Expression.parse source = .ok tree) (finite : Finite (kinds tree)) :
    ∃ again, Expression.parse tree.normalText = .ok again ∧ unplaced again = unplaced tree := by
  obtain ⟨faultless, derived, within⟩ := (parse_iff_derives source tree).mp read
  obtain ⟨scanned, quiet⟩ := scan_normal (writable_of_read read)
  have same : (Scan.ofText tree.normalText.toList).tokens.map Token.kind =
      (Scan.ofText source.toList).tokens.map Token.kind := by
    rw [scanned, shown_finite finite, derives_kinds derived]
    rfl
  obtain ⟨again, derivedAgain, sameTree⟩ :
      ∃ again, Derives .condition (Scan.ofText tree.normalText.toList).tokens again ∧
        unplaced again = unplaced tree := derives_again derived rfl same
  have shallow : again.depth ≤ maximumDepth := by
    rw [← depth_unplaced again, sameTree, depth_unplaced]
    exact within
  exact ⟨again, (parse_iff_derives _ again).mpr ⟨quiet finite, derivedAgain, shallow⟩, sameTree⟩

/-- A tree whose normal text is read has only finite numbers. -/
theorem finite_of_read {source : String} {tree again : Expression}
    (read : Expression.parse source = .ok tree)
    (readAgain : Expression.parse tree.normalText = .ok again) : Finite (kinds tree) := by
  obtain ⟨_, derived, _⟩ := (parse_iff_derives _ again).mp readAgain
  obtain ⟨scanned, _⟩ := scan_normal (writable_of_read read)
  refine finite_of_shown ((derives_kinds derived).trans ?_)
  rw [← scanned]
  rfl

/-- The numbers among the words of a condition are the numeric literals of its comparisons. -/
theorem number_mem_kinds (tree : Expression) (value : Binary64) :
    .number value ∈ kinds tree ↔
      ∃ leaf ∈ tree.comparisons, ∃ operator, leaf.test = .numeric operator value := by
  induction tree with
  | comparison leaf =>
    have noOperator : .number value ≠ operatorOf leaf.test :=
      fun same => (operator_foreign leaf.test).2 value same.symm
    have literal : .number value = literalOf leaf.test ↔
        ∃ operator, leaf.test = .numeric operator value := by
      cases leaf.test <;> simp [literalOf, eq_comm]
    simp [kinds, Expression.comparisons, noOperator, literal]
  | joined connective left right leftHypothesis rightHypothesis =>
    simp [kinds, Expression.comparisons, leftHypothesis, rightHypothesis, or_and_right, exists_or]
  | grouped inner inductionHypothesis =>
    simp [kinds, Expression.comparisons, inductionHypothesis]

/-- The words of a condition are finite exactly if no numeric literal of it is infinite. -/
theorem finite_iff (tree : Expression) :
    Finite (kinds tree) ↔ ∀ leaf ∈ tree.comparisons, ∀ operator negative,
      leaf.test ≠ .numeric operator (.infinite negative) := by
  constructor
  · intro finite leaf member operator negative same
    exact finite negative ((number_mem_kinds tree _).mpr ⟨leaf, member, operator, same⟩)
  · intro literals negative member
    obtain ⟨leaf, found, operator, same⟩ := (number_mem_kinds tree _).mp member
    exact literals leaf found operator negative same

/-- Compiling a text is reading it as a tree, which is kept with the text. -/
theorem compile_iff (source : String) (condition : Condition) :
    Condition.compile source = .ok condition ↔
      condition.source = source ∧ Expression.parse source = .ok condition.root := by
  unfold Condition.compile
  cases read : Expression.parse source with
  | error errors => simp
  | ok root =>
    obtain ⟨text, tree⟩ := condition
    simp [eq_comm]

/-- The normal text of a condition that was compiled is compiled exactly if no numeric literal of
the condition is infinite. Whenever it is compiled, the condition is the same but for the columns
of its fields, its normal text is the same, and on every record it comes to the same value or to a
failure of the same kind, of the same field and with the same cause.

The words of a text that is read can be written, the normal text writes them one by one, and words
of the same kinds derive the same tree. An infinite number is shown as a field, and then there are
more fields than literals, which no condition has. -/
theorem compile_normal_text (source : String) (condition : Condition)
    (compiled : Condition.compile source = .ok condition) :
    ((∃ again, Condition.compile condition.normalText = .ok again) ↔
      ∀ leaf ∈ condition.root.comparisons, ∀ operator negative,
        leaf.test ≠ .numeric operator (.infinite negative)) ∧
    ∀ again, Condition.compile condition.normalText = .ok again →
      unplaced again.root = unplaced condition.root ∧
        again.normalText = condition.normalText ∧
        ∀ record, unplacedOutcome (again.evaluate record) =
          unplacedOutcome (condition.evaluate record) := by
  obtain ⟨_, read⟩ := (compile_iff source condition).mp compiled
  have finite : ∀ again, Condition.compile condition.normalText = .ok again →
      Finite (kinds condition.root) := by
    intro again compiledAgain
    exact finite_of_read read ((compile_iff _ again).mp compiledAgain).2
  constructor
  · rw [← finite_iff]
    constructor
    · rintro ⟨again, compiledAgain⟩
      exact finite again compiledAgain
    · intro literals
      obtain ⟨again, readAgain, _⟩ := read_normal read literals
      exact ⟨⟨condition.normalText, again⟩, (compile_iff _ _).mpr ⟨rfl, readAgain⟩⟩
  · intro again compiledAgain
    obtain ⟨_, readAgain⟩ := (compile_iff _ again).mp compiledAgain
    obtain ⟨other, readOther, sameTree⟩ := read_normal read (finite again compiledAgain)
    obtain rfl : again.root = other := Except.ok.inj (readAgain.symm.trans readOther)
    refine ⟨sameTree, ?_, ?_⟩
    · rw [Condition.normalText, Condition.normalText, Expression.normalText, Expression.normalText,
        ← chars_unplaced again.root, sameTree, chars_unplaced]
    · intro record
      rw [Condition.evaluate, Condition.evaluate, ← unplaced_evaluate record again.root, sameTree,
        unplaced_evaluate]

/-- A field named `not`, a number with a sign and a zero at its end, and a list behind a `not in`
in capital letters. -/
def mixedCondition : Condition :=
  ⟨"not >-0.50 or(b NOT\tIN [1, 2])",
    .joined .or
      (.comparison ⟨⟨"not", 0⟩, .numeric .greater (Decimal.toBinary64 true ⟨50, -2⟩)⟩)
      (.grouped (.comparison ⟨⟨"b", 14⟩, .list .notAmong "[1, 2]"⟩))⟩

/-- The normal text of a condition that was written in another way is compiled to it. -/
theorem compile_mixed_condition :
    Condition.compile mixedCondition.source = .ok mixedCondition ∧
      ∃ again, Condition.compile mixedCondition.normalText = .ok again ∧
        unplaced again.root = unplaced mixedCondition.root ∧
        again.normalText = mixedCondition.normalText := by
  have compiled : Condition.compile mixedCondition.source = .ok mixedCondition := by
    decide +kernel
  obtain ⟨accepted, same⟩ := compile_normal_text mixedCondition.source mixedCondition compiled
  have finite : ∀ leaf ∈ mixedCondition.root.comparisons, ∀ operator negative,
      leaf.test ≠ .numeric operator (.infinite negative) := by
    have half : ∀ negative, Decimal.toBinary64 true ⟨50, -2⟩ ≠ .infinite negative := by
      decide +kernel
    intro leaf member operator negative same
    simp only [mixedCondition, Expression.comparisons, List.cons_append, List.nil_append,
      List.mem_cons, List.not_mem_nil, or_false] at member
    rcases member with rfl | rfl
    · exact half negative (Test.numeric.inj same).2
    · cases same
  obtain ⟨again, compiledAgain⟩ := accepted.mpr finite
  obtain ⟨tree, text, _⟩ := same again compiledAgain
  exact ⟨compiled, again, compiledAgain, tree, text⟩

end RecordRules.NormalText
