import RecordRules.Condition.Basic
import RecordRules.Proofs.Condition.Grammar
import RecordRules.Proofs.Condition.Meaning

/-!
# What does not depend on columns

Every field of a tree carries the column that it was written at. Two trees that agree in everything
but their columns are equally deep, have the same normal text, and come to the same on every
record, but for the column that a failure names.

Columns come from the places of words and from nothing else. So words of the same kinds in the same
order, wherever they stand, derive trees that agree in everything but their columns.
-/

namespace RecordRules.Columns

open Grammar Meaning

/-- A field without its column. -/
def unplacedField (field : FieldReference) : FieldReference := ⟨field.name, 0⟩

/-- A condition without its columns. -/
def unplaced : Expression → Expression
  | .comparison leaf => .comparison ⟨unplacedField leaf.field, leaf.test⟩
  | .joined connective left right => .joined connective (unplaced left) (unplaced right)
  | .grouped inner => .grouped (unplaced inner)

/-- A condition is as deep without its columns. -/
theorem depth_unplaced (tree : Expression) : (unplaced tree).depth = tree.depth := by
  induction tree with
  | comparison leaf => rfl
  | joined connective left right leftHypothesis rightHypothesis =>
    simp only [unplaced, Expression.depth, leftHypothesis, rightHypothesis]
  | grouped inner inductionHypothesis =>
    simp only [unplaced, Expression.depth, inductionHypothesis]

/-- A condition has the same normal text without its columns. -/
theorem chars_unplaced (tree : Expression) : (unplaced tree).chars = tree.chars := by
  induction tree with
  | comparison leaf => rfl
  | joined connective left right leftHypothesis rightHypothesis =>
    simp only [unplaced, Expression.chars, leftHypothesis, rightHypothesis]
  | grouped inner inductionHypothesis =>
    simp only [unplaced, Expression.chars, inductionHypothesis]

/-- What an outcome says without a column: the value, or the kind of the failure, the name of its
field and its cause. -/
def unplacedOutcome : Outcome → Except (String × String × Option LiteralFault) Bool
  | .ok value => .ok value
  | .error failure => .error (failure.kind, failure.field.name, failure.cause?)

/-- Joining outcomes does not look at columns. -/
theorem unplaced_join (connective : Connective) (left right : Outcome) :
    unplacedOutcome (joinOutcomes connective left right) = (do
      let first ← unplacedOutcome left
      let second ← unplacedOutcome right
      return connective.apply first second) := by
  cases left with
  | error failure => rfl
  | ok value => cases right <;> rfl

/-- A comparison looks at the name of its field and not at its column. -/
theorem unplaced_leaf (record : Record) (leaf : Comparison) :
    unplacedOutcome (Comparison.evaluate ⟨unplacedField leaf.field, leaf.test⟩ record) =
      unplacedOutcome (leaf.evaluate record) := by
  obtain ⟨⟨name, column⟩, test⟩ := leaf
  cases test with
  | numeric operator literal =>
    simp only [Comparison.evaluate, FieldReference.lookup, unplacedField]
    cases record.get? name with
    | none => rfl
    | some value =>
      simp only [bind, Except.bind]
      cases Number.Binary64.read value.chars <;> rfl
  | text operator literal =>
    simp only [Comparison.evaluate, FieldReference.lookup, unplacedField]
    cases record.get? name <;> rfl
  | list operator literal =>
    simp only [Comparison.evaluate, unplacedField]
    cases record.get? name with
    | none => rfl
    | some value => cases Scalar.readList literal <;> rfl

/-- A condition comes to the same without its columns. -/
theorem unplaced_evaluate (record : Record) (tree : Expression) :
    unplacedOutcome ((unplaced tree).evaluate record) =
      unplacedOutcome (tree.evaluate record) := by
  induction tree with
  | comparison leaf =>
    rw [unplaced, evaluate_comparison, evaluate_comparison]
    exact unplaced_leaf record leaf
  | joined connective left right leftHypothesis rightHypothesis =>
    rw [unplaced, evaluate_joined, evaluate_joined, unplaced_join, unplaced_join, leftHypothesis,
      rightHypothesis]
  | grouped inner inductionHypothesis =>
    rw [unplaced, evaluate_grouped, evaluate_grouped]
    exact inductionHypothesis

/-- A phrase without the columns of the tree on its left. -/
def unplacedPhrase : Phrase → Phrase
  | .operand => .operand
  | .condition => .condition
  | .links left => .links (unplaced left)

/-- Words of the same kinds derive the same tree but for its columns.

The tree on the left of a chain has other columns too once its words do, so the phrases need to
agree only but for their columns. -/
theorem derives_again {phrase other : Phrase} {words others : List Token} {tree : Expression}
    (derived : Derives phrase words tree) (phrases : unplacedPhrase other = unplacedPhrase phrase)
    (same : others.map Token.kind = words.map Token.kind) :
    ∃ again, Derives other others again ∧ unplaced again = unplaced tree := by
  induction derived generalizing other others with
  | comparison field operator literal name test named taken =>
    cases other with
    | operand =>
      simp only [List.map_cons, List.map_nil] at same
      obtain ⟨field', rest, rfl, isField, same⟩ := List.map_eq_cons_iff.mp same
      obtain ⟨operator', rest, rfl, isOperator, same⟩ := List.map_eq_cons_iff.mp same
      obtain ⟨literal', rest, rfl, isLiteral, same⟩ := List.map_eq_cons_iff.mp same
      obtain rfl := List.map_eq_nil_iff.mp same
      refine ⟨_, .comparison field' operator' literal' name test (isField.trans named) ?_, rfl⟩
      rw [isOperator, isLiteral]
      exact taken
    | condition | links => cases phrases
  | grouped opening closing inside inner opens closes derived inductionHypothesis =>
    cases other with
    | operand =>
      simp only [List.cons_append, List.map_cons, List.map_append, List.map_nil] at same
      obtain ⟨opening', rest, rfl, isOpening, same⟩ := List.map_eq_cons_iff.mp same
      obtain ⟨inside', last, rfl, sameInside, same⟩ := List.map_eq_append_iff.mp same
      obtain ⟨closing', rest, rfl, isClosing, same⟩ := List.map_eq_cons_iff.mp same
      obtain rfl := List.map_eq_nil_iff.mp same
      obtain ⟨again, derivedAgain, unplacedAgain⟩ :=
        @inductionHypothesis .condition inside' rfl sameInside
      refine ⟨.grouped again, .grouped opening' closing' inside' again
        (isOpening.trans opens) (isClosing.trans closes) derivedAgain, ?_⟩
      rw [unplaced, unplaced, unplacedAgain]
    | condition | links => cases phrases
  | condition words more first whole start chained startHypothesis chainedHypothesis =>
    cases other with
    | condition =>
      rw [List.map_append] at same
      obtain ⟨words', more', rfl, sameWords, sameMore⟩ := List.map_eq_append_iff.mp same
      obtain ⟨first', startAgain, unplacedFirst⟩ :=
        @startHypothesis .operand words' rfl sameWords
      obtain ⟨again, chainedAgain, unplacedAgain⟩ :=
        @chainedHypothesis (.links first') more' (congrArg Phrase.links unplacedFirst) sameMore
      exact ⟨again, .condition words' more' first' again startAgain chainedAgain, unplacedAgain⟩
    | operand | links => cases phrases
  | finished left =>
    cases other with
    | links left' =>
      obtain rfl := List.map_eq_nil_iff.mp same
      exact ⟨left', .finished left', Phrase.links.inj phrases⟩
    | operand | condition => cases phrases
  | link joint connective words more left right whole joins operand chained operandHypothesis
      chainedHypothesis =>
    cases other with
    | links left' =>
      simp only [List.cons_append, List.map_cons, List.map_append] at same
      obtain ⟨joint', rest, rfl, isJoint, same⟩ := List.map_eq_cons_iff.mp same
      obtain ⟨words', more', rfl, sameWords, sameMore⟩ := List.map_eq_append_iff.mp same
      obtain ⟨right', operandAgain, unplacedRight⟩ :=
        @operandHypothesis .operand words' rfl sameWords
      have joined : unplacedPhrase (.links (.joined connective left' right')) =
          unplacedPhrase (.links (.joined connective left right)) := by
        simp only [unplacedPhrase, unplaced, unplacedRight, Phrase.links.inj phrases]
      obtain ⟨again, chainedAgain, unplacedAgain⟩ := chainedHypothesis joined sameMore
      exact ⟨again, .link joint' connective words' more' left' right' again
        (isJoint.trans joins) operandAgain chainedAgain, unplacedAgain⟩
    | operand | condition => cases phrases

end RecordRules.Columns
