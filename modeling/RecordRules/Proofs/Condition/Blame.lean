import RecordRules.Proofs.Condition.Meaning
import RecordRules.Proofs.Condition.Refusal

/-!
# Which word a failure is about

A condition that was compiled fails on a record because one of its comparisons does, and the
failure names the field of that comparison with its column. The field is a word of the source,
written there as it is named and standing at that column of its line, and it is the word that the
comparison begins with. So whoever reads the failure finds the comparison to blame, also where a
field is compared more than once, where a condition goes over several lines, and where other
comparisons fail as well.

The words of a text and the comparisons of its tree are walked in step. Every comparison takes three
words in a row, and the words between comparisons are no fields.
-/

namespace RecordRules.Blame

open Number Text Grammar Spelling Recognition Segments Refusal Meaning

/-- Some words have these comparisons from left to right: three words in a row are a comparison, and
the words between comparisons are no fields. -/
inductive Compared : List Token → List Comparison → Prop
  | finished : Compared [] []
  | between (word : Token) (words : List Token) (leaves : List Comparison)
      (foreign : ∀ name, word.kind ≠ .field name) (later : Compared words leaves) :
      Compared (word :: words) leaves
  | comparison (field operator literal : Token) (name : String) (test : Test) (words : List Token)
      (leaves : List Comparison) (named : field.kind = .field name)
      (taken : Takes operator.kind literal.kind test) (later : Compared words leaves) :
      Compared (field :: operator :: literal :: words)
        (⟨⟨name, field.place.column⟩, test⟩ :: leaves)

/-- Words in a row have the comparisons of both in a row. -/
theorem compared_append {words more : List Token} {leaves others : List Comparison}
    (first : Compared words leaves) (second : Compared more others) :
    Compared (words ++ more) (leaves ++ others) := by
  induction first with
  | finished => exact second
  | between word words leaves foreign later inductionHypothesis =>
    exact .between word _ _ foreign inductionHypothesis
  | comparison field operator literal name test words leaves named taken later
      inductionHypothesis =>
    exact .comparison field operator literal name test _ _ named taken inductionHypothesis

/-- A phrase has the comparisons that it had before its own words, and behind them those of its
words. -/
theorem compared_derives {phrase : Phrase} {words : List Token} {tree : Expression}
    (derived : Derives phrase words tree) :
    ∃ leaves, tree.comparisons = phrase.before ++ leaves ∧ Compared words leaves := by
  induction derived with
  | comparison field operator literal name test named taken =>
    exact ⟨_, rfl, .comparison field operator literal name test [] [] named taken .finished⟩
  | grouped opening closing inside inner opens closes derived inductionHypothesis =>
    obtain ⟨leaves, same, compared⟩ := inductionHypothesis
    have behind : Compared [closing] [] := .between closing [] [] (by simp [closes]) .finished
    refine ⟨leaves, same, .between opening _ _ (by simp [opens]) ?_⟩
    have whole := compared_append compared behind
    rwa [List.append_nil] at whole
  | condition words more first whole start chained startHypothesis chainedHypothesis =>
    obtain ⟨leaves, same, compared⟩ := startHypothesis
    obtain ⟨others, sameWhole, comparedMore⟩ := chainedHypothesis
    replace same : first.comparisons = leaves := same
    exact ⟨leaves ++ others, by rw [sameWhole, Phrase.before, same]; rfl,
      compared_append compared comparedMore⟩
  | finished left => exact ⟨[], (List.append_nil _).symm, .finished⟩
  | link joint connective words more left right whole joins operand chained operandHypothesis
      chainedHypothesis =>
    obtain ⟨leaves, same, compared⟩ := operandHypothesis
    obtain ⟨others, sameWhole, comparedMore⟩ := chainedHypothesis
    replace same : right.comparisons = leaves := same
    refine ⟨leaves ++ others, ?_, .between joint _ _ (by simp [joins])
      (compared_append compared comparedMore)⟩
    rw [sameWhole, Phrase.before, Expression.comparisons, same, List.append_assoc]
    rfl

/-- A word of some words heads a comparison of theirs: it is the field of the comparison, the two
words behind it are its operator and its literal, and the words in front of it have just the
comparisons in front. -/
structure Heads (words : List Token) (before : List Comparison) (leaf : Comparison)
    (word : Token) : Prop where
  named : word.kind = .field leaf.field.name
  placed : word.place.column = leaf.field.column
  behind : ∃ front operator literal rest, words = front ++ word :: operator :: literal :: rest ∧
    Compared front before ∧ Takes operator.kind literal.kind leaf.test

/-- A word heads its comparison also behind other words, with the comparisons of these in front. -/
theorem heads_behind {words front : List Token} {before leaves : List Comparison}
    {leaf : Comparison} {word : Token} (first : Compared front leaves)
    (heads : Heads words before leaf word) :
    Heads (front ++ words) (leaves ++ before) leaf word := by
  obtain ⟨named, placed, ahead, operator, literal, rest, rfl, compared, taken⟩ := heads
  exact ⟨named, placed, front ++ ahead, operator, literal, rest, (List.append_assoc ..).symm,
    compared_append first compared, taken⟩

/-- Every comparison that some words have is headed by one of them. -/
theorem exists_heads {words : List Token} {leaves before after : List Comparison}
    {leaf : Comparison} (compared : Compared words leaves)
    (order : leaves = before ++ leaf :: after) : ∃ word, Heads words before leaf word := by
  induction compared generalizing before with
  | finished => simp at order
  | between word words leaves foreign later inductionHypothesis =>
    obtain ⟨found, heads⟩ := inductionHypothesis order
    exact ⟨found, heads_behind (.between word [] [] foreign .finished) heads⟩
  | comparison field operator literal name test words leaves named taken later
      inductionHypothesis =>
    cases before with
    | nil =>
      obtain ⟨rfl, -⟩ := List.cons.inj order
      exact ⟨field, named, rfl, [], operator, literal, words, rfl, .finished, taken⟩
    | cons first before =>
      obtain ⟨rfl, others⟩ := List.cons.inj order
      obtain ⟨found, heads⟩ := inductionHypothesis others
      have front := Compared.comparison field operator literal name test [] [] named taken .finished
      exact ⟨found, heads_behind front heads⟩

/-- How a comparison fails alone on a record. Its field is missing, though it is no membership test;
or the field is there, and its text is no number, or the literal is no list. -/
inductive FailsAs (record : Record) (leaf : Comparison) : EvaluationError → Prop
  | missing (absent : record.get? leaf.field.name = none)
      (demands : ∀ operator literal, leaf.test ≠ .list operator literal) :
      FailsAs record leaf (.fieldNotFound leaf.field)
  | number (operator : NumericOperator) (literal : Binary64) (value : Value) (fault : NumberFault)
      (compares : leaf.test = .numeric operator literal)
      (present : record.get? leaf.field.name = some value)
      (unread : Binary64.read value.chars = .error fault) :
      FailsAs record leaf (.literalParse leaf.field (.number fault))
  | list (operator : ListOperator) (literal : String) (value : Value) (fault : Json.Fault)
      (compares : leaf.test = .list operator literal)
      (present : record.get? leaf.field.name = some value)
      (unread : Scalar.readList literal = .error fault) :
      FailsAs record leaf (.literalParse leaf.field (.list fault))

/-- A comparison that fails does so in one of these ways. -/
theorem fails_as {record : Record} {leaf : Comparison} {failure : EvaluationError}
    (fails : leaf.evaluate record = .error failure) : FailsAs record leaf failure := by
  obtain ⟨field, test⟩ := leaf
  cases found : record.get? field.name with
  | none =>
    cases test with
    | numeric operator literal | text operator literal =>
      simp only [Comparison.evaluate, FieldReference.lookup, found, bind, Except.bind,
        Except.error.injEq] at fails
      subst fails
      exact .missing found (by simp)
    | list operator literal => simp [Comparison.evaluate, found] at fails
  | some value =>
    cases test with
    | numeric operator literal =>
      simp only [Comparison.evaluate, FieldReference.lookup, found, bind, Except.bind] at fails
      split at fails
      · cases fails
      · rename_i fault unread
        obtain rfl := Except.error.inj fails
        exact .number operator literal value fault rfl found unread
    | text operator literal =>
      simp [Comparison.evaluate, FieldReference.lookup, found, bind, Except.bind] at fails
    | list operator literal =>
      simp only [Comparison.evaluate, found] at fails
      split at fails
      · cases fails
      · rename_i fault unread
        obtain rfl := Except.error.inj fails
        exact .list operator literal value fault rfl found unread

/-- The kind of a failure tells whether the record has the field of the comparison that failed. A
membership test never lacks its field. -/
theorem fails_as_kind {record : Record} {leaf : Comparison} {failure : EvaluationError}
    (fails : FailsAs record leaf failure) :
    failure.field = leaf.field ∧
      (failure.kind = "field_not_found" ↔ record.get? leaf.field.name = none) ∧
      (failure.kind = "literal_parse" ↔ ∃ value, record.get? leaf.field.name = some value) ∧
      (failure.kind = "field_not_found" →
        ∀ operator literal, leaf.test ≠ .list operator literal) := by
  cases fails with
  | missing absent demands =>
    simp [EvaluationError.field, EvaluationError.kind, absent, demands]
  | number operator literal value fault compares present unread =>
    simp [EvaluationError.field, EvaluationError.kind, present]
  | list operator literal value fault compares present unread =>
    simp [EvaluationError.field, EvaluationError.kind, present]

/-- The leftmost comparison of a condition that fails alone on a record, and how it fails. -/
structure FirstToFail (tree : Expression) (record : Record) (before : List Comparison)
    (leaf : Comparison) (failure : EvaluationError) : Prop where
  order : ∃ after, tree.comparisons = before ++ leaf :: after
  fine : ∀ earlier ∈ before, ∃ value, earlier.evaluate record = .ok value
  fails : leaf.evaluate record = .error failure

/-- A condition that fails has a leftmost comparison that fails alone, and fails like it. -/
theorem exists_first_to_fail {tree : Expression} {record : Record} {failure : EvaluationError}
    (failed : tree.evaluate record = .error failure) :
    ∃ before leaf, FirstToFail tree record before leaf failure := by
  cases first : tree.comparisons.findSome? (failure? record) with
  | none =>
    obtain ⟨value, valued⟩ := valued_of_no_failure record tree.comparisons first
    rw [evaluate_holds record tree value valued] at failed
    cases failed
  | some cause =>
    obtain rfl : cause = failure :=
      Except.error.inj ((evaluate_failure record tree cause first).symm.trans failed)
    obtain ⟨before, leaf, after, order, fails, fine⟩ := List.findSome?_eq_some_iff.mp first
    refine ⟨before, leaf, ⟨after, order⟩, ?_, ?_⟩
    · intro earlier member
      exact failure_none_iff.mp (fine earlier member)
    · exact failure_some_iff.mp fails

/-- A word is written in a text at its place, which is the place of no other offset of the text. No
column is as large as the number of characters. -/
structure Written (text : List Char) (word : Token) : Prop where
  stands : ∃ front ahead, Designates text word.place front ahead ∧ word.text.toList <+: ahead
  column : word.place.column < text.length

/-- A field of a scanned text is written where it stands, as it is named. -/
theorem written_field {text : List Char} {word : Token} {name : String}
    (member : word ∈ (Scan.ofText text).tokens) (named : word.kind = .field name) :
    word.text = name ∧ Written text word := by
  obtain ⟨before, rest, whole, stands⟩ :=
    (segmented_stands (segmented_text text) []).1 word member
  have somewhere : Somewhere [] text fun place ahead =>
      word.place = place ∧ word.text.toList <+: ahead :=
    ⟨before, rest, whole, stands.placed, stands.written⟩
  have spelled : Spells word.text.toList (.field name) := named ▸ stands.spelled
  refine ⟨String.toList_inj.mp (name_spelled spelled).symm, designated somewhere, ?_⟩
  have shorter : before.length < text.length := by
    obtain ⟨first, tail, starts, -⟩ := first_spelled spelled
    have some := stands.written.length_le
    rw [starts, List.length_cons] at some
    rw [whole, List.length_append]
    omega
  have bound := Place.behind_bound before
  have line : 1 ≤ (Place.behind before).line := Nat.le_add_right 1 _
  rw [stands.placed, List.nil_append]
  omega

/-- A failure of a condition that was compiled names its field and a column, and the field is
written in the source at that column of its line. It is the word that the leftmost comparison that
fails alone begins with. The field is said to be missing exactly if the record does not have it, and
then the comparison is no membership test; and it is a value or a literal that could not be read
exactly if the record has it. -/
theorem evaluate_blames (source : String) (condition : Condition) (record : Record)
    (failure : EvaluationError) (compiled : Condition.compile source = .ok condition)
    (failed : condition.evaluate record = .error failure) :
    ∃ before leaf word, FirstToFail condition.root record before leaf failure ∧
      Heads (Scan.ofText source.toList).tokens before leaf word ∧
      Written source.toList word ∧ word.text = failure.field.name ∧
      word.place.column = failure.field.column ∧
      (failure.kind = "field_not_found" ↔ record.get? failure.field.name = none) ∧
      (failure.kind = "literal_parse" ↔ ∃ value, record.get? failure.field.name = some value) ∧
      (failure.kind = "field_not_found" →
        ∀ operator literal, leaf.test ≠ .list operator literal) := by
  obtain ⟨before, leaf, first⟩ := exists_first_to_fail failed
  obtain ⟨-, derived, -⟩ := (parse_iff_derives _ _).mp ((NormalText.compile_iff _ _).mp compiled).2
  obtain ⟨leaves, same, compared⟩ := compared_derives derived
  obtain ⟨after, order⟩ := first.order
  obtain ⟨word, heads⟩ := exists_heads compared (same.symm.trans order)
  have member : word ∈ (Scan.ofText source.toList).tokens := by
    obtain ⟨front, operator, literal, rest, words, -⟩ := heads.behind
    simp [words]
  obtain ⟨text, written⟩ := written_field member heads.named
  obtain ⟨field, kinds⟩ := fails_as_kind (fails_as first.fails)
  rw [field]
  exact ⟨before, leaf, word, first, heads, written, text, heads.placed, kinds⟩

/-- A condition over three lines in which a field is compared more than once. -/
def threeLines : Condition :=
  ⟨"tag in []\n  and ( n > 1\n or n < 1 and m == \"\" )",
    .joined .and (.comparison ⟨⟨"tag", 0⟩, .list .among "[]"⟩)
      (.grouped (.joined .and
        (.joined .or
          (.comparison ⟨⟨"n", 8⟩, .numeric .greater (Decimal.toBinary64 false ⟨1, 0⟩)⟩)
          (.comparison ⟨⟨"n", 4⟩, .numeric .less (Decimal.toBinary64 false ⟨1, 0⟩)⟩))
        (.comparison ⟨⟨"m", 14⟩, .text .equal ""⟩)))⟩

/-- A record that has one of the fields, with a text that is no number. -/
def wordRecord : Record := Table.ofList [("n", .text "many")]

/-- Of all comparisons that fail on a record, the first one is to blame, which is on the second line
of the source and not the first to compare a field that is missing. -/
theorem evaluate_three_lines :
    Condition.compile threeLines.source = .ok threeLines ∧
      threeLines.evaluate wordRecord = .error (.literalParse ⟨"n", 8⟩ (.number .malformed)) ∧
      ∃ before leaf word, FirstToFail threeLines.root wordRecord before leaf
          (.literalParse ⟨"n", 8⟩ (.number .malformed)) ∧
        Heads (Scan.ofText threeLines.source.toList).tokens before leaf word ∧
        Written threeLines.source.toList word ∧ word.text = "n" ∧ word.place.column = 8 := by
  have compiled : Condition.compile threeLines.source = .ok threeLines := by decide +kernel
  have failed : threeLines.evaluate wordRecord =
      .error (.literalParse ⟨"n", 8⟩ (.number .malformed)) := by decide +kernel
  obtain ⟨before, leaf, word, first, heads, written, text, column, -⟩ :=
    evaluate_blames threeLines.source threeLines wordRecord _ compiled failed
  exact ⟨compiled, failed, before, leaf, word, first, heads, written, text, column⟩

end RecordRules.Blame
