import RecordRules.Proofs.Condition.Association
import RecordRules.Proofs.Condition.ListLiterals
import RecordRules.Proofs.Record.FlatObjects

/-!
# Membership in a list of scalars

A condition that asks whether a field is among some scalars is compiled whatever the scalars are, and
its list is decoded to them in their order. It holds of a record exactly if the text of the field is
the text of one of them, so a field that was written as one of them is always found, and so is any
other value with the same text. A missing field is neither among the scalars nor not among them.

The strings in the list may hold brackets, quotes and any other escapes, but each code unit must
belong to a character. A lone surrogate is a string of the grammar, and the reader of documents
refuses it, in a list as everywhere else.
-/

namespace RecordRules.Membership

open Json JsonSyntax JsonTaking JsonNumerals JsonScalars JsonDocuments JsonAccepting
open ListLiterals Text Lexeme Characters Spelling Grammar Columns Recognition Association

/-- The text of a list of items. -/
def listText (items : List (List Char)) : List Char :=
  '[' :: ([','].intercalate items ++ [']'])

/-- The text of a condition that asks whether a field is among some items, or not. -/
def conditionText (name : String) (operator : ListOperator) (items : List (List Char)) : String :=
  String.ofList
    (name.toList ++ ' ' :: (operator.spelling.toList ++ ' ' :: listText items))

/-- The text of a record that has an item for a field. -/
def recordText (name : String) (item : List Char) : String :=
  String.ofList ('\x7b' :: '"' :: (name.toList ++ '"' :: ':' :: (item ++ ['\x7d'])))

section Lists

variable {α : Type}

/-- The items behind the first, with a comma in front of each. -/
def behindFirst (items : List (List Char)) : List Char := items.flatMap (',' :: ·)

/-- Items with commas between them are the first and then the others. -/
theorem intercalate_cons (item : List Char) (items : List (List Char)) :
    [','].intercalate (item :: items) = item ++ behindFirst items := by
  induction items generalizing item with
  | nil => simp [List.intercalate, behindFirst]
  | cons next items inductionHypothesis =>
    have rest := inductionHypothesis next
    simp only [List.intercalate, behindFirst, List.flatMap_cons, List.cons_append] at rest ⊢
    rw [← rest]
    simp

/-- Texts with commas between them spell what each of them spells. -/
theorem parts_items {spells : List Char → α → Prop} {item : List Char} {items : List (List Char)}
    {values : List α} (spelled : List.Forall₂ spells (item :: items) values) :
    Parts (Spaced spells) (item ++ behindFirst items) values := by
  induction items generalizing item values with
  | nil =>
    obtain _ | ⟨first, _ | _⟩ := spelled
    have part := Spaced.spaced [] item [] _ blank_nil first blank_nil
    simpa [behindFirst] using Parts.last _ _ part
  | cons next items inductionHypothesis =>
    obtain _ | ⟨first, later⟩ := spelled
    have part := Spaced.spaced [] item [] _ blank_nil first blank_nil
    simpa [behindFirst] using Parts.more _ _ _ _ part (inductionHypothesis later)

/-- Texts between brackets with commas between them are a list of what each of them spells. -/
theorem list_spelled {spells : List Char → α → Prop} {items : List (List Char)} {values : List α}
    (spelled : List.Forall₂ spells items values) :
    Enclosed .list (Spaced spells) (listText items) values := by
  cases items with
  | nil =>
    cases spelled
    exact .empty [] blank_nil
  | cons item items =>
    rw [listText, intercalate_cons]
    exact .parts _ _ (parts_items spelled)

/-- Values between brackets with commas between them are a list. -/
theorem written_list {items : List (List Char)} (written : ∀ text ∈ items, Writes .value text) :
    Writes .value (listText items) := by
  have spelled : List.Forall₂ (fun text value => text = value ∧ Writes .value text) items items :=
    List.forall₂_same.mpr fun text member => ⟨rfl, written text member⟩
  exact (list_spelled spelled).written fun text value spaced =>
    spaced.written fun text value spelled => spelled.2

/-- A scalar is spelled by the text that denotes it, within every depth. -/
theorem spelled_within {text : List Char} {scalar : Scalar} (denotes : Denotes text scalar)
    (depth : Nat) : ∃ value, SpellsWithin depth text value ∧ IsScalar value scalar := by
  obtain ⟨value, spelled, isScalar⟩ := spelled_of_denotes denotes
  exact ⟨value, within_mono (Nat.zero_le depth) spelled, isScalar⟩

/-- A list of scalars is decoded to them, in their order. -/
theorem decode_list {texts : List (List Char)} {scalars : List Scalar}
    (denoted : List.Forall₂ Denotes texts scalars) :
    Scalar.readList (String.ofList (listText texts)) = .ok scalars := by
  have spelled : List.Forall₂ (Relation.Comp (SpellsWithin (maximumNesting - 1))
      fun value scalar => Scalar.ofJson? value = some scalar) texts scalars := by
    refine denoted.imp fun text scalar denotes => ?_
    obtain ⟨value, spelled, isScalar⟩ := spelled_within denotes (maximumNesting - 1)
    exact ⟨value, spelled, isScalar.item⟩
  have reads := reads_variant "Scalar" Scalar.ofJson? (maximumNesting - 1)
  refine read_document_of_spaced (reads_list_of reads) ?_
  rw [String.toList_ofList]
  simpa using Spaced.spaced [] _ [] _ blank_nil (list_spelled spelled) blank_nil

end Lists

section Conditions

variable {name : String} {items : List (List Char)}

/-- The comparison that a condition shows, but for the column of its field. -/
def comparisonOf (name : String) (operator : ListOperator) (items : List (List Char)) :
    Comparison :=
  ⟨⟨name, 0⟩, .list operator (String.ofList (listText items))⟩

/-- The condition is the normal text of its comparison. -/
theorem normal_text_comparison (name : String) (operator : ListOperator)
    (items : List (List Char)) :
    (Expression.comparison (comparisonOf name operator items)).normalText =
      conditionText name operator items := by
  simp [Expression.normalText, Expression.chars, Comparison.chars, Test.chars, comparisonOf,
    conditionText]

/-- The words of the comparison can be written: its list ends where its first bracket is closed. -/
theorem valid_comparison (named : IsName name.toList) (apart : spells name.toList "not" = false)
    (written : ∀ item ∈ items, Writes .value item) (operator : ListOperator) :
    Valid (comparisonOf name operator items) := by
  have split := split_written (written_list written) []
  rw [List.append_nil] at split
  refine ⟨named, fun denies => ?_, ⟨_, String.toList_ofList, ?_⟩⟩
  · exact absurd (denies.symm.trans apart) (by decide)
  · rw [String.toList_ofList]
    exact split

/-- The condition is compiled to the comparison that it shows. -/
theorem compile_membership (named : IsName name.toList) (apart : spells name.toList "not" = false)
    (written : ∀ item ∈ items, Writes .value item) (operator : ListOperator) :
    ∃ column, Condition.compile (conditionText name operator items) =
      .ok ⟨conditionText name operator items,
        .comparison ⟨⟨name, column⟩, .list operator (String.ofList (listText items))⟩⟩ := by
  have valid : ∀ leaf ∈ (Expression.comparison (comparisonOf name operator items)).comparisons,
      Valid leaf := by
    intro leaf member
    obtain rfl := List.mem_singleton.mp member
    exact valid_comparison named apart written operator
  obtain ⟨faultless, again, derived, agrees⟩ := derives_normal valid
  rw [normal_text_comparison] at faultless derived
  -- The tree that is read agrees with the comparison but for the column.
  cases again with
  | joined connective left right => cases agrees
  | grouped inner => cases agrees
  | comparison leaf =>
    obtain ⟨⟨found, column⟩, test⟩ := leaf
    obtain ⟨sameField, sameTest⟩ := Comparison.mk.inj (Expression.comparison.inj agrees)
    obtain rfl : found = name := (FieldReference.mk.inj sameField).1
    obtain rfl : test = .list operator (String.ofList (listText items)) := sameTest
    have shallow : 1 ≤ maximumDepth := by decide
    refine ⟨column, (NormalText.compile_iff _ _).mpr ⟨rfl, ?_⟩⟩
    exact (parse_iff_derives _ _).mpr ⟨faultless, derived, shallow⟩

/-- A scalar and a value have the same text exactly if they show the same characters. -/
theorem canonical_eq_iff (scalar : Scalar) (value : Value) :
    scalar.canonical = value.canonical ↔ scalar.chars = value.chars := by
  rw [Scalar.canonical, Value.canonical]
  constructor
  · intro same
    have chars := congrArg String.toList same
    rwa [String.toList_ofList, String.toList_ofList] at chars
  · exact congrArg String.ofList

/-- A condition on a list of scalars compares the text of its field with the text of each of them,
and does not hold if there is no field. -/
structure Tests (name : String) (operator : ListOperator) (scalars : List Scalar)
    (condition : Condition) : Prop where
  missing : ∀ record : Record, record.get? name = none → condition.evaluate record = .ok false
  present : ∀ (record : Record) (value : Value), record.get? name = some value →
    condition.evaluate record =
      .ok (operator.holds (decide (∃ scalar ∈ scalars, scalar.canonical = value.canonical)))

/-- A comparison with a list that is decoded tests for its items. -/
theorem tests_comparison {source literal : String} {column : Nat} {operator : ListOperator}
    {scalars : List Scalar} (decoded : Scalar.readList literal = .ok scalars) :
    Tests name operator scalars
      ⟨source, .comparison ⟨⟨name, column⟩, .list operator literal⟩⟩ := by
  constructor
  · intro record missing
    rw [Condition.evaluate, Meaning.evaluate_comparison]
    simp only [Comparison.evaluate, missing]
  · intro record value present
    have found : (scalars.any fun item => decide (item.chars = value.chars)) =
        decide (∃ scalar ∈ scalars, scalar.canonical = value.canonical) := by
      rw [Bool.eq_iff_iff, List.any_eq_true, decide_eq_true_iff]
      simp only [decide_eq_true_iff, canonical_eq_iff]
    rw [Condition.evaluate, Meaning.evaluate_comparison]
    simp only [Comparison.evaluate, present, decoded, found]

end Conditions

section Records

variable {name : String} {text : List Char} {scalar : Scalar}

/-- No control character goes on with a word. -/
theorem controls_foreign : ∀ code < 32, continuesWord (Char.ofNat code) = false := by
  decide +kernel

/-- A name can stand between quotes, and means itself. -/
theorem means_name {chars : List Char}
    (continues : ∀ char ∈ chars, continuesWord char = true) : Means chars chars := by
  induction chars with
  | nil => exact .finished
  | cons char chars inductionHypothesis =>
    obtain ⟨first, later⟩ := List.forall_mem_cons.mp continues
    have visible : ¬ char < ' ' := by
      intro below
      have control := controls_foreign char.toNat (UInt32.lt_iff_toNat_lt.mp below)
      rw [Char.ofNat_toNat, first] at control
      cases control
    exact .plain char chars chars (ne_of_class first (by decide +kernel))
      (ne_of_class first (by decide +kernel)) visible (inductionHypothesis later)

/-- A text is read as this value of a record, however deep it stands and whatever is behind it. -/
def IsReadAs (text : List Char) (value : Value) : Prop :=
  ∀ allowance behind, Clear continuesNumber behind →
    readVariant "Value" Value.ofJson? allowance (text ++ behind) = .ok (value, behind)

/-- A scalar is the same value in a record. -/
theorem read_as_denoted (denotes : Denotes text scalar) : IsReadAs text (valueOf scalar) := by
  intro allowance behind ends
  obtain ⟨value, spelled, isScalar⟩ := spelled_within denotes allowance
  have reads := reads_variant "Value" Value.ofJson? allowance
  exact reads.read blank_nil ⟨value, spelled, isScalar.field⟩ ends

/-- A record with one field is read as such. -/
theorem read_record (named : IsName name.toList) (denotes : Denotes text scalar) :
    Record.read (recordText name text) = .ok (Table.empty.insert name (valueOf scalar)) := by
  obtain ⟨value, spelled, isScalar⟩ := spelled_within denotes (maximumNesting - 1)
  have field : FlatObjects.SpellsField (maximumNesting - 1) text (valueOf scalar) :=
    ⟨value, spelled, isScalar.field⟩
  have member := Member.member [] name.toList name.toList [] text _ blank_nil
    (means_name named.continues) blank_nil
    (by simpa using Spaced.spaced [] text [] _ blank_nil field blank_nil)
  rw [String.ofList_toList] at member
  have enclosed : Enclosed .object (Member (FlatObjects.SpellsField (maximumNesting - 1)))
      (recordText name text).toList [(name, valueOf scalar)] := by
    rw [recordText, String.toList_ofList]
    simpa [Container.opening, Container.closing] using Enclosed.parts _ _ (.last _ _ member)
  refine (FlatObjects.read_iff _ _).mpr ?_
  simpa using Spaced.spaced [] _ [] _ blank_nil ⟨_, enclosed, rfl⟩ blank_nil

end Records

/-- Texts of scalars denote as many scalars, in their order. -/
theorem exists_all_denoted {texts : List (List Char)}
    (scalarTexts : ∀ text ∈ texts, IsScalarText text) :
    ∃ scalars, List.Forall₂ Denotes texts scalars :=
  exists_all_related fun text member => scalar_text_iff.mp (scalarTexts text member)

/-- The conditions whether a field is among some scalars and whether it is not are compiled, and
their list is decoded to what the texts of the scalars denote, in their order. On a record without
the field neither holds. On any other record the first holds exactly if the text of the field is the
text of one of the scalars, and the second exactly if not. So the first holds, and the second does
not, whenever the field is what any of these scalars is read as where it is written in a record. -/
theorem membership_exact {texts : List (List Char)} {name : String}
    (scalarTexts : ∀ text ∈ texts, IsScalarText text) (named : IsName name.toList)
    (apart : spells name.toList "not" = false) :
    ∃ scalars, List.Forall₂ Denotes texts scalars ∧
      Scalar.readList (String.ofList (listText texts)) = .ok scalars ∧
    ∃ condition opposite, Condition.compile (conditionText name .among texts) = .ok condition ∧
      Condition.compile (conditionText name .notAmong texts) = .ok opposite ∧
      (∀ record, record.get? name = none →
        condition.evaluate record = .ok false ∧ opposite.evaluate record = .ok false) ∧
      (∀ record value, record.get? name = some value →
        ((∃ scalar ∈ scalars, scalar.canonical = value.canonical) →
          condition.evaluate record = .ok true ∧ opposite.evaluate record = .ok false) ∧
        ((¬ ∃ scalar ∈ scalars, scalar.canonical = value.canonical) →
          condition.evaluate record = .ok false ∧ opposite.evaluate record = .ok true)) ∧
      ∀ text ∈ texts, ∃ value, IsReadAs text value ∧
        Record.read (recordText name text) = .ok (Table.empty.insert name value) ∧
        ∀ record, record.get? name = some value →
          condition.evaluate record = .ok true ∧ opposite.evaluate record = .ok false := by
  obtain ⟨scalars, denoted⟩ := exists_all_denoted scalarTexts
  have decoded := decode_list denoted
  have written : ∀ text ∈ texts, Writes .value text := by
    intro text member
    obtain ⟨scalar, -, denotes⟩ := exists_related denoted member
    exact written_of_denotes denotes
  have compiled (operator : ListOperator) : ∃ condition,
      Condition.compile (conditionText name operator texts) = .ok condition ∧
        Tests name operator scalars condition := by
    obtain ⟨column, compiled⟩ := compile_membership named apart written operator
    exact ⟨_, compiled, tests_comparison decoded⟩
  obtain ⟨condition, compiles, tests⟩ := compiled .among
  obtain ⟨opposite, opposes, denies⟩ := compiled .notAmong
  have found : ∀ record value, record.get? name = some value →
      (∃ scalar ∈ scalars, scalar.canonical = value.canonical) →
        condition.evaluate record = .ok true ∧ opposite.evaluate record = .ok false := by
    intro record value present among
    rw [tests.present record value present, denies.present record value present,
      decide_eq_true among]
    exact ⟨rfl, rfl⟩
  refine ⟨scalars, denoted, decoded, condition, opposite, compiles, opposes, ?_, ?_, ?_⟩
  · intro record missing
    exact ⟨tests.missing record missing, denies.missing record missing⟩
  · intro record value present
    refine ⟨found record value present, fun absent => ?_⟩
    rw [tests.present record value present, denies.present record value present,
      decide_eq_false absent]
    exact ⟨rfl, rfl⟩
  · intro text member
    obtain ⟨scalar, among, denotes⟩ := exists_related denoted member
    refine ⟨valueOf scalar, read_as_denoted denotes,
      read_record named denotes, fun record present => ?_⟩
    exact found record _ present
      ⟨scalar, among, (canonical_eq_iff _ _).mpr (chars_value scalar).symm⟩

/-- A string with a bracket, an escaped quote and a character of two code units, a number with an
idle zero behind its point, and a word. -/
def mixedTexts : List (List Char) :=
  ["\"]\\\"\\ud83d\\ude00\"".toList, "2.50".toList, "true".toList]

/-- Among these scalars are the string as it is meant and the text of the number, which has no idle
zero. -/
theorem mixed_membership :
    ∃ condition opposite, Condition.compile (conditionText "x" .among mixedTexts) = .ok condition ∧
      Condition.compile (conditionText "x" .notAmong mixedTexts) = .ok opposite ∧
      condition.evaluate (.ofList [("x", .text "]\"😀")]) = .ok true ∧
      condition.evaluate (.ofList [("x", .text "2.5")]) = .ok true ∧
      opposite.evaluate (.ofList [("x", .boolean false)]) = .ok true ∧
      opposite.evaluate (.ofList [("y", .boolean false)]) = .ok false := by
  obtain ⟨numeral, chars, value, plain, short⟩ : ∃ numeral : Number.Numeral,
      numeral.chars = "2.50".toList ∧ numeral.value = Number.Decimal.toBinary64 false ⟨250, -2⟩ ∧
        Plain numeral ∧ Short numeral :=
    ⟨⟨[], ['2'], ['5', '0'], by decide, by decide, by simp, by simp⟩, by decide, rfl,
      ⟨by decide, by simp⟩, .inr (by decide)⟩
  obtain ⟨number, read, rounded⟩ := read_short plain short (clear_nil _)
  rw [chars, List.append_nil] at read
  rw [value] at rounded
  have denoted : List.Forall₂ Denotes mixedTexts
      [.text "]\"😀", .number number.toBinary64, .boolean true] := by
    refine .cons (.string "]\\\"\\ud83d\\ude00".toList "]\"😀".toList ?_)
      (.cons ?_ (.cons .true .nil))
    · refine .plain ']' _ _ (by decide) (by decide) (by decide) (.escape '"' '"' _ _ rfl ?_)
      exact .pair "d83d".toList "de00".toList [] [] 0xd83d 0xde00
        ⟨⟨rfl, by decide⟩, by decide, by decide⟩ ⟨⟨rfl, by decide⟩, by decide, by decide⟩
        .finished
    · exact .number _ number (.number [] ['2'] ['.', '5', '0'] [] (.inl rfl)
        (.digits '2' [] rfl (by decide) (by simp)) (.digits ['5', '0'] ⟨by simp, by simp⟩) .none)
        read
  have scalarTexts : ∀ text ∈ mixedTexts, IsScalarText text := by
    intro text member
    obtain ⟨scalar, -, denotes⟩ := exists_related denoted member
    exact scalar_text_iff.mpr ⟨scalar, denotes⟩
  obtain ⟨scalars, -, decoded, condition, opposite, compiles, opposes, missing, present, -⟩ :=
    membership_exact scalarTexts (by decide +kernel : IsName "x".toList) (by decide +kernel)
  obtain rfl := Except.ok.inj (decoded.symm.trans (decode_list denoted))
  rw [rounded] at present
  have bound (value : Value) : (Table.ofList [("x", value)]).get? "x" = some value :=
    Table.get?_insert ..
  refine ⟨condition, opposite, compiles, opposes, ?_, ?_, ?_, ?_⟩
  · exact ((present _ _ (bound _)).1 (by decide +kernel)).1
  · exact ((present _ _ (bound _)).1 (by decide +kernel)).1
  · exact ((present _ _ (bound _)).2 (by decide +kernel)).2
  · exact (missing _ (by decide +kernel)).2

/-- A string of the grammar, and one with a code unit that belongs to no character. -/
def loneTexts : List (List Char) := ["\"a\"".toList, "\"\\ud800\"".toList]

/-- A list with a lone surrogate is not decoded, so its condition fails where the field is written as
another of its strings, though all of them are strings of the grammar. -/
theorem lone_surrogate_refused :
    (∀ text ∈ loneTexts, ∃ content, Content content ∧ text = '"' :: (content ++ ['"'])) ∧
      IsName "x".toList ∧ spells "x".toList "not" = false ∧
      Record.read (recordText "x" "\"a\"".toList) = .ok (.ofList [("x", .text "a")]) ∧
      ∃ condition, Condition.compile (conditionText "x" .among loneTexts) = .ok condition ∧
        condition.evaluate (.ofList [("x", .text "a")]) =
          .error (.literalParse ⟨"x", 0⟩
            (.list ⟨.grammar .unexpectedEndOfEscape, some ⟨1, 13⟩⟩)) := by
  have strings : ∀ text ∈ loneTexts, ∃ content, Content content ∧
      text = '"' :: (content ++ ['"']) := by
    refine List.forall_mem_cons.mpr ⟨⟨['a'], ?_, rfl⟩, List.forall_mem_cons.mpr
      ⟨⟨"\\ud800".toList, ?_, rfl⟩, by simp⟩⟩
    · exact .plain 'a' [] (by decide) (by decide) (by decide) .finished
    · exact .unit "d800".toList [] rfl (hex_of_values (by decide : hexValue? _ = some 0xd800))
        .finished
  refine ⟨strings, by decide +kernel, by decide +kernel, by decide +kernel,
    ⟨conditionText "x" .among loneTexts,
      .comparison ⟨⟨"x", 0⟩, .list .among (String.ofList (listText loneTexts))⟩⟩,
    by decide +kernel, by decide +kernel⟩

end RecordRules.Membership
