import RecordRules.Condition.Printing
import RecordRules.Proofs.Condition.Grammar
import RecordRules.Proofs.Condition.Lexing
import RecordRules.Proofs.Number.ReadBack

/-!
# What the normal text of a condition shows

The normal text of a condition has the words of its tree, one by one, if each of them can be
written at all. One word is an exception: the text of an infinite number is no numeral, and it
reads as a field.

Words are followed through the text from the left. Each is written with a blank or a closing
parenthesis behind it, or with the end of the text, so each is cut off where it was written.
Nothing is asked of the shape of the tree.
-/

namespace RecordRules.Writing

open Number Text Lexeme Characters Spelling Cutting Rendering Grammar

/-- The operator of a test as it is written. -/
def operatorChars : Test → List Char
  | .numeric operator _ => operator.spelling.toList
  | .text operator _ => operator.spelling.toList
  | .list operator _ => operator.spelling.toList

/-- The literal of a test as it is written. -/
def literalChars : Test → List Char
  | .numeric _ value => value.text
  | .text _ content => '"' :: (content.toList ++ ['"'])
  | .list _ literal => literal.toList

/-- A test is written as its operator and its literal. -/
theorem chars_test (test : Test) :
    test.chars = operatorChars test ++ ' ' :: literalChars test := by
  cases test with
  | numeric | list => rfl
  | text operator content => simp [Test.chars, operatorChars, literalChars]

/-- Every operator is written as one of its spellings. -/
theorem operator_spelled (test : Test) : Spells (operatorChars test) (operatorOf test) := by
  cases test with
  | numeric operator value => cases operator <;> exact .symbol _ _ rfl
  | text operator content => cases operator <;> exact .symbol _ _ rfl
  | list operator literal =>
    cases operator with
    | among => exact .keyword ['i', 'n'] _ "in" rfl (by decide)
    | notAmong =>
      exact .notIn ['n', 'o', 't'] [' '] ['i', 'n'] (by decide) (by decide)
        (List.all_eq_true.mp (by decide)) (by decide)

/-- Every connective is written as one of its spellings. -/
theorem connective_spelled (connective : Connective) :
    Spells connective.spelling.toList (.connective connective) := by
  cases connective with
  | and => exact .keyword _ _ "and" rfl (by decide)
  | or => exact .keyword _ _ "or" rfl (by decide)

/-- No word is an infinite number. -/
def Finite (words : List Token.Kind) : Prop :=
  ∀ negative, Token.Kind.number (.infinite negative) ∉ words

/-- What the text of a word reads as: the text of an infinite number is that of a field, and every
other word reads as itself. -/
def shown : Token.Kind → Token.Kind
  | .number (.infinite _) => .field "inf"
  | kind => kind

/-- Words that are finite are shown as they are. -/
theorem shown_finite {words : List Token.Kind} (finite : Finite words) :
    words.map shown = words := by
  have same : ∀ kind ∈ words, shown kind = id kind := by
    intro kind member
    unfold shown
    split
    · rename_i negative
      exact absurd member (finite negative)
    · rfl
  rw [List.map_congr_left same, List.map_id]

/-- What can be told of a literal from its having a spelling: a number is a number, though it may be
an infinite one, a text holds no quote, and a list is its own spelling. -/
theorem literal_of_spelled {chars : List Char} {kind : Token.Kind} (spelled : Spells chars kind) :
    match kind with
    | .number value => value ≠ .nan
    | .text content => '"' ∉ content.toList
    | .list literal => Spells literal.toList (.list literal)
    | _ => True := by
  cases spelled with
  | symbol _ _ only =>
    cases kind with
    | number | text | list => cases only
    | _ => trivial
  | keyword _ _ word known =>
    cases kind with
    | number | text | list => cases known
    | _ => trivial
  | notIn | field => trivial
  | number numeral =>
    dsimp only
    unfold Numeral.value Decimal.toBinary64
    cases numeral.decimal.nearest? <;> exact Binary64.noConfusion
  | text content plain =>
    dsimp only
    rw [String.toList_ofList]
    exact plain
  | list rest balanced =>
    dsimp only
    rw [String.toList_ofList]
    exact .list rest balanced

/-- A literal that has a spelling is written as one, unless it is infinite. -/
theorem literal_spelled {chars : List Char} {test : Test}
    (spelled : Spells chars (literalOf test)) (finite : Finite [literalOf test]) :
    Spells (literalChars test) (literalOf test) := by
  cases test with
  | numeric operator value =>
    cases value with
    | nan => exact absurd rfl (literal_of_spelled spelled)
    | infinite negative => exact absurd (List.mem_singleton_self _) (finite negative)
    | finite negative magnitude =>
      obtain ⟨numeral, chars, value⟩ := Binary64.finite_numeral negative magnitude
      have written : Spells numeral.chars (.number numeral.value) := .number numeral
      rw [chars, value] at written
      exact written
  | text operator content =>
    have written := Spells.text content.toList (literal_of_spelled spelled)
    rw [String.ofList_toList] at written
    exact written
  | list operator literal => exact literal_of_spelled spelled

/-- The name of infinity is the name of a field. -/
theorem infinity_name : IsName "inf".toList := by decide +kernel

/-- The text of an infinite number reads as a field, and its sign as no word. -/
theorem infinity_pieces (negative : Bool) {behind : List Char} (ends : Ends behind) :
    (pieces ((Binary64.infinite negative).text ++ behind)).filterMap kind? =
      .field "inf" :: (pieces behind).filterMap kind? := by
  have name : pieces ("inf".toList ++ behind) =
      ⟨"inf".toList, .word (.field "inf")⟩ :: pieces behind := by
    apply pieces_spelled (.field "inf".toList infinity_name) (.inr ends)
    intro name _ denies
    exact absurd denies (by decide)
  cases negative with
  | false =>
    rw [Binary64.text, if_neg Bool.false_ne_true, name]
    rfl
  | true =>
    have sign : Piece.split '-' ("inf".toList ++ behind) =
        (⟨['-'], .fault (.unrecognized "-")⟩, "inf".toList ++ behind) := by
      have plain : isBlank '-' = false ∧ '-' ≠ '"' ∧ '-' ≠ '[' ∧ '-'.isDigit = false ∧
          'i'.isDigit = false ∧ beginsWord '-' = false := by decide +kernel
      have noSymbol : Piece.splitSymbol ('-' :: 'i' :: 'n' :: 'f' :: behind) = none :=
        split_symbol_none _ (by decide)
      have stray : String.singleton '-' = "-" := rfl
      simp [Piece.split, plain, noSymbol, stray]
    have text : (Binary64.infinite true).text = '-' :: "inf".toList := rfl
    rw [text, List.cons_append, pieces, sign, name]
    rfl

/-- In front of a text, some characters show words: these come one by one before the words of the
text, and there is no further error unless one of them is an infinite number. -/
def ShowsBefore (chars : List Char) (words : List Token.Kind) (behind : List Char) : Prop :=
  (pieces (chars ++ behind)).filterMap kind? =
      words.map shown ++ (pieces behind).filterMap kind? ∧
    (Finite words → (pieces (chars ++ behind)).filterMap cause? = (pieces behind).filterMap cause?)

/-- Some characters begin with a word and show words wherever a word may end behind them. -/
def Shows (chars : List Char) (words : List Token.Kind) : Prop :=
  (∃ first tail, chars = first :: tail ∧ isBlank first = false) ∧
    ∀ behind, Ends behind → ShowsBefore chars words behind

/-- A finite list of words is finite in each of its parts. -/
theorem finite_append {words others : List Token.Kind} (finite : Finite (words ++ others)) :
    Finite words ∧ Finite others := by
  constructor
  · intro negative member
    exact finite negative (List.mem_append_left others member)
  · intro negative member
    exact finite negative (List.mem_append_right words member)

/-- A word that is written as one of its spellings shows itself. -/
theorem shows_before {chars behind : List Char} {kind : Token.Kind} (spelled : Spells chars kind)
    (finite : Finite [kind]) (ends : kind = .opening ∨ Ends behind)
    (alone : ∀ name, kind = .field name → spells chars "not" = true → splitIn behind = none) :
    ShowsBefore chars [kind] behind := by
  rw [ShowsBefore, pieces_spelled spelled ends alone, shown_finite finite]
  exact ⟨rfl, fun _ => rfl⟩

/-- A word other than a field shows itself wherever it may end. -/
theorem shows_word {chars : List Char} {kind : Token.Kind} (spelled : Spells chars kind)
    (other : ∀ name, kind ≠ .field name) (finite : Finite [kind]) : Shows chars [kind] := by
  refine ⟨first_spelled spelled, ?_⟩
  intro behind ends
  exact shows_before spelled finite (.inr ends) fun name field => absurd field (other name)

/-- A literal shows itself, or a field if it is infinite. -/
theorem shows_literal {chars : List Char} {test : Test}
    (spelled : Spells chars (literalOf test)) :
    Shows (literalChars test) [literalOf test] := by
  by_cases finite : Finite [literalOf test]
  · refine shows_word (literal_spelled spelled finite) ?_ finite
    intro name
    cases test <;> exact Token.Kind.noConfusion
  · simp only [Finite, List.mem_singleton, not_forall, not_not] at finite
    obtain ⟨negative, infinite⟩ := finite
    cases test with
    | numeric operator value =>
      obtain rfl := Token.Kind.number.inj infinite
      constructor
      · cases negative <;> exact ⟨_, _, rfl, by decide⟩
      · intro behind ends
        refine ⟨infinity_pieces negative ends, ?_⟩
        intro finite
        exact absurd (List.mem_singleton_self _) (finite negative)
    | text | list => cases infinite

/-- What shows words in front of a text shows its words in front of what the text shows. -/
theorem shows_both {first second behind : List Char} {words others : List Token.Kind}
    (left : ShowsBefore first words (second ++ behind)) (right : ShowsBefore second others behind) :
    ShowsBefore (first ++ second) (words ++ others) behind := by
  rw [ShowsBefore, List.append_assoc]
  constructor
  · rw [left.1, right.1, List.map_append, List.append_assoc]
  · intro finite
    obtain ⟨before, after⟩ := finite_append finite
    rw [left.2 before, right.2 after]

/-- A single space is a run of blanks. -/
theorem space_blank : ∀ char ∈ [' '], isBlank char = true :=
  List.all_eq_true.mp (by decide)

/-- A blank in front of a word shows nothing. -/
theorem shows_blank {chars behind : List Char} {words : List Token.Kind}
    (visible : ∃ first tail, chars = first :: tail ∧ isBlank first = false)
    (shows : ShowsBefore chars words behind) : ShowsBefore (' ' :: chars) words behind := by
  obtain ⟨first, tail, rfl, shownFirst⟩ := visible
  have clear : Clear isBlank (first :: tail ++ behind) := clear_cons shownFirst
  obtain ⟨gapKinds, gapCauses⟩ := pieces_gap space_blank clear
  have whole : ' ' :: (first :: tail) ++ behind = [' '] ++ (first :: tail ++ behind) := rfl
  rw [ShowsBefore, whole, gapKinds, gapCauses]
  exact shows

/-- What is written on both sides of a blank shows the words of both. -/
theorem shows_spaced {first second : List Char} {words others : List Token.Kind}
    (visible : ∃ head tail, first = head :: tail ∧ isBlank head = false)
    (left : ∀ behind, ShowsBefore first words (' ' :: second ++ behind))
    (right : Shows second others) : Shows (first ++ ' ' :: second) (words ++ others) := by
  obtain ⟨head, tail, rfl, shownHead⟩ := visible
  refine ⟨⟨head, tail ++ ' ' :: second, rfl, shownHead⟩, ?_⟩
  intro behind ends
  exact shows_both (left behind) (shows_blank right.1 (right.2 behind ends))

/-- Behind a word there may be a blank. -/
theorem ends_spaced (chars behind : List Char) : Ends (' ' :: chars ++ behind) :=
  ends_blank (by decide)

/-- What shows its words wherever a word may end does so in front of a blank. -/
theorem shows_append {first second : List Char} {words others : List Token.Kind}
    (left : Shows first words) (right : Shows second others) :
    Shows (first ++ ' ' :: second) (words ++ others) :=
  shows_spaced left.1 (fun behind => left.2 _ (ends_spaced second behind)) right

/-- Words that can be written in this order: each has a spelling, and no two in a row would be read
as one. -/
structure Writable (words : List Token.Kind) : Prop where
  spelled : ∀ kind ∈ words, ∃ chars, Spells chars kind
  apart : words.IsChain fun kind next => ¬ Merges kind next

/-- The parts of words that can be written can be written. -/
theorem writable_append {words others : List Token.Kind} (writable : Writable (words ++ others)) :
    Writable words ∧ Writable others := by
  obtain ⟨spelled, apart⟩ := writable
  exact ⟨⟨fun kind member => spelled kind (List.mem_append_left _ member), apart.left_of_append⟩,
    ⟨fun kind member => spelled kind (List.mem_append_right _ member), apart.right_of_append⟩⟩

/-- Behind the first of words that can be written the others can be. -/
theorem writable_tail {kind : Token.Kind} {words : List Token.Kind}
    (writable : Writable (kind :: words)) : Writable words :=
  ⟨fun kind member => writable.spelled kind (List.mem_cons_of_mem _ member), writable.apart.tail⟩

/-- Whether a word is a field. -/
def isField : Token.Kind → Bool
  | .field _ => true
  | _ => false

/-- Whether a word is a literal. -/
def isLiteral : Token.Kind → Bool
  | .number _ => true
  | .text _ => true
  | .list _ => true
  | _ => false

/-- An operator is neither a field nor a literal. -/
theorem operator_class (test : Test) :
    isField (operatorOf test) = false ∧ isLiteral (operatorOf test) = false := by
  cases test with
  | numeric operator value => cases operator <;> exact ⟨rfl, rfl⟩
  | text operator content => cases operator <;> exact ⟨rfl, rfl⟩
  | list operator literal => cases operator <;> exact ⟨rfl, rfl⟩

/-- A literal is one, and no field. -/
theorem literal_class (test : Test) :
    isField (literalOf test) = false ∧ isLiteral (literalOf test) = true := by
  cases test <;> exact ⟨rfl, rfl⟩

/-- Whatever an operator is compared with, it is no field and no infinite number. -/
theorem operator_foreign (test : Test) :
    (∀ name, operatorOf test ≠ .field name) ∧ ∀ value, operatorOf test ≠ .number value := by
  obtain ⟨noField, noLiteral⟩ := operator_class test
  constructor
  · intro name same
    rw [same] at noField
    cases noField
  · intro value same
    rw [same] at noLiteral
    cases noLiteral

/-- A comparison shows its three words. A field named `not` stays one, because its operator is not
`in`. -/
theorem shows_comparison {leaf : Comparison} (writable : Writable (kinds (.comparison leaf))) :
    Shows leaf.chars (kinds (.comparison leaf)) := by
  obtain ⟨chars, named⟩ := writable.spelled (.field leaf.field.name) (by simp [kinds])
  obtain ⟨_, valued⟩ := writable.spelled (literalOf leaf.test) (by simp [kinds])
  obtain rfl : leaf.field.name.toList = chars := name_spelled named
  obtain ⟨noField, noNumber⟩ := operator_foreign leaf.test
  have finite : Finite [operatorOf leaf.test] := by
    intro negative member
    exact noNumber _ (List.mem_singleton.mp member).symm
  have operator := operator_spelled leaf.test
  have test : Shows (operatorChars leaf.test ++ ' ' :: literalChars leaf.test)
      ([operatorOf leaf.test] ++ [literalOf leaf.test]) :=
    shows_append (shows_word operator noField finite) (shows_literal valued)
  have field : ∀ behind, ShowsBefore leaf.field.name.toList [.field leaf.field.name]
      (' ' :: (operatorChars leaf.test ++ ' ' :: literalChars leaf.test) ++ behind) := by
    intro behind
    apply shows_before named (by simp [Finite]) (.inr (ends_spaced _ behind))
    intro name _ denies
    have other : operatorOf leaf.test ≠ .among := by
      intro among
      exact (List.isChain_cons_cons.mp writable.apart).1 ⟨leaf.field.name, rfl, denies, among⟩
    have none := split_in_none space_blank operator other
      (.inr (ends_spaced (literalChars leaf.test) behind))
    rw [← List.append_assoc (operatorChars leaf.test)] at none
    exact none
  rw [Comparison.chars, chars_test]
  exact shows_spaced (first_spelled named) field test

/-- A condition between parentheses shows its words between theirs. -/
theorem shows_grouped {chars : List Char} {words : List Token.Kind} (inner : Shows chars words) :
    Shows ('(' :: chars ++ [')']) (.opening :: (words ++ [.closing])) := by
  have opens : Spells ['('] .opening := .symbol _ _ rfl
  have closes : Spells [')'] .closing := .symbol _ _ rfl
  refine ⟨⟨'(', chars ++ [')'], rfl, by decide⟩, ?_⟩
  intro behind ends
  have last : ShowsBefore [')'] [.closing] behind :=
    shows_before closes (by simp [Finite]) (.inr ends) (by simp)
  have inside : ShowsBefore (chars ++ [')']) (words ++ [.closing]) behind :=
    shows_both (inner.2 _ (ends_closing behind)) last
  exact shows_both (shows_before opens (by simp [Finite]) (.inl rfl) (by simp)) inside

/-- A condition whose words can be written shows them.

The induction is on the tree. The text of an operand ends where a blank or a closing parenthesis
stands behind it, or with the whole text, so the words behind it never matter. -/
theorem shows_tree (tree : Expression) (writable : Writable (kinds tree)) :
    Shows tree.chars (kinds tree) := by
  induction tree with
  | comparison leaf => exact shows_comparison writable
  | joined connective left right leftHypothesis rightHypothesis =>
    obtain ⟨before, after⟩ := writable_append writable
    have onLeft : Shows left.chars (kinds left) := leftHypothesis before
    have onRight : Shows right.chars (kinds right) := rightHypothesis (writable_tail after)
    have joint : Shows connective.spelling.toList [.connective connective] :=
      shows_word (connective_spelled connective) (by simp) (by simp [Finite])
    have behind : Shows (connective.spelling.toList ++ ' ' :: right.chars)
        ([.connective connective] ++ kinds right) := shows_append joint onRight
    have whole := shows_append onLeft behind
    rw [← List.cons_append, ← List.append_assoc] at whole
    exact whole
  | grouped inner inductionHypothesis =>
    obtain ⟨inside, _⟩ := writable_append (writable_tail writable)
    exact shows_grouped (inductionHypothesis inside)

/-- The words of a text without an error can be written. -/
theorem writable_scan {text : List Char} (faultless : (Scan.ofText text).faults = []) :
    Writable ((Scan.ofText text).tokens.map Token.kind) :=
  ⟨Lexing.spelled_scan text, Lexing.apart_scan text faultless⟩

/-- The normal text of a condition is scanned as its words, as they are shown. -/
theorem scan_normal {tree : Expression} (writable : Writable (kinds tree)) :
    (Scan.ofText tree.normalText.toList).tokens.map Token.kind = (kinds tree).map shown ∧
      (Finite (kinds tree) → (Scan.ofText tree.normalText.toList).faults = []) := by
  obtain ⟨words, causes⟩ := (shows_tree tree writable).2 [] ends_nil
  obtain ⟨scanned, faultless⟩ := scan_text tree.chars
  have nothing : pieces [] = [] := by rw [pieces]
  rw [List.append_nil, nothing, List.filterMap_nil] at words causes
  rw [Expression.normalText, String.toList_ofList, scanned, words]
  exact ⟨List.append_nil _, fun finite => faultless.mpr (causes finite)⟩

end RecordRules.Writing
