import Mathlib.Data.List.Chain
import RecordRules.Proofs.Condition.Cutting

/-!
# Reading a written text back

A list of kinds of words is written by choosing a spelling for each, blanks between each two and
blanks at both ends. Scanning the written text gives the kinds back in their order, without an
error, whatever was chosen. Two neighbours would not come back as they were: a field named `not`
and an `in` behind it are one word.
-/

namespace RecordRules.Rendering

open Number Text Lexeme Characters Spelling Cutting

/-- The kind of a piece that is a word. -/
def kind? (piece : Piece) : Option Token.Kind :=
  match piece.content with
  | .word kind => some kind
  | _ => none

/-- The cause of a piece that is no word. -/
def cause? (piece : Piece) : Option SyntaxError.Cause :=
  match piece.content with
  | .fault cause => some cause
  | _ => none

/-- The words of pieces are the pieces that are words, and their errors are those that are none. -/
theorem scan_pieces (place : Place) (pieces : List Piece) :
    (Scan.ofPieces place pieces).tokens.map Token.kind = pieces.filterMap kind? ∧
      (Scan.ofPieces place pieces).faults.map SyntaxError.cause = pieces.filterMap cause? := by
  induction pieces generalizing place with
  | nil => exact ⟨rfl, rfl⟩
  | cons piece others inductionHypothesis =>
    obtain ⟨kinds, causes⟩ := inductionHypothesis (place.after piece.chars)
    obtain ⟨chars, content⟩ := piece
    rw [List.filterMap_cons, List.filterMap_cons, ← kinds, ← causes]
    cases content <;> exact ⟨rfl, rfl⟩

/-- The words of a text by their kinds, and whether it has errors, read off its pieces. -/
theorem scan_text (text : List Char) :
    (Scan.ofText text).tokens.map Token.kind = (pieces text).filterMap kind? ∧
      ((Scan.ofText text).faults = [] ↔ (pieces text).filterMap cause? = []) := by
  obtain ⟨kinds, causes⟩ := scan_pieces .start (pieces text)
  refine ⟨kinds, ?_⟩
  rw [← causes, List.map_eq_nil_iff]
  rfl

/-- A text that does not begin with a letter does not begin with an `in`. -/
theorem not_in_of_foreign {first : Char} (rest : List Char)
    (foreign : isAlphabetic first = false) :
    spells ((first :: rest).takeWhile continuesWord) "in" = false := by
  cases contains : spells ((first :: rest).takeWhile continuesWord) "in" with
  | false => rfl
  | true =>
    have letters := letters_of_spells (by simp [reservedWords]) contains
    rw [List.takeWhile_cons] at contains letters
    split at contains
    · rename_i continues
      rw [if_pos continues] at letters
      simp [letters first (by simp)] at foreign
    · cases contains

/-- A word that is no `in` does not read as one where it ends. -/
theorem not_in_spelled {chars behind : List Char} {kind : Token.Kind}
    (spelled : Spells chars kind) (other : kind ≠ .among) (ends : kind = .opening ∨ Ends behind) :
    spells ((chars ++ behind).takeWhile continuesWord) "in" = false := by
  have ended : kind ≠ .opening → Ends behind := ends.resolve_left
  cases spelled with
  | symbol _ _ only =>
    obtain ⟨first, tail, rfl, _, foreign⟩ := first_symbol only
    exact not_in_of_foreign _ foreign
  | keyword _ _ word known spelled =>
    have different : word ≠ "in" := by
      rintro rfl
      cases kind with
      | connective joint => cases joint <;> simp [keyword?] at known
      | among => exact other rfl
      | _ => simp [keyword?] at known
    have notOpening : kind ≠ .opening := by
      rintro rfl
      cases known
    obtain ⟨_, continues⟩ := word_of_letters (letters_of_spells (reserved_keyword known) spelled)
    rw [(take_run continues (clear_continues (ended notOpening))).1]
    exact spells_unique spelled different
  | notIn first blanks last denies some blank contains =>
    obtain ⟨_, continues⟩ :=
      word_of_letters (letters_of_spells (by simp [reservedWords]) denies)
    rw [List.append_assoc, List.append_assoc,
      (take_run continues (clear_blanks some blank (last ++ behind))).1]
    exact spells_unique denies (by decide)
  | field _ name =>
    rw [(take_run name.continues (clear_continues (ended (by simp)))).1]
    exact name.free.2.2.1
  | number numeral =>
    obtain ⟨first, tail, starts, _, foreign⟩ := first_numeral numeral
    rw [starts]
    exact not_in_of_foreign _ foreign
  | text content plain => exact not_in_of_foreign _ (by decide +kernel)
  | list rest balanced => exact not_in_of_foreign _ (by decide +kernel)

/-- Behind a `not` that stands before another word than `in`, no `in` is found. -/
theorem split_in_none {blanks chars behind : List Char} {kind : Token.Kind}
    (blank : ∀ char ∈ blanks, isBlank char = true) (spelled : Spells chars kind)
    (other : kind ≠ .among) (ends : kind = .opening ∨ Ends behind) :
    splitIn (blanks ++ (chars ++ behind)) = none := by
  have none := not_in_spelled spelled other ends
  obtain ⟨first, tail, rfl, shown⟩ := first_spelled spelled
  have visible : Clear isBlank (first :: tail ++ behind) := clear_cons shown
  obtain ⟨taken, dropped⟩ := take_run blank visible
  simp only [splitIn, taken, dropped, none]
  simp

/-- Behind a `not` at the end of a text no `in` is found. -/
theorem split_in_blanks {blanks : List Char} (blank : ∀ char ∈ blanks, isBlank char = true) :
    splitIn blanks = none := by
  obtain ⟨taken, dropped⟩ := take_run blank (clear_nil isBlank)
  rw [List.append_nil] at taken dropped
  have none : spells [] "in" = false := by decide
  simp [splitIn, taken, dropped, none]

/-- A word as it is written, with the blanks behind it. -/
structure Written where
  kind : Token.Kind
  chars : List Char
  gap : List Char

/-- Written words in a row. -/
def written (words : List Written) : List Char :=
  words.flatMap fun word => word.chars ++ word.gap

/-- Two words in a row that are read as one: a field named `not` and an `in`. -/
def Merges (kind next : Token.Kind) : Prop :=
  ∃ name, kind = .field name ∧ spells name.toList "not" = true ∧ next = .among

/-- Blanks behind a word are a piece without a kind and without an error. -/
theorem pieces_gap {gap behind : List Char} (blank : ∀ char ∈ gap, isBlank char = true)
    (clear : Clear isBlank behind) :
    (pieces (gap ++ behind)).filterMap kind? = (pieces behind).filterMap kind? ∧
      (pieces (gap ++ behind)).filterMap cause? = (pieces behind).filterMap cause? := by
  cases gap with
  | nil => exact ⟨rfl, rfl⟩
  | cons char rest =>
    rw [pieces_blanks (by simp) blank clear]
    exact ⟨rfl, rfl⟩

/-- No written word begins with a blank, so blanks before it end at it. -/
theorem clear_written (words : List Written)
    (spelled : ∀ word ∈ words, Spells word.chars word.kind) : Clear isBlank (written words) := by
  cases words with
  | nil => exact clear_nil _
  | cons word rest =>
    obtain ⟨first, tail, starts, shown⟩ := first_spelled (spelled word (by simp))
    rw [written, List.flatMap_cons, starts]
    exact clear_cons shown

/-- What is written behind a word lets it end: its blanks, or nothing at all. -/
theorem ends_written {word : Written} {rest : List Written}
    (blank : ∀ char ∈ word.gap, isBlank char = true)
    (separated : (word :: rest).IsChain fun word _ => word.gap ≠ []) :
    Ends (word.gap ++ written rest) := by
  cases gap : word.gap with
  | cons char blanks => exact ends_blank (blank char (by simp [gap]))
  | nil =>
    cases rest with
    | nil => exact ends_nil
    | cons next others => exact absurd gap (List.isChain_cons_cons.mp separated).1

/-- A field named `not` stays one, because what is written behind it begins with no `in`. -/
theorem alone_written {word : Written} {rest : List Written}
    (blank : ∀ char ∈ word.gap, isBlank char = true)
    (spelled : ∀ word ∈ rest, Spells word.chars word.kind)
    (blanks : ∀ word ∈ rest, ∀ char ∈ word.gap, isBlank char = true)
    (separated : (word :: rest).IsChain fun word _ => word.gap ≠ [])
    (apart : (word :: rest).IsChain fun word next => ¬ Merges word.kind next.kind)
    {name : String} (field : word.kind = .field name) (denies : spells name.toList "not" = true) :
    splitIn (word.gap ++ written rest) = none := by
  cases rest with
  | nil =>
    rw [written, List.flatMap_nil, List.append_nil]
    exact split_in_blanks blank
  | cons next others =>
    have other : next.kind ≠ .among := by
      intro among
      exact (List.isChain_cons_cons.mp apart).1 ⟨name, field, denies, among⟩
    have ends : Ends (next.gap ++ written others) :=
      ends_written (blanks next (by simp)) (List.isChain_cons_cons.mp separated).2
    rw [written, List.flatMap_cons, List.append_assoc]
    exact split_in_none blank (spelled next (by simp)) other (.inr ends)

/-- The pieces of written words are the words and nothing else that has a kind or an error. -/
theorem pieces_written (words : List Written)
    (spelled : ∀ word ∈ words, Spells word.chars word.kind)
    (blank : ∀ word ∈ words, ∀ char ∈ word.gap, isBlank char = true)
    (separated : words.IsChain fun word _ => word.gap ≠ [])
    (apart : words.IsChain fun word next => ¬ Merges word.kind next.kind) :
    (pieces (written words)).filterMap kind? = words.map Written.kind ∧
      (pieces (written words)).filterMap cause? = [] := by
  induction words with
  | nil =>
    rw [written, List.flatMap_nil, pieces]
    exact ⟨rfl, rfl⟩
  | cons word rest inductionHypothesis =>
    have restSpelled : ∀ word ∈ rest, Spells word.chars word.kind :=
      fun word member => spelled word (List.mem_cons_of_mem _ member)
    have restBlank : ∀ word ∈ rest, ∀ char ∈ word.gap, isBlank char = true :=
      fun word member => blank word (List.mem_cons_of_mem _ member)
    have wordBlank := blank word (by simp)
    obtain ⟨kinds, causes⟩ :=
      inductionHypothesis restSpelled restBlank separated.tail apart.tail
    have alone : ∀ name, word.kind = .field name → spells word.chars "not" = true →
        splitIn (word.gap ++ written rest) = none := by
      intro name field denies
      have named : Spells word.chars (.field name) := field ▸ spelled word (by simp)
      rw [← name_spelled named] at denies
      exact alone_written wordBlank restSpelled restBlank separated apart field denies
    have cut := pieces_spelled (spelled word (by simp)) (.inr (ends_written wordBlank separated))
      alone
    obtain ⟨kindsBehind, causesBehind⟩ := pieces_gap wordBlank (clear_written rest restSpelled)
    have whole : written (word :: rest) = word.chars ++ (word.gap ++ written rest) := by
      rw [written, List.flatMap_cons, List.append_assoc]
      rfl
    rw [whole, cut, List.filterMap_cons, List.filterMap_cons, kindsBehind, causesBehind, kinds,
      causes]
    exact ⟨rfl, rfl⟩

/-- Written words are read back: whatever the spelling of each word, the blanks between each two
and the blanks at both ends, the scan has their kinds in order, no error, and its end behind the
last character.

Each word ends where its blanks begin, or with the text. So it is the first piece of the text from
there on, and what is behind it is again written words. -/
theorem scan_written (lead : List Char) (words : List Written)
    (leadBlank : ∀ char ∈ lead, isBlank char = true)
    (spelled : ∀ word ∈ words, Spells word.chars word.kind)
    (blank : ∀ word ∈ words, ∀ char ∈ word.gap, isBlank char = true)
    (separated : words.IsChain fun word _ => word.gap ≠ [])
    (apart : words.IsChain fun word next => ¬ Merges word.kind next.kind) :
    (Scan.ofText (lead ++ written words)).tokens.map Token.kind = words.map Written.kind ∧
      (Scan.ofText (lead ++ written words)).faults = [] ∧
      (Scan.ofText (lead ++ written words)).finish =
        Place.start.after (lead ++ written words) := by
  obtain ⟨kinds, faultless⟩ := scan_text (lead ++ written words)
  obtain ⟨leadKinds, leadCauses⟩ := pieces_gap leadBlank (clear_written words spelled)
  obtain ⟨wordKinds, wordCauses⟩ := pieces_written words spelled blank separated apart
  refine ⟨?_, ?_, ?_⟩
  · rw [kinds, leadKinds, wordKinds]
  · rw [faultless, leadCauses, wordCauses]
  · rw [Scan.ofText, Scan.finish_ofPieces, flatMap_chars_pieces]

/-- The numeral `-0.50`. -/
def halfBelow : Numeral :=
  ⟨['-'], ['0'], ['5', '0'], by decide, by decide, List.all_eq_true.mp (by decide),
    List.all_eq_true.mp (by decide)⟩

/-- A field named `nOt`, membership denied in two words over an ideographic blank, a list with a
bracket in a string, and a number behind a connective in mixed letter case. -/
def mixedWords : List Written :=
  [⟨.field (String.ofList ['n', 'O', 't']), ['n', 'O', 't'], ['\t']⟩,
   ⟨.notAmong, ['N', 'o', 't'] ++ ([' ', '\u3000'] ++ ['I', 'N']), ['\n', ' ']⟩,
   ⟨.list (String.ofList ['[', '"', ']', '"', ']']), ['[', '"', ']', '"', ']'], [' ']⟩,
   ⟨.connective .and, ['a', 'N', 'D'], [' ']⟩,
   ⟨.number halfBelow.value, halfBelow.chars, []⟩]

/-- Words of several classes are read back from a text that begins and ends as it may. -/
theorem scan_mixed_words :
    (∀ word ∈ mixedWords, Spells word.chars word.kind) ∧
      (Scan.ofText ([' '] ++ written mixedWords)).tokens.map Token.kind =
        mixedWords.map Written.kind ∧
      (Scan.ofText ([' '] ++ written mixedWords)).faults = [] := by
  have spelled : ∀ word ∈ mixedWords, Spells word.chars word.kind := by
    intro word member
    simp only [mixedWords, List.mem_cons, List.not_mem_nil, or_false] at member
    rcases member with rfl | rfl | rfl | rfl | rfl
    · exact .field _ ⟨⟨'n', ['O', 't'], rfl, by decide⟩, List.all_eq_true.mp (by decide),
        by decide⟩
    · exact .notIn ['N', 'o', 't'] [' ', '\u3000'] ['I', 'N'] (by decide) (by decide)
        (List.all_eq_true.mp (by decide)) (by decide)
    · exact .list ['"', ']', '"', ']'] (by decide)
    · exact .keyword _ _ "and" rfl (by decide)
    · exact .number halfBelow
  have apart : mixedWords.IsChain fun word next => ¬ Merges word.kind next.kind := by
    simp [mixedWords, Merges]
  have blank : ∀ word ∈ mixedWords, ∀ char ∈ word.gap, isBlank char = true := by
    have blanks : ∀ word ∈ mixedWords, word.gap.all isBlank = true := by
      simp only [mixedWords, List.forall_mem_cons]
      decide
    exact fun word member => List.all_eq_true.mp (blanks word member)
  obtain ⟨kinds, faultless, _⟩ := scan_written [' '] mixedWords (List.all_eq_true.mp (by decide))
    spelled blank (by simp [mixedWords]) apart
  exact ⟨spelled, kinds, faultless⟩

end RecordRules.Rendering
