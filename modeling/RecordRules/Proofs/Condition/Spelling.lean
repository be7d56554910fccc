import RecordRules.Condition.Scan
import RecordRules.Proofs.Number.Numeral

/-!
# How words of a condition are spelled

A kind of word has one spelling or many: a symbol has one, a keyword may be written in any letter
case, a number may have a sign and zeros that do not matter. Whatever the spelling, a text that
begins with it is cut behind it into a word of that kind, as long as what stands behind cannot be
taken for more of the word. Blanks, the end of the text and a closing parenthesis never can; the
only word that looks further is a field named `not`, which must not be followed by an `in`.
-/

namespace RecordRules.Spelling

open Number Text Lexeme Characters

/-- The spelling of a kind of word that has no other. -/
def symbol? : Token.Kind → Option (List Char)
  | .greater => some ['>']
  | .less => some ['<']
  | .atLeast => some ['>', '=']
  | .atMost => some ['<', '=']
  | .equal => some ['=', '=']
  | .notEqual => some ['!', '=']
  | .contains => some ['=', '~']
  | .excludes => some ['!', '~']
  | .opening => some ['(']
  | .closing => some [')']
  | _ => none

/-- The keyword of a kind of word, in small letters. -/
def keyword? : Token.Kind → Option String
  | .connective .and => some "and"
  | .connective .or => some "or"
  | .among => some "in"
  | .notAmong => some "notin"
  | _ => none

/-- A name that a field can have: it begins like a word, goes on like one, and is no keyword in
any letter case. -/
structure IsName (chars : List Char) : Prop where
  begins : ∃ first rest, chars = first :: rest ∧ beginsWord first = true
  continues : ∀ char ∈ chars, continuesWord char = true
  free : spells chars "and" = false ∧ spells chars "or" = false ∧ spells chars "in" = false ∧
    spells chars "notin" = false

/-- Whether characters are a name is a matter of looking at each of them. -/
theorem isName_iff (chars : List Char) :
    IsName chars ↔ chars.head?.any beginsWord = true ∧ chars.all continuesWord = true ∧
      spells chars "and" = false ∧ spells chars "or" = false ∧ spells chars "in" = false ∧
      spells chars "notin" = false := by
  constructor
  · rintro ⟨⟨first, rest, rfl, begins⟩, continues, free⟩
    exact ⟨begins, List.all_eq_true.mpr continues, free⟩
  · rintro ⟨begins, continues, free⟩
    refine ⟨?_, List.all_eq_true.mp continues, free⟩
    cases chars with
    | nil => cases begins
    | cons first rest => exact ⟨first, rest, rfl, begins⟩

instance (chars : List Char) : Decidable (IsName chars) :=
  decidable_of_iff _ (isName_iff chars).symm

/-- Some characters are a spelling of a kind of word. -/
inductive Spells : List Char → Token.Kind → Prop
  | symbol (chars : List Char) (kind : Token.Kind) (only : symbol? kind = some chars) :
      Spells chars kind
  | keyword (chars : List Char) (kind : Token.Kind) (word : String)
      (known : keyword? kind = some word) (spelled : spells chars word = true) : Spells chars kind
  | notIn (first blanks last : List Char) (denies : spells first "not" = true)
      (some : blanks ≠ []) (blank : ∀ char ∈ blanks, isBlank char = true)
      (contains : spells last "in" = true) : Spells (first ++ (blanks ++ last)) .notAmong
  | field (chars : List Char) (name : IsName chars) :
      Spells chars (.field (String.ofList chars))
  | number (numeral : Numeral) : Spells numeral.chars (.number numeral.value)
  | text (content : List Char) (plain : '"' ∉ content) :
      Spells ('"' :: (content ++ ['"'])) (.text (String.ofList content))
  | list (rest : List Char) (balanced : splitList 0 .bare ('[' :: rest) = some ('[' :: rest, [])) :
      Spells ('[' :: rest) (.list (String.ofList ('[' :: rest)))

/-- What stands behind a word cannot be taken for more of it: nothing, a blank or a closing
parenthesis. -/
def Ends (behind : List Char) : Prop :=
  ∀ char ∈ behind.head?, isBlank char = true ∨ char = ')'

/-- A word may stand at the end of a text. -/
theorem ends_nil : Ends [] := by
  intro char member
  cases member

/-- A word ends where a blank stands. -/
theorem ends_blank {char : Char} {rest : List Char} (blank : isBlank char = true) :
    Ends (char :: rest) := by
  intro first member
  obtain rfl : char = first := Option.some.inj member
  exact .inl blank

/-- A word ends where a parenthesis is closed. -/
theorem ends_closing (rest : List Char) : Ends (')' :: rest) := by
  intro first member
  exact .inr (Option.some.inj member).symm

/-- No class that has neither blanks nor the closing parenthesis goes on behind a word. -/
theorem clear_ends {p : Char → Bool} {behind : List Char} (ends : Ends behind)
    (blanks : ∀ char, isBlank char = true → p char = false) (closing : p ')' = false) :
    Clear p behind := by
  intro char member
  rcases ends char member with blank | rfl
  · exact blanks char blank
  · exact closing

/-- A word of letters does not go on. -/
theorem clear_continues {behind : List Char} (ends : Ends behind) :
    Clear continuesWord behind :=
  clear_ends ends (fun _ => continues_of_blank) (by decide)

/-- Digits do not go on. -/
theorem clear_digits {behind : List Char} (ends : Ends behind) : Clear Char.isDigit behind :=
  clear_ends ends (fun _ => digit_of_blank) (by decide)

/-- A word of letters does not go on where blanks stand. -/
theorem clear_blanks {blanks : List Char} (some : blanks ≠ [])
    (blank : ∀ char ∈ blanks, isBlank char = true) (rest : List Char) :
    Clear continuesWord (blanks ++ rest) := by
  cases blanks with
  | nil => exact absurd rfl some
  | cons char others => exact clear_cons (continues_of_blank (blank char (by simp)))

/-- Behind a word stands no character that is neither a blank nor a closing parenthesis. -/
theorem not_head {behind : List Char} (ends : Ends behind) {char : Char}
    (visible : isBlank char = false) (other : char ≠ ')') (rest : List Char) :
    behind ≠ char :: rest := by
  rintro rfl
  rcases ends char rfl with blank | closing
  · simp [visible] at blank
  · exact other closing

/-- Two keywords are not spelled by the same characters. -/
theorem spells_unique {chars : List Char} {word other : String} (spelled : spells chars word = true)
    (different : word ≠ other) : spells chars other = false := by
  have small : chars.map Char.toLower = word.toList := of_decide_eq_true spelled
  apply decide_eq_false
  intro same
  exact different (String.toList_inj.mp (small.symm.trans same))

/-- The codes of the capital letters. -/
def capitalCodes : List Nat := List.range' 65 26

/-- Every capital letter is a letter. -/
theorem capital_codes_letters : ∀ code ∈ capitalCodes, alphabeticRanges.covers code = true := by
  decide +kernel

/-- A character whose small letter is one of those in keywords is a letter itself. -/
theorem letter_of_small {char : Char}
    (small : char.toLower ∈ ['a', 'd', 'i', 'n', 'o', 'r', 't']) : isAlphabetic char = true := by
  unfold Char.toLower at small
  split at small
  · rename_i capital
    have bounds : 65 ≤ char.toNat ∧ char.toNat ≤ 90 :=
      ⟨UInt32.le_iff_toNat_le.mp capital.1, UInt32.le_iff_toNat_le.mp capital.2⟩
    apply capital_codes_letters char.toNat
    rw [capitalCodes, List.mem_range'_1]
    omega
  · have letters : ∀ letter ∈ ['a', 'd', 'i', 'n', 'o', 'r', 't'], isAlphabetic letter = true :=
      List.all_eq_true.mp (by decide +kernel)
    exact letters char small

/-- The words that are not looked at as names. -/
def reservedWords : List String := ["and", "or", "in", "notin", "not"]

/-- A keyword in any letter case is a word of letters. -/
theorem letters_of_spells {chars : List Char} {word : String} (reserved : word ∈ reservedWords)
    (spelled : spells chars word = true) : ∀ char ∈ chars, isAlphabetic char = true := by
  have small : chars.map Char.toLower = word.toList := of_decide_eq_true spelled
  have known : ∀ word ∈ reservedWords,
      (word.toList.all fun letter => letter ∈ ['a', 'd', 'i', 'n', 'o', 'r', 't']) = true := by
    decide +kernel
  intro char member
  refine letter_of_small (of_decide_eq_true ?_)
  apply List.all_eq_true.mp (known word reserved) char.toLower
  rw [← small]
  exact List.mem_map_of_mem member

/-- A keyword in any letter case is not empty. -/
theorem cons_of_spells {chars : List Char} {word : String} (reserved : word ∈ reservedWords)
    (spelled : spells chars word = true) : ∃ first rest, chars = first :: rest := by
  cases chars with
  | nil =>
    have none : ∀ word ∈ reservedWords, spells [] word = false := by decide +kernel
    rw [none word reserved] at spelled
    cases spelled
  | cons first rest => exact ⟨first, rest, rfl⟩

/-- A symbol begins with a character that separates words and is no blank. -/
theorem first_symbol {chars : List Char} {kind : Token.Kind} (only : symbol? kind = some chars) :
    ∃ first tail, chars = first :: tail ∧ isBlank first = false ∧ isAlphabetic first = false := by
  cases kind <;> simp only [symbol?, Option.some.injEq, reduceCtorEq] at only
  all_goals
    subst only
    exact ⟨_, _, rfl, by decide +kernel⟩

/-- A numeral begins with a digit or a sign. -/
theorem first_numeral (numeral : Numeral) :
    ∃ first tail, numeral.chars = first :: tail ∧ isBlank first = false ∧
      isAlphabetic first = false := by
  obtain ⟨digit, rest, starts, isDigit⟩ := numeral.whole_eq_cons
  have letterless : isAlphabetic digit = false := (digit_codes_foreign _ (code_of_digit isDigit)).1
  rcases numeral.signed with none | minus | plus
  · exact ⟨digit, rest ++ numeral.point, by simp [Numeral.chars, none, starts],
      blank_of_continues (continues_of_digit isDigit), letterless⟩
  · exact ⟨'-', numeral.whole ++ numeral.point, by simp [Numeral.chars, minus],
      by decide +kernel⟩
  · exact ⟨'+', numeral.whole ++ numeral.point, by simp [Numeral.chars, plus],
      by decide +kernel⟩

/-- A keyword in any letter case begins with a letter. -/
theorem first_keyword {chars : List Char} {word : String} (reserved : word ∈ reservedWords)
    (spelled : spells chars word = true) :
    ∃ first tail, chars = first :: tail ∧ isBlank first = false := by
  obtain ⟨first, tail, rfl⟩ := cons_of_spells reserved spelled
  have letter : isAlphabetic first = true := letters_of_spells reserved spelled first (by simp)
  have continues : continuesWord first = true := by simp [continuesWord, letter]
  exact ⟨first, tail, rfl, blank_of_continues continues⟩

/-- The keyword of a kind of word is one of the reserved words. -/
theorem reserved_keyword {kind : Token.Kind} {word : String} (known : keyword? kind = some word) :
    word ∈ reservedWords := by
  cases kind with
  | connective joint => cases joint <;> simp_all [keyword?, reservedWords]
  | _ => simp_all [keyword?, reservedWords]

/-- No spelling begins with a blank. -/
theorem first_spelled {chars : List Char} {kind : Token.Kind} (spelled : Spells chars kind) :
    ∃ first tail, chars = first :: tail ∧ isBlank first = false := by
  cases spelled with
  | symbol _ _ only =>
    obtain ⟨first, tail, starts, shown, _⟩ := first_symbol only
    exact ⟨first, tail, starts, shown⟩
  | keyword _ _ word known spelled => exact first_keyword (reserved_keyword known) spelled
  | notIn first blanks last denies some blank contains =>
    obtain ⟨head, tail, rfl, shown⟩ := first_keyword (by simp [reservedWords]) denies
    exact ⟨head, tail ++ (blanks ++ last), rfl, shown⟩
  | field _ name =>
    obtain ⟨first, tail, rfl, begins⟩ := name.begins
    exact ⟨first, tail, rfl, blank_of_continues (continues_of_begins begins)⟩
  | number numeral =>
    obtain ⟨first, tail, starts, shown, _⟩ := first_numeral numeral
    exact ⟨first, tail, starts, shown⟩
  | text content plain => exact ⟨'"', content ++ ['"'], rfl, by decide⟩
  | list rest balanced => exact ⟨'[', rest, rfl, by decide⟩

/-- A field is spelled by its name. -/
theorem name_spelled {chars : List Char} {name : String} (spelled : Spells chars (.field name)) :
    name.toList = chars := by
  generalize same : Token.Kind.field name = kind at spelled
  cases spelled with
  | symbol _ _ only =>
    subst same
    cases only
  | keyword _ _ word known =>
    subst same
    cases known
  | field _ valid =>
    obtain rfl := Token.Kind.field.inj same
    exact String.toList_ofList
  | notIn | number | text | list => cases same

end RecordRules.Spelling
