import RecordRules.Condition.Lexeme

/-!
# Characters that never meet in one word

Blanks, the characters of words, decimal digits and the signs of operators are kept apart by the
properties of the standard. The sets are given by code points, so each fact about them is checked
once over the few codes of the smaller set.

Runs of one class of characters are told apart from what stands behind them by the first character
that is not of the class.
-/

namespace RecordRules.Characters

open Text Lexeme

/-- The code points of the blanks, one by one. -/
def blankCodes : List Nat :=
  [0x9, 0xA, 0xB, 0xC, 0xD, 0x20, 0x85, 0xA0, 0x1680, 0x2000, 0x2001, 0x2002, 0x2003, 0x2004,
   0x2005, 0x2006, 0x2007, 0x2008, 0x2009, 0x200A, 0x2028, 0x2029, 0x202F, 0x205F, 0x3000]

/-- The code points of the decimal digits, one by one. -/
def digitCodes : List Nat := [48, 49, 50, 51, 52, 53, 54, 55, 56, 57]

/-- A blank has one of the twenty-five codes. -/
theorem code_of_blank {char : Char} (blank : isBlank char = true) :
    char.toNat ∈ blankCodes := by
  obtain ⟨range, member, low, high⟩ := CodePoints.mem_of_covers blank
  simp only [blankRanges, List.mem_cons, List.not_mem_nil, or_false] at member
  simp only [blankCodes, List.mem_cons, List.not_mem_nil, or_false]
  rcases member with rfl | rfl | rfl | rfl | rfl | rfl | rfl | rfl | rfl | rfl <;>
    dsimp only at low high <;> omega

/-- A digit has one of the ten codes. -/
theorem code_of_digit {char : Char} (digit : char.isDigit = true) : char.toNat ∈ digitCodes := by
  have bounds : 48 ≤ char.toNat ∧ char.toNat ≤ 57 := by
    simp only [Char.isDigit, Bool.and_eq_true, decide_eq_true_eq] at digit
    exact ⟨UInt32.le_iff_toNat_le.mp digit.1, UInt32.le_iff_toNat_le.mp digit.2⟩
  simp only [digitCodes, List.mem_cons, List.not_mem_nil, or_false]
  omega

/-- No blank is a letter, a numeral, a digit or a line. -/
theorem blank_codes_foreign : ∀ code ∈ blankCodes,
    alphabeticRanges.covers code = false ∧ numeralRanges.covers code = false ∧
      code ∉ digitCodes ∧ code ≠ '_'.toNat := by
  decide +kernel

/-- No digit is a letter or a line, but every digit is a numeral. -/
theorem digit_codes_foreign : ∀ code ∈ digitCodes,
    alphabeticRanges.covers code = false ∧ numeralRanges.covers code = true ∧
      code ≠ '_'.toNat := by
  decide +kernel

/-- Blanks separate words: no word goes on with one. -/
theorem continues_of_blank {char : Char} (blank : isBlank char = true) :
    continuesWord char = false := by
  obtain ⟨letter, numeral, _, line⟩ := blank_codes_foreign _ (code_of_blank blank)
  have different : char ≠ '_' := by
    rintro rfl
    exact line rfl
  simp [continuesWord, isAlphabetic, isNumeral, letter, numeral, different]

/-- A blank is no digit. -/
theorem digit_of_blank {char : Char} (blank : isBlank char = true) : char.isDigit = false := by
  obtain ⟨_, _, foreign, _⟩ := blank_codes_foreign _ (code_of_blank blank)
  cases digit : char.isDigit with
  | false => rfl
  | true => exact absurd (code_of_digit digit) foreign

/-- A digit may stand in a word. -/
theorem continues_of_digit {char : Char} (digit : char.isDigit = true) :
    continuesWord char = true := by
  obtain ⟨_, numeral, _⟩ := digit_codes_foreign _ (code_of_digit digit)
  simp [continuesWord, isNumeral, numeral]

/-- A digit begins no word. -/
theorem begins_of_digit {char : Char} (digit : char.isDigit = true) :
    beginsWord char = false := by
  obtain ⟨letter, _, line⟩ := digit_codes_foreign _ (code_of_digit digit)
  have different : char ≠ '_' := by
    rintro rfl
    exact line rfl
  simp [beginsWord, isAlphabetic, letter, different]

/-- What may begin a word may also stand in it. -/
theorem continues_of_begins {char : Char} (begins : beginsWord char = true) :
    continuesWord char = true := by
  simp only [beginsWord, Bool.or_eq_true] at begins
  simp only [continuesWord, Bool.or_eq_true]
  rcases begins with letter | line
  · exact .inl (.inl letter)
  · exact .inr line

/-- What may stand in a word is no blank. -/
theorem blank_of_continues {char : Char} (continues : continuesWord char = true) :
    isBlank char = false := by
  cases blank : isBlank char with
  | false => rfl
  | true => simp [continues_of_blank blank] at continues

/-- A character of a class is none outside of it. -/
theorem ne_of_class {p : Char → Bool} {char other : Char} (inside : p char = true)
    (outside : p other = false) : char ≠ other := by
  rintro rfl
  simp [inside] at outside

/-- No character of a class stands first. -/
def Clear (p : Char → Bool) (text : List Char) : Prop := ∀ char ∈ text.head?, p char = false

/-- A text that is empty begins with no character of a class. -/
theorem clear_nil (p : Char → Bool) : Clear p [] := by
  intro char member
  cases member

/-- A text begins with no character of a class if its first one is outside. -/
theorem clear_cons {p : Char → Bool} {char : Char} {rest : List Char}
    (outside : p char = false) : Clear p (char :: rest) := by
  intro first member
  obtain rfl : char = first := Option.some.inj member
  exact outside

/-- Where no character of a class stands first, the run of them is empty. -/
theorem take_clear {p : Char → Bool} {text : List Char} (clear : Clear p text) :
    text.takeWhile p = [] ∧ text.dropWhile p = text := by
  cases text with
  | nil => exact ⟨rfl, rfl⟩
  | cons char rest =>
    have outside : p char = false := clear char rfl
    simp [outside]

/-- A run of a class is taken to its end, which is where another character stands. -/
theorem take_run {p : Char → Bool} {run behind : List Char} (inside : ∀ char ∈ run, p char = true)
    (clear : Clear p behind) :
    (run ++ behind).takeWhile p = run ∧ (run ++ behind).dropWhile p = behind := by
  rw [List.takeWhile_append_of_pos inside, List.dropWhile_append_of_pos inside,
    (take_clear clear).1, (take_clear clear).2, List.append_nil]
  exact ⟨rfl, rfl⟩

/-- What is taken while a class lasts is of the class. -/
theorem of_mem_takeWhile {p : Char → Bool} {text : List Char} {char : Char}
    (member : char ∈ text.takeWhile p) : p char = true :=
  List.all_eq_true.mp List.all_takeWhile char member

/-- What stands behind a run of a class begins with no character of the class. -/
theorem clear_dropWhile (p : Char → Bool) (text : List Char) : Clear p (text.dropWhile p) := by
  intro char member
  have outside := List.head?_dropWhile_not p text
  rw [Option.mem_def.mp member] at outside
  exact outside

end RecordRules.Characters
