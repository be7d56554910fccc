import RecordRules.Proofs.Json.Syntax

/-!
# What strings of a document mean

What stands between the quotes of a string means characters: most of them mean themselves, an escape
means another one, and a code unit means a character alone or together with a second one. A string
is read as what it means, whatever stands behind it.

A string that the grammar writes need not have a meaning. A leading surrogate without its trailing
one is a code unit as good as any, but no character.
-/

namespace RecordRules.JsonScalars

open Text Json JsonSyntax

section Digits

/-- A character with a value as a hexadecimal digit is one. -/
theorem hex_of_value {char : Char} {value : Nat} (valued : hexadecimal? char = some value) :
    IsHexDigit char := by
  unfold hexadecimal? at valued
  split at valued
  · rename_i digit
    exact .inl digit
  · split at valued
    · rename_i small
      exact .inr (.inl small)
    · split at valued
      · rename_i capital
        exact .inr (.inr capital)
      · cases valued

/-- Characters with a value as hexadecimal digits are hexadecimal digits. -/
theorem hex_of_values {digits : List Char} {value : Nat} (valued : hexValue? digits = some value) :
    ∀ digit ∈ digits, IsHexDigit digit := by
  unfold hexValue? at valued
  generalize some 0 = start at valued
  induction digits generalizing start with
  | nil => simp
  | cons first rest inductionHypothesis =>
    rw [List.foldl_cons] at valued
    refine List.forall_mem_cons.mpr ⟨?_, inductionHypothesis _ valued⟩
    cases known : hexadecimal? first with
    | some value => exact hex_of_value known
    | none =>
      have lost : ∀ others : List Char, others.foldl (fun (value : Option Nat) digit => do
          return 16 * (← value) + (← hexadecimal? digit)) none = none := by
        intro others
        induction others with
        | nil => rfl
        | cons _ _ inductionHypothesis => exact inductionHypothesis
      rw [known] at valued
      cases start <;> exact absurd ((lost rest).symm.trans valued) (by simp)

/-- A hexadecimal digit is one byte long. -/
theorem bytes_hex {char : Char} (hexadecimal : IsHexDigit char) :
    (String.utf8EncodeChar char).length = 1 := by
  rw [String.length_utf8EncodeChar, Char.utf8Size_eq_one_iff]
  simp only [IsHexDigit, Char.isDigit, Char.le_def, UInt32.le_iff_toNat_le, Bool.and_eq_true,
    decide_eq_true_eq, ge_iff_le] at hexadecimal ⊢
  have nine : '9'.val.toNat = 57 := rfl
  have f : 'f'.val.toNat = 102 := rfl
  have capital : 'F'.val.toNat = 70 := rfl
  have last : (127 : UInt32).toNat = 127 := rfl
  omega

/-- Hexadecimal digits take as many bytes as there are of them. -/
theorem length_bytes_hex {text : List Char} (hexadecimal : ∀ char ∈ text, IsHexDigit char) :
    (bytes text).length = text.length := by
  induction text with
  | nil => rfl
  | cons char rest inductionHypothesis =>
    obtain ⟨first, later⟩ := List.forall_mem_cons.mp hexadecimal
    have behind : (rest.flatMap String.utf8EncodeChar).length = rest.length :=
      inductionHypothesis later
    simp only [bytes, List.flatMap_cons, List.length_append, bytes_hex first, behind,
      List.length_cons]
    omega

end Digits

section Meanings

/-- Four hexadecimal digits with the value of a code unit. -/
structure IsUnit (digits : List Char) (unit : Nat) : Prop where
  four : digits.length = 4
  valued : hexValue? digits = some unit

/-- A code unit that needs another one behind it to make a character. -/
def IsLeading (unit : Nat) : Prop := 0xD800 ≤ unit ∧ unit ≤ 0xDBFF

/-- A code unit that needs another one in front of it to make a character. -/
def IsTrailing (unit : Nat) : Prop := 0xDC00 ≤ unit ∧ unit ≤ 0xDFFF

/-- What stands between the quotes of a string means some characters. -/
inductive Means : List Char → List Char → Prop
  | finished : Means [] []
  | plain (char : Char) (content chars : List Char) (noQuote : char ≠ '"')
      (noEscape : char ≠ '\\') (visible : ¬ char < ' ') (later : Means content chars) :
      Means (char :: content) (char :: chars)
  | escape (letter char : Char) (content chars : List Char) (known : escaped? letter = some char)
      (later : Means content chars) : Means ('\\' :: letter :: content) (char :: chars)
  | unit (digits content chars : List Char) (unit : Nat) (isUnit : IsUnit digits unit)
      (noLeading : ¬ IsLeading unit) (noTrailing : ¬ IsTrailing unit)
      (later : Means content chars) :
      Means ('\\' :: 'u' :: (digits ++ content)) (Char.ofNat unit :: chars)
  | pair (first second content chars : List Char) (leading trailing : Nat)
      (isLeading : IsUnit first leading ∧ IsLeading leading)
      (isTrailing : IsUnit second trailing ∧ IsTrailing trailing) (later : Means content chars) :
      Means ('\\' :: 'u' :: (first ++ '\\' :: 'u' :: (second ++ content)))
        (surrogatePair leading trailing :: chars)

/-- A letter that stands for a character may be escaped. -/
theorem letter_of_escaped {letter char : Char} (known : escaped? letter = some char) :
    letter ∈ escapeLetters := by
  unfold escaped? at known
  split at known <;> first | decide | cases known

/-- The digits of a code unit are four hexadecimal digits. -/
theorem IsUnit.content {digits content : List Char} {unit : Nat} (isUnit : IsUnit digits unit)
    (later : Content content) : Content ('\\' :: 'u' :: (digits ++ content)) :=
  .unit digits content isUnit.four (hex_of_values isUnit.valued) later

/-- What has a meaning can stand between the quotes of a string. -/
theorem content_of_means {content chars : List Char} (means : Means content chars) :
    Content content := by
  induction means with
  | finished => exact .finished
  | plain char content chars noQuote noEscape visible later inductionHypothesis =>
    exact .plain char content noQuote noEscape visible inductionHypothesis
  | escape letter char content chars known later inductionHypothesis =>
    exact .escape letter content (letter_of_escaped known) inductionHypothesis
  | unit digits content chars unit isUnit noLeading noTrailing later inductionHypothesis =>
    exact isUnit.content inductionHypothesis
  | pair first second content chars leading trailing isLeading isTrailing later
      inductionHypothesis =>
    exact isLeading.1.content (isTrailing.1.content inductionHypothesis)

/-- What stands in a row means characters in a row. -/
theorem means_append {first second chars others : List Char} (one : Means first chars)
    (two : Means second others) : Means (first ++ second) (chars ++ others) := by
  induction one with
  | finished => exact two
  | plain char content chars noQuote noEscape visible later inductionHypothesis =>
    exact .plain char _ _ noQuote noEscape visible inductionHypothesis
  | escape letter char content chars known later inductionHypothesis =>
    exact .escape letter char _ _ known inductionHypothesis
  | unit digits content chars unit isUnit noLeading noTrailing later inductionHypothesis =>
    have appended := Means.unit digits _ _ unit isUnit noLeading noTrailing inductionHypothesis
    simpa using appended
  | pair first second content chars leading trailing isLeading isTrailing later
      inductionHypothesis =>
    have appended :=
      Means.pair first second _ _ leading trailing isLeading isTrailing inductionHypothesis
    simpa using appended

/-- Whether a character needs no escape between the quotes of a string. -/
def needsNoEscape (char : Char) : Bool :=
  char != '"' && char != '\\' && decide (32 ≤ char.toNat)

/-- Characters that need no escape mean themselves. -/
theorem means_plain {chars : List Char} (plain : chars.all needsNoEscape = true) :
    Means chars chars := by
  induction chars with
  | nil => exact .finished
  | cons char rest inductionHypothesis =>
    rw [List.all_cons, Bool.and_eq_true] at plain
    obtain ⟨first, later⟩ := plain
    simp only [needsNoEscape, Bool.and_eq_true, bne_iff_ne, decide_eq_true_eq] at first
    obtain ⟨⟨noQuote, noEscape⟩, high⟩ := first
    have visible : ¬ char < ' ' := fun low => Nat.not_lt.mpr high (UInt32.lt_iff_toNat_lt.mp low)
    exact .plain char rest rest noQuote noEscape visible (inductionHypothesis later)

end Meanings

section Reading

/-- A code unit is read off the front of a text. -/
theorem read_unit {digits : List Char} {unit : Nat} (isUnit : IsUnit digits unit)
    (rest : List Char) : readUnit (digits ++ rest) = .ok (unit, rest) := by
  have size : (bytes digits).length = 4 :=
    (length_bytes_hex (hex_of_values isUnit.valued)).trans isUnit.four
  have long : ¬ (bytes (digits ++ rest)).length < 4 := by
    rw [bytes, List.flatMap_append, List.length_append]
    rw [bytes] at size
    omega
  have taken : (digits ++ rest).take 4 = digits := by
    rw [← isUnit.four, List.take_left]
  have dropped : (digits ++ rest).drop 4 = rest := by
    rw [← isUnit.four, List.drop_left]
  rw [readUnit, if_neg long, taken, dropped, isUnit.valued]

/-- A code unit that makes a character alone is read as that character. -/
theorem read_single {digits : List Char} {unit : Nat} (isUnit : IsUnit digits unit)
    (noLeading : ¬ IsLeading unit) (noTrailing : ¬ IsTrailing unit) (rest : List Char) :
    readEscape ('u' :: (digits ++ rest)) = .ok (Char.ofNat unit, rest) := by
  rw [readEscape, readCodePoint, read_unit isUnit]
  exact (if_neg noTrailing).trans (if_neg noLeading)

/-- Two code units that make a character together are read as that character. -/
theorem read_pair {first second : List Char} {leading trailing : Nat}
    (isLeading : IsUnit first leading ∧ IsLeading leading)
    (isTrailing : IsUnit second trailing ∧ IsTrailing trailing) (rest : List Char) :
    readEscape ('u' :: (first ++ '\\' :: 'u' :: (second ++ rest))) =
      .ok (surrogatePair leading trailing, rest) := by
  have noTrailing : ¬ IsTrailing leading := by
    obtain ⟨_, _, above⟩ := isLeading
    rintro ⟨below, _⟩
    omega
  have last : readTrailing leading ('\\' :: 'u' :: (second ++ rest)) =
      .ok (surrogatePair leading trailing, rest) := by
    rw [readTrailing, read_unit isTrailing.1]
    exact if_pos isTrailing.2
  rw [readEscape, readCodePoint, read_unit isLeading.1]
  exact (if_neg noTrailing).trans ((if_pos isLeading.2).trans last)

/-- An escape is read behind its backslash, and then the characters behind it. -/
theorem read_characters_escape {escape rest others : List Char} {char : Char} {bound : Nat}
    {chars : List Char} (escaped : readEscape escape = .ok (char, rest))
    (later : readCharacters bound rest = .ok (chars, others)) :
    readCharacters (bound + 1) ('\\' :: escape) = .ok (char :: chars, others) := by
  rw [readCharacters, escaped]
  simp only [bind, Except.bind, later]
  rfl

/-- What has a meaning is read as its meaning, up to the closing quote. -/
theorem read_means {content chars : List Char} (means : Means content chars) (rest : List Char)
    (bound : Nat) (enough : content.length ≤ bound) :
    readCharacters (bound + 1) (content ++ '"' :: rest) = .ok (chars, rest) := by
  induction means generalizing bound with
  | finished => rfl
  | plain char content chars noQuote noEscape visible later inductionHypothesis =>
    obtain ⟨fewer, rfl⟩ := Nat.exists_eq_add_one.mpr (Nat.zero_lt_of_lt enough)
    have behind := inductionHypothesis fewer (Nat.le_of_succ_le_succ enough)
    rw [List.cons_append, readCharacters, if_neg visible, behind]
    · rfl
    · exact noQuote
    · exact noEscape
  | escape letter char content chars known later inductionHypothesis =>
    obtain ⟨fewer, rfl⟩ := Nat.exists_eq_add_one.mpr (Nat.zero_lt_of_lt enough)
    have behind := inductionHypothesis fewer (by simp at enough; omega)
    have escaped : readEscape (letter :: (content ++ '"' :: rest)) =
        .ok (char, content ++ '"' :: rest) := by
      rw [readEscape, known]
      rintro rfl
      cases known
    exact read_characters_escape escaped behind
  | unit digits content chars unit isUnit noLeading noTrailing later inductionHypothesis =>
    obtain ⟨fewer, rfl⟩ := Nat.exists_eq_add_one.mpr (Nat.zero_lt_of_lt enough)
    have behind := inductionHypothesis fewer (by simp at enough; omega)
    rw [List.cons_append, List.cons_append, List.append_assoc]
    exact read_characters_escape (read_single isUnit noLeading noTrailing _) behind
  | pair first second content chars leading trailing isLeading isTrailing later
      inductionHypothesis =>
    obtain ⟨fewer, rfl⟩ := Nat.exists_eq_add_one.mpr (Nat.zero_lt_of_lt enough)
    have behind := inductionHypothesis fewer (by simp at enough; omega)
    have split : '\\' :: 'u' :: (first ++ '\\' :: 'u' :: (second ++ content)) ++ '"' :: rest =
        '\\' :: 'u' :: (first ++ '\\' :: 'u' :: (second ++ (content ++ '"' :: rest))) := by
      simp
    rw [split]
    exact read_characters_escape (read_pair isLeading isTrailing _) behind

/-- A string is read as what it means, whatever stands behind it. -/
theorem read_string {content chars : List Char} (means : Means content chars)
    (rest : List Char) :
    readString (content ++ '"' :: rest) = .ok (String.ofList chars, rest) := by
  have enough : content.length ≤ (content ++ '"' :: rest).length := by
    rw [List.length_append]
    omega
  rw [readString, read_means means rest _ enough]
  rfl

end Reading

end RecordRules.JsonScalars
