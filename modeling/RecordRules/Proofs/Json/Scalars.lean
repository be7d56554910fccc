import RecordRules.Proofs.Json.Documents
import RecordRules.Proofs.Json.Numerals
import RecordRules.Record.Decoding

/-!
# What scalars of a document mean

Words, strings and numbers are read alike wherever they stand: what is behind them changes nothing
about what they are read as, as long as it does not go on with a number. Every string is read that
has a meaning, and so is every number of the grammar unless it is out of range.
-/

namespace RecordRules.JsonScalars

open Json JsonSyntax JsonTaking JsonNumerals JsonDocuments Characters

section Numbers

/-- What comes of a number in front of other characters: the number, with these characters behind
it, or a failure for its range. -/
inductive Comes (behind : List Char) :
    Option Json.Numeral → Except Failure (Json.Numeral × List Char) → Prop
  | inRange (number : Json.Numeral) : Comes behind (some number) (.ok (number, behind))
  | outOfRange (failure : Failure) (cause : failure.cause = .grammar .numberOutOfRange) :
      Comes behind none (.error failure)

/-- A reader makes the same of a text in front of all characters that do not go on with a number. -/
def Decides (reader : Reader Json.Numeral) (text : List Char) : Prop :=
  ∃ outcome, ∀ behind, Clear continuesNumber behind → Comes behind outcome (reader (text ++ behind))

variable (negative : Bool) (significand : Nat) (power : Int)

/-- A scaled number is in range or not, and nothing is taken. -/
theorem decides_finish : Decides (finishNumber negative significand power) [] := by
  unfold Decides
  rw [finish_eq]
  dsimp only
  cases scale significand power with
  | some magnitude => exact ⟨some _, fun behind _ => .inRange _⟩
  | none => exact ⟨none, fun behind _ => .outOfRange _ rfl⟩

/-- The digits of a power of ten fit or not, whatever stands behind them. -/
theorem power_digits_front {digits : List Char} (all : ∀ digit ∈ digits, digit.isDigit = true)
    (value : Nat) :
    (∃ final, ∀ behind, Clear Char.isDigit behind →
      readPowerDigits value (digits ++ behind) = .ok (final, behind)) ∨
    ∀ behind, Clear Char.isDigit behind →
      ∃ rest, readPowerDigits value (digits ++ behind) = .error rest ∧
        rest.dropWhile Char.isDigit = behind := by
  induction digits generalizing value with
  | nil =>
    refine .inl ⟨value, fun behind ends => ?_⟩
    cases behind with
    | nil => rfl
    | cons next rest =>
      have outside : ¬ next.isDigit = true := by simp [ends next rfl]
      rw [List.nil_append, readPowerDigits, if_neg outside]
  | cons digit digits inductionHypothesis =>
    obtain ⟨isDigit, later⟩ := List.forall_mem_cons.mp all
    by_cases fits : 10 * value + (digit.toNat - '0'.toNat) < 1 <<< 31
    · simpa only [List.cons_append, readPowerDigits, if_pos isDigit, if_pos fits] using
        inductionHypothesis later _
    · refine .inr fun behind ends => ⟨digits ++ behind, ?_, (take_run later ends).2⟩
      rw [List.cons_append, readPowerDigits, if_pos isDigit]
      exact if_neg fits

/-- A power of ten behind its sign is read digit by digit. -/
theorem read_power_digits {text rest : List Char} {digit : Char} (isDigit : digit.isDigit = true)
    (unsigned : (if text.head? = some '-' ∨ text.head? = some '+' then text.tail else text) =
      digit :: rest) :
    readPower negative significand power text =
      match readPowerDigits (digit.toNat - '0'.toNat) rest with
      | .ok (value, rest) =>
        finishNumber negative significand
          (if text.head? = some '-' then power - value else power + value) rest
      | .error rest =>
        if significand ≠ 0 ∧ ¬ text.head? = some '-' then
          .error (.behind .numberOutOfRange rest)
        else .ok (.floating (.finite negative .zero), rest.dropWhile Char.isDigit) := by
  unfold readPower
  dsimp only
  rw [unsigned]
  exact if_pos isDigit

/-- A power of ten begins with a sign or not, whatever stands behind it, and then with a digit. -/
theorem power_front {text : List Char} (signed : SignedDigits text) :
    ∃ digit rest, digit.isDigit = true ∧ (∀ char ∈ rest, char.isDigit = true) ∧
      ∀ behind, (text ++ behind).head? = text.head? ∧
        (if (text ++ behind).head? = some '-' ∨ (text ++ behind).head? = some '+' then
          (text ++ behind).tail else text ++ behind) = digit :: (rest ++ behind) := by
  obtain ⟨sign, digits, signs, notNil, all⟩ := signed
  obtain ⟨digit, rest, rfl⟩ := List.exists_cons_of_ne_nil notNil
  obtain ⟨isDigit, later⟩ := List.forall_mem_cons.mp all
  have noMinus : digit ≠ '-' := ne_of_class isDigit (by decide)
  have noPlus : digit ≠ '+' := ne_of_class isDigit (by decide)
  refine ⟨digit, rest, isDigit, later, fun behind => ?_⟩
  obtain rfl | rfl | rfl := signs <;> simp [noMinus, noPlus]

/-- A power of ten with its sign is read alike whatever stands behind it. -/
theorem decides_power {text : List Char} (signed : SignedDigits text) :
    Decides (readPower negative significand power) text := by
  obtain ⟨digit, rest, isDigit, later, front⟩ := power_front signed
  have opened (behind : List Char) :=
    read_power_digits negative significand power isDigit (front behind).2
  rcases power_digits_front later (digit.toNat - '0'.toNat) with ⟨final, fits⟩ | tooMany
  · obtain ⟨outcome, decided⟩ := decides_finish negative significand
      (if text.head? = some '-' then power - final else power + final)
    refine ⟨outcome, fun behind ends => ?_⟩
    rw [opened behind, fits behind (clear_digit ends), (front behind).1]
    exact decided behind ends
  · by_cases huge : significand ≠ 0 ∧ ¬ text.head? = some '-'
    · refine ⟨none, fun behind ends => ?_⟩
      obtain ⟨others, failed, -⟩ := tooMany behind (clear_digit ends)
      rw [opened behind, failed, (front behind).1]
      dsimp only
      rw [if_pos huge]
      exact .outOfRange _ rfl
    · refine ⟨some (.floating (.finite negative .zero)), fun behind ends => ?_⟩
      obtain ⟨others, failed, dropped⟩ := tooMany behind (clear_digit ends)
      rw [opened behind, failed, (front behind).1]
      dsimp only
      rw [if_neg huge, dropped]
      exact .inRange _

/-- A power of ten, or none, is read alike whatever stands behind it. -/
theorem decides_scaled {text : List Char} (powers : Power text) :
    Decides (readScaled negative significand power) text := by
  cases powers with
  | none =>
    obtain ⟨outcome, decided⟩ := decides_finish negative significand power
    refine ⟨outcome, fun behind ends => ?_⟩
    rw [List.nil_append, read_scaled negative significand power ends]
    exact decided behind ends
  | power mark text marks signed =>
    obtain ⟨outcome, decided⟩ := decides_power negative significand power signed
    obtain rfl | rfl := marks <;> exact ⟨outcome, decided⟩

/-- What a power of ten begins with is no digit, and neither is what stands behind none. -/
theorem clear_power {text behind : List Char} (powers : Power text)
    (ends : Clear continuesNumber behind) : Clear Char.isDigit (text ++ behind) := by
  cases powers with
  | none => exact clear_digit ends
  | power mark text marks signed =>
    obtain rfl | rfl := marks <;> exact clear_cons (by decide)

/-- A fraction is read alike with whatever power of ten is behind it. -/
theorem decides_fraction {digits text : List Char} (some : Digits digits) (powers : Power text) :
    Decides (readFraction negative significand power) (digits ++ text) := by
  rcases absorbed : absorb significand digits with ⟨final, count⟩
  obtain ⟨outcome, decided⟩ := decides_scaled negative final (power - count) powers
  refine ⟨outcome, fun behind ends => ?_⟩
  rw [List.append_assoc,
    read_fraction negative power some (clear_power powers ends) absorbed]
  exact decided behind ends

/-- Behind an integer with the mark of a power of ten, the power is read. -/
theorem read_mark {whole : List Char} (wholes : Whole whole) {count : Nat}
    (absorbed : absorb 0 whole = (significand, count)) {mark : Char}
    (marks : mark = 'e' ∨ mark = 'E') (rest : List Char) :
    readUnsigned negative (whole ++ mark :: rest) =
      readPower negative significand (whole.length - count) rest := by
  have letter : Clear Char.isDigit (mark :: rest) := by
    obtain rfl | rfl := marks <;> exact clear_cons (by decide)
  obtain ⟨first, digits, rfl, digit, busy, taken, dropped⟩ := front_digits wholes letter
  rw [List.cons_append, readUnsigned, if_neg digit, if_neg busy]
  obtain rfl | rfl := marks <;> simp only [taken, dropped, absorbed]

/-- A number without a sign is read alike whatever stands behind it. -/
theorem decides_unsigned {whole fraction text : List Char} (wholes : Whole whole)
    (fractions : Fraction fraction) (powers : Power text) :
    Decides (readUnsigned negative) (whole ++ (fraction ++ text)) := by
  rcases absorbed : absorb 0 whole with ⟨significand, count⟩
  -- What stands behind the integer decides which reader goes on.
  cases fractions with
  | digits digits some =>
    obtain ⟨outcome, decided⟩ :=
      decides_fraction negative significand (whole.length - count) some powers
    refine ⟨outcome, fun behind ends => ?_⟩
    rw [List.append_assoc, List.cons_append, List.cons_append,
      read_point negative wholes absorbed]
    exact decided behind ends
  | none =>
    cases powers with
    | power mark text marks signed =>
      obtain ⟨outcome, decided⟩ :=
        decides_power negative significand (whole.length - count) signed
      refine ⟨outcome, fun behind ends => ?_⟩
      rw [List.append_assoc, List.nil_append, List.cons_append,
        read_mark negative significand wholes absorbed marks]
      exact decided behind ends
    | none =>
      by_cases absorbsAll : (whole.length - count : Int) = 0
      · refine ⟨some (wholeNumber negative significand), fun behind ends => ?_⟩
        rw [List.append_nil, List.append_nil, read_whole negative wholes ends absorbed,
          if_pos absorbsAll]
        exact .inRange _
      · obtain ⟨outcome, decided⟩ :=
          decides_finish negative significand (whole.length - count)
        refine ⟨outcome, fun behind ends => ?_⟩
        rw [List.append_nil, List.append_nil, read_whole negative wholes ends absorbed,
          if_neg absorbsAll]
        exact decided behind ends

/-- A number of the grammar is read alike whatever stands behind it: it is in range or not. -/
theorem decides_number {text : List Char} (number : IsNumber text) :
    Decides readNumber text := by
  obtain ⟨sign, whole, fraction, power, signed, wholes, fractions, powers⟩ := number
  obtain rfl | rfl := signed
  · obtain ⟨outcome, decided⟩ := decides_unsigned false wholes fractions powers
    refine ⟨outcome, fun behind ends => ?_⟩
    have noMinus : ∀ rest, whole ++ (fraction ++ power) ++ behind ≠ '-' :: rest := by
      intro rest same
      cases wholes with
      | zero => cases same
      | digits first rest digit =>
        obtain rfl : first = '-' := (List.cons.inj same).1
        cases digit
    rw [List.nil_append, readNumber]
    · exact decided behind ends
    · exact noMinus
  · obtain ⟨outcome, decided⟩ := decides_unsigned true wholes fractions powers
    exact ⟨outcome, decided⟩

end Numbers

section Scalars

/-- A number that is in range, whatever stands behind it: it is read alone. -/
theorem read_number {text : List Char} (isNumber : IsNumber text) {number : Json.Numeral}
    (alone : readNumber text = .ok (number, [])) {behind : List Char}
    (ends : Clear continuesNumber behind) :
    readNumber (text ++ behind) = .ok (number, behind) := by
  obtain ⟨outcome, decided⟩ := decides_number isNumber
  have first := decided [] (clear_nil _)
  rw [List.append_nil, alone] at first
  cases first with
  | inRange =>
    have second := decided behind ends
    generalize readNumber (text ++ behind) = result at second
    cases second
    rfl

/-- A number that was read in front of what does not go on with it is read alone as the same. -/
theorem read_number_alone {text behind : List Char} (isNumber : IsNumber text)
    {number : Json.Numeral} (read : readNumber (text ++ behind) = .ok (number, behind))
    (ends : Clear continuesNumber behind) : readNumber text = .ok (number, []) := by
  obtain ⟨outcome, decided⟩ := decides_number isNumber
  have first := decided behind ends
  rw [read] at first
  cases first with
  | inRange =>
    have second := decided [] (clear_nil _)
    rw [List.append_nil] at second
    generalize readNumber text = result at second
    cases second
    rfl

/-- A number is in range if it is not refused for its range. -/
def InRange (text : List Char) : Prop :=
  ∀ failure, readNumber text = .error failure → failure.cause ≠ .grammar .numberOutOfRange

/-- A number of the grammar that is in range is read whole. -/
theorem read_alone {text : List Char} (isNumber : IsNumber text) (inRange : InRange text) :
    ∃ number, readNumber text = .ok (number, []) := by
  obtain ⟨outcome, decided⟩ := decides_number isNumber
  have alone := decided [] (clear_nil _)
  rw [List.append_nil] at alone
  generalize read : readNumber text = result at alone
  cases alone with
  | inRange number => exact ⟨number, rfl⟩
  | outOfRange failure cause => exact absurd cause (inRange failure read)

/-- A text is a scalar of a document: a word, a number in range, or a string whose code units make
characters. -/
inductive IsScalarText : List Char → Prop
  | true : IsScalarText ['t', 'r', 'u', 'e']
  | false : IsScalarText ['f', 'a', 'l', 's', 'e']
  | number (text : List Char) (isNumber : IsNumber text) (inRange : InRange text) :
      IsScalarText text
  | string (content chars : List Char) (means : Means content chars) :
      IsScalarText ('"' :: (content ++ ['"']))

/-- A text denotes a scalar: a word its boolean, a number what its reader rounds it to, and a string
what it means. -/
inductive Denotes : List Char → Scalar → Prop
  | true : Denotes ['t', 'r', 'u', 'e'] (.boolean true)
  | false : Denotes ['f', 'a', 'l', 's', 'e'] (.boolean false)
  | number (text : List Char) (number : Json.Numeral) (isNumber : IsNumber text)
      (read : readNumber text = .ok (number, [])) : Denotes text (.number number.toBinary64)
  | string (content chars : List Char) (means : Means content chars) :
      Denotes ('"' :: (content ++ ['"'])) (.text (String.ofList chars))

/-- A text is a scalar of a document exactly if it denotes one. -/
theorem scalar_text_iff {text : List Char} : IsScalarText text ↔ ∃ scalar, Denotes text scalar := by
  constructor
  · intro isScalar
    cases isScalar with
    | true => exact ⟨_, .true⟩
    | false => exact ⟨_, .false⟩
    | number text isNumber inRange =>
      obtain ⟨number, read⟩ := read_alone isNumber inRange
      exact ⟨_, .number text number isNumber read⟩
    | string content chars means => exact ⟨_, .string content chars means⟩
  · rintro ⟨scalar, denotes⟩
    cases denotes with
    | true => exact .true
    | false => exact .false
    | number text number isNumber read =>
      refine .number text isNumber fun failure refused => ?_
      cases read.symm.trans refused
    | string content chars means => exact .string content chars means

/-- The value of a record that is a scalar. -/
def valueOf : Scalar → Value
  | .boolean value => .boolean value
  | .number value => .number value
  | .text content => .text content

/-- A scalar has the same text in a record. -/
theorem chars_value (scalar : Scalar) : (valueOf scalar).chars = scalar.chars := by
  cases scalar <;> rfl

/-- A value of the grammar is the same scalar in a list and in a record. -/
structure IsScalar (value : Json) (scalar : Scalar) : Prop where
  item : Scalar.ofJson? value = some scalar
  field : Value.ofJson? value = some (valueOf scalar)

/-- A text denotes the scalar that the value is which it spells. -/
theorem spelled_of_denotes {text : List Char} {scalar : Scalar} (denotes : Denotes text scalar) :
    ∃ value, SpellsPlain text value ∧ IsScalar value scalar := by
  cases denotes with
  | true => exact ⟨.boolean true, .true, rfl, rfl⟩
  | false => exact ⟨.boolean false, .false, rfl, rfl⟩
  | number text number isNumber read =>
    exact ⟨.number number, .number text number isNumber read, rfl, rfl⟩
  | string content chars means =>
    exact ⟨.string (String.ofList chars), .string content chars means, rfl, rfl⟩

/-- A scalar is a value of the grammar. -/
theorem written_of_denotes {text : List Char} {scalar : Scalar} (denotes : Denotes text scalar) :
    Writes .value text := by
  obtain ⟨value, spelled, -⟩ := spelled_of_denotes denotes
  exact spelled.written

/-- A number begins with a minus sign or a digit. -/
theorem first_number {text : List Char} (isNumber : IsNumber text) :
    ∃ first rest, text = first :: rest ∧ beginsNumber first = true := by
  obtain ⟨sign, whole, fraction, power, signed, wholes, fractions, powers⟩ := isNumber
  obtain rfl | rfl := signed
  · cases wholes with
    | zero => exact ⟨'0', _, rfl, rfl⟩
    | digits first rest digit => exact ⟨first, _, rfl, by simp [beginsNumber, digit]⟩
  · exact ⟨'-', _, rfl, rfl⟩

/-- A value that is no container is read as it is spelled, whatever containers are read by. -/
theorem read_spelled {text behind : List Char} {value : Json} (spelled : SpellsPlain text value)
    (ends : Clear continuesNumber behind) (list object : Reader Json) :
    readPlain list object (text ++ behind) = .ok (value, behind) := by
  cases spelled with
  | null | true | false => rfl
  | number text number isNumber read =>
    have whole := read_number isNumber read ends
    obtain ⟨first, rest, rfl, begins⟩ := first_number isNumber
    have shown : skipSpace (first :: (rest ++ behind)) = first :: (rest ++ behind) :=
      (take_clear (clear_cons (space_of_begins begins))).2
    rw [List.cons_append] at whole ⊢
    rw [plain_begun list object shown begins, whole]
    rfl
  | string content chars means =>
    have opened : readPlain list object ('"' :: (content ++ '"' :: behind)) =
        (readString (content ++ '"' :: behind) >>= fun taken =>
          .ok (.string taken.1, taken.2)) := rfl
    rw [List.cons_append, List.append_assoc, List.singleton_append, opened,
      read_string means behind]
    rfl

end Scalars

end RecordRules.JsonScalars
