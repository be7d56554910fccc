import RecordRules.Json.Document
import RecordRules.Proofs.Json.Taking
import RecordRules.Proofs.Number.Exact
import RecordRules.Proofs.Number.Numeral

/-!
# Numerals of a document

A numeral without a plus sign and without an idle zero in front is also a number of a document. Its
reader takes the same characters, but it rounds in another way: it rounds the significand, rounds
the power of ten, and rounds what comes of the two.

For an integer of 64 bits there is no power of ten. For digits up to 2⁵³ with at most twenty-two of
them behind the point, the significand and the power are exact. In both cases only one rounding is
left, and the number is the value of the numeral.
-/

namespace RecordRules.JsonNumerals

open Number Json JsonSyntax JsonTaking Characters

/-- A numeral that is a number of a document too. -/
structure Plain (numeral : Number.Numeral) : Prop where
  unsigned : numeral.sign ≠ ['+']
  idle : ∀ rest, numeral.whole = '0' :: rest → rest = []

/-- A numeral that the reader of documents rounds only once. -/
def Short (numeral : Number.Numeral) : Prop :=
  (numeral.fraction = [] ∧ numeral.decimal.digits < 2 ^ 64) ∨
    (numeral.decimal.digits ≤ 2 ^ 53 ∧ numeral.fraction.length ≤ 22)

/-- What a number goes on with. -/
def continuesNumber (char : Char) : Bool :=
  char.isDigit || char == '.' || char == 'e' || char == 'E'

section Significands

/-- Digits are only ever added to a number. -/
theorem le_of_digits (significand : Nat) (digits : List Char) :
    significand ≤ Nat.ofDigitChars 10 digits significand := by
  induction digits generalizing significand with
  | nil => exact Nat.le_refl _
  | cons digit rest inductionHypothesis =>
    rw [Nat.ofDigitChars_cons]
    have larger := inductionHypothesis (10 * significand + (digit.toNat - '0'.toNat))
    omega

/-- Digits that make a number of 64 bits are all absorbed. -/
theorem absorb_all {significand : Nat} {digits : List Char}
    (fits : Nat.ofDigitChars 10 digits significand < 2 ^ 64) :
    absorb significand digits = (Nat.ofDigitChars 10 digits significand, digits.length) := by
  induction digits generalizing significand with
  | nil => rfl
  | cons digit rest inductionHypothesis =>
    rw [Nat.ofDigitChars_cons] at fits ⊢
    have room : 10 * significand + (digit.toNat - '0'.toNat) < 1 <<< 64 :=
      Nat.lt_of_le_of_lt (le_of_digits _ rest) fits
    rw [absorb, if_pos room, inductionHypothesis fits]
    rfl

end Significands

section Scaling

/-- Scaling, as a function of its parts. Compared as functions the two sides are opened before a
number is looked at, which has no value as long as its parts have none. -/
theorem scale_eq : scale = fun significand power =>
    (Magnitude.ofNat? significand).bind fun magnitude =>
      if power < 0 then scaleDown magnitude (-power).toNat
      else if power ≤ 308 then (powerOfTen power.toNat).bind fun factor => magnitude.times? factor
      else if magnitude = .zero then some .zero
      else none := by
  delta scale
  rfl

/-- Dividing by a power of ten, as a function of its parts. -/
theorem scale_down_eq : scaleDown = fun magnitude power =>
    (divideRepeatedly ((power - 1) / 308) magnitude).bind fun magnitude =>
      (powerOfTen (power - 308 * ((power - 1) / 308))).bind fun divisor =>
        magnitude.over? divisor := by
  delta scaleDown
  rfl

/-- A small power of ten is divided by at once. -/
theorem scale_down_once {left right : Magnitude} {places : Nat} (few : places ≤ 22)
    (rounded : powerOfTen places = some right) : scaleDown left places = left.over? right := by
  have once : (places - 1) / 308 = 0 := by omega
  rw [scale_down_eq]
  dsimp only
  rw [once, Nat.mul_zero, Nat.sub_zero, rounded, divideRepeatedly, Option.bind_some,
    Option.bind_some]

/-- Dividing exact digits by an exact power of ten gives the magnitude nearest to the decimal. -/
theorem scale_short {digits places : Nat} (short : digits ≤ 2 ^ 53) (some : 0 < places)
    (few : places ≤ 22) : scale digits (-places) = Decimal.nearest? ⟨digits, -places⟩ := by
  obtain ⟨left, right, converted, rounded, divided⟩ := Decimal.over_ten short few
  have downward : -(places : Int) < 0 := by omega
  have back : (- -(places : Int)).toNat = places := by omega
  rw [scale_eq]
  dsimp only
  rw [converted, Option.bind_some, if_pos downward, back, scale_down_once few rounded, divided]

/-- A scaled number in range is the magnitude that scaling gives, with the sign. -/
theorem finish_some {significand : Nat} {power : Int} {magnitude : Magnitude}
    (scaled : scale significand power = some magnitude) (negative : Bool) (behind : List Char) :
    finishNumber negative significand power behind =
      .ok (.floating (.finite negative magnitude), behind) := by
  rw [finish_eq]
  dsimp only
  rw [scaled]

/-- Scaling takes nothing, and either makes a number or fails. -/
theorem finish_cases (negative : Bool) (significand : Nat) (power : Int) (behind : List Char) :
    (∃ number, finishNumber negative significand power behind = .ok (number, behind)) ∨
    ∃ failure, finishNumber negative significand power behind = .error failure := by
  rw [finish_eq]
  dsimp only
  cases scale significand power with
  | some magnitude => exact .inl ⟨_, rfl⟩
  | none => exact .inr ⟨_, rfl⟩

/-- An integer of 64 bits with its sign is the double nearest to it. -/
theorem whole_number (negative : Bool) (significand : Nat) :
    (wholeNumber negative significand).toBinary64 =
      .ofMagnitude? negative (Magnitude.ofNat? significand) := by
  unfold wholeNumber
  cases negative with
  | false =>
    have above : ¬ (significand : Int) < 0 := by omega
    simp only [Bool.false_eq_true, if_false, Numeral.toBinary64, Binary64.ofInt,
      Int.natAbs_natCast, above, decide_false]
  | true =>
    rw [if_pos rfl]
    split
    · rfl
    · rename_i inside
      have below : -(significand : Int) < 0 := by omega
      simp only [Numeral.toBinary64, Binary64.ofInt, Int.natAbs_neg, Int.natAbs_natCast, below,
        decide_true]

end Scaling

section Reading

variable {numeral : Number.Numeral} {behind : List Char}

/-- What ends a number is no digit. -/
theorem clear_digit (ends : Clear continuesNumber behind) : Clear Char.isDigit behind := by
  intro char member
  have outside := ends char member
  simp only [continuesNumber, Bool.or_eq_false_iff] at outside
  exact outside.1.1.1

/-- A sign is read before the digits, and where there is none the number begins with a digit. -/
theorem read_sign (plain : Plain numeral) :
    readNumber (numeral.chars ++ behind) =
      readUnsigned (decide (numeral.sign = ['-']))
        (numeral.whole ++ (numeral.point ++ behind)) := by
  obtain ⟨first, rest, starts, digit⟩ := numeral.whole_eq_cons
  have noMinus : first ≠ '-' := ne_of_class digit (by decide)
  rcases numeral.signed with none | minus | plus
  · rw [Number.Numeral.chars, none, starts]
    simp only [List.nil_append, List.cons_append, List.append_assoc]
    rw [readNumber]
    · rfl
    · simpa using noMinus
  · rw [Number.Numeral.chars, minus]
    simp [readNumber]
  · exact absurd plus plain.unsigned

/-- The digits in front of a numeral of a document are an integer of the grammar. -/
theorem whole_of_plain (plain : Plain numeral) : Whole numeral.whole := by
  obtain ⟨first, digits, starts, digit⟩ := numeral.whole_eq_cons
  rw [starts]
  by_cases zero : first = '0'
  · subst zero
    rw [plain.idle digits starts]
    exact .zero
  · refine .digits first digits digit zero fun char member => ?_
    exact numeral.whole_digits char (starts ▸ List.mem_cons_of_mem first member)

/-- An integer of the grammar begins with a digit, which is no idle zero, and is taken as far as its
digits go. -/
theorem front_digits {whole rest : List Char} (wholes : Whole whole)
    (ends : Clear Char.isDigit rest) :
    ∃ first digits, whole = first :: digits ∧ ¬ ¬ first.isDigit = true ∧
      ¬ (first = '0' ∧ (digits ++ rest).head?.any Char.isDigit = true) ∧
      (digits ++ rest).takeWhile Char.isDigit = digits ∧
      (digits ++ rest).dropWhile Char.isDigit = rest := by
  cases wholes with
  | zero =>
    refine ⟨'0', [], rfl, by decide, ?_, take_clear ends⟩
    rintro ⟨-, another⟩
    cases rest with
    | nil => cases another
    | cons next rest =>
      have outside : next.isDigit = false := ends next rfl
      simp [outside] at another
  | digits first digits digit positive all =>
    exact ⟨first, digits, rfl, not_not.mpr digit, fun idle => positive idle.1, take_run all ends⟩

/-- An integer is one of 64 bits if all of its digits are absorbed, and is scaled otherwise. -/
theorem read_whole (negative : Bool) {whole : List Char} (wholes : Whole whole)
    (ends : Clear continuesNumber behind) {significand count : Nat}
    (absorbed : absorb 0 whole = (significand, count)) :
    readUnsigned negative (whole ++ behind) =
      if (whole.length - count : Int) = 0 then .ok (wholeNumber negative significand, behind)
      else finishNumber negative significand (whole.length - count) behind := by
  obtain ⟨first, digits, rfl, digit, busy, taken, dropped⟩ :=
    front_digits wholes (clear_digit ends)
  rw [List.cons_append, readUnsigned, if_neg digit, if_neg busy]
  simp only [taken, dropped, absorbed]
  split
  · simp [Clear, continuesNumber] at ends
  · simp [Clear, continuesNumber] at ends
  · simp [Clear, continuesNumber] at ends
  · rfl

/-- Behind an integer with a point, the fraction is read. The digits of the integer that are not
absorbed count for the power of ten. -/
theorem read_point (negative : Bool) {whole : List Char} (wholes : Whole whole)
    {significand count : Nat} (absorbed : absorb 0 whole = (significand, count))
    (rest : List Char) :
    readUnsigned negative (whole ++ '.' :: rest) =
      readFraction negative significand (whole.length - count) rest := by
  have point : Clear Char.isDigit ('.' :: rest) := clear_cons (by decide)
  obtain ⟨first, digits, rfl, digit, busy, taken, dropped⟩ := front_digits wholes point
  rw [List.cons_append, readUnsigned, if_neg digit, if_neg busy]
  simp only [taken, dropped, absorbed]

/-- Behind a fraction without a power of ten, the number is scaled. -/
theorem read_scaled (negative : Bool) (significand : Nat) (power : Int)
    (ends : Clear continuesNumber behind) :
    readScaled negative significand power behind =
      finishNumber negative significand power behind := by
  unfold readScaled
  split
  · simp [Clear, continuesNumber] at ends
  · simp [Clear, continuesNumber] at ends
  · rfl

/-- The digits of a fraction are absorbed behind those of the integer, and count against the power
of ten. -/
theorem read_fraction (negative : Bool) (power : Int) {fraction rest : List Char}
    (digits : Digits fraction) (ends : Clear Char.isDigit rest) {significand final count : Nat}
    (absorbed : absorb significand fraction = (final, count)) :
    readFraction negative significand power (fraction ++ rest) =
      readScaled negative final (power - count) rest := by
  obtain ⟨taken, dropped⟩ := take_run digits.all ends
  obtain ⟨next, others, rfl⟩ := List.exists_cons_of_ne_nil digits.some
  have digit : next.isDigit = true := digits.all next List.mem_cons_self
  rw [List.cons_append] at taken dropped ⊢
  rw [readFraction]
  dsimp only
  rw [if_pos digit, taken, dropped, absorbed]

/-- A number with a fraction is scaled: the digits of the integer that are left out count for the
power of ten, and the digits of the fraction that are absorbed count against it. -/
theorem read_fractional (negative : Bool) (plain : Plain numeral) (some : numeral.fraction ≠ [])
    (ends : Clear continuesNumber behind) {significand count final further : Nat}
    (absorbed : absorb 0 numeral.whole = (significand, count))
    (rest : absorb significand numeral.fraction = (final, further)) :
    readUnsigned negative (numeral.whole ++ '.' :: (numeral.fraction ++ behind)) =
      finishNumber negative final (numeral.whole.length - count - further) behind := by
  rw [read_point negative (whole_of_plain plain) absorbed,
    read_fraction negative _ ⟨some, numeral.fraction_digits⟩ (clear_digit ends) rest,
    read_scaled negative final _ ends]

/-- The digits of a short numeral are all absorbed. -/
theorem absorb_short (short : Short numeral) :
    ∃ significand, absorb 0 numeral.whole = (significand, numeral.whole.length) ∧
      absorb significand numeral.fraction =
        (numeral.decimal.digits, numeral.fraction.length) := by
  have split : numeral.decimal.digits =
      Nat.ofDigitChars 10 numeral.fraction (Nat.ofDigitChars 10 numeral.whole 0) :=
    Nat.ofDigitChars_append ..
  have fits : numeral.decimal.digits < 2 ^ 64 := by
    rcases short with ⟨_, fits⟩ | ⟨fits, _⟩ <;> omega
  rw [split] at fits ⊢
  exact ⟨_, absorb_all (Nat.lt_of_le_of_lt (le_of_digits _ numeral.fraction) fits),
    absorb_all fits⟩

/-- Where a numeral is the whole number of a document, the reader takes exactly the numeral or
fails. -/
theorem read_plain (plain : Plain numeral) (ends : Clear continuesNumber behind) :
    (∃ number, readNumber (numeral.chars ++ behind) = .ok (number, behind)) ∨
    ∃ failure, readNumber (numeral.chars ++ behind) = .error failure := by
  rcases absorbed : absorb 0 numeral.whole with ⟨significand, count⟩
  rcases rest : absorb significand numeral.fraction with ⟨final, further⟩
  rw [read_sign plain, Number.Numeral.point]
  split
  · rw [List.nil_append, read_whole _ (whole_of_plain plain) ends absorbed]
    split
    · exact .inl ⟨_, rfl⟩
    · exact finish_cases _ _ _ _
  · rename_i some
    rw [List.cons_append, read_fractional _ plain some ends absorbed rest]
    exact finish_cases _ _ _ _

/-- A short integer is read as the value of the numeral: all of its digits are absorbed. -/
theorem read_short_integer (plain : Plain numeral) (short : Short numeral)
    (none : numeral.fraction = []) (ends : Clear continuesNumber behind) :
    ∃ number, readNumber (numeral.chars ++ behind) = .ok (number, behind) ∧
      number.toBinary64 = numeral.value := by
  obtain ⟨significand, whole, rest⟩ := absorb_short short
  have alone : numeral.point = [] := if_pos none
  rw [read_sign plain, alone, List.nil_append, read_whole _ (whole_of_plain plain) ends whole,
    if_pos (Int.sub_self _)]
  refine ⟨_, rfl, ?_⟩
  rw [none] at rest
  have digits : numeral.decimal = ⟨significand, 0⟩ := by
    rw [(Prod.mk.inj rest).1, Number.Numeral.decimal, none]
    rfl
  rw [whole_number, Number.Numeral.value, digits, Decimal.toBinary64, Decimal.nearest_whole]

/-- A short numeral with a fraction is read as its value: its digits and its power are exact. -/
theorem read_short_decimal (plain : Plain numeral) (short : Short numeral)
    (some : numeral.fraction ≠ []) (ends : Clear continuesNumber behind) :
    ∃ number, readNumber (numeral.chars ++ behind) = .ok (number, behind) ∧
      number.toBinary64 = numeral.value := by
  obtain ⟨significand, whole, rest⟩ := absorb_short short
  obtain ⟨digits, few⟩ := short.resolve_left fun integer => some integer.1
  have point : numeral.point = '.' :: numeral.fraction := if_neg some
  have places : (numeral.whole.length - numeral.whole.length - numeral.fraction.length : Int) =
      -numeral.fraction.length := by omega
  obtain ⟨magnitude, rounded⟩ := Decimal.nearest_short numeral.fraction.length digits
  have scaled := (scale_short digits (List.length_pos_iff.mpr some) few).trans rounded
  rw [read_sign plain, point, List.cons_append, read_fractional _ plain some ends whole rest,
    places, finish_some scaled]
  refine ⟨_, rfl, ?_⟩
  replace rounded : numeral.decimal.nearest? = Option.some magnitude := rounded
  rw [Number.Numeral.value, Decimal.toBinary64, rounded]
  rfl

/-- A short numeral is read, and the number that the reader makes of it is its value. -/
theorem read_short (plain : Plain numeral) (short : Short numeral)
    (ends : Clear continuesNumber behind) :
    ∃ number, readNumber (numeral.chars ++ behind) = .ok (number, behind) ∧
      number.toBinary64 = numeral.value := by
  by_cases none : numeral.fraction = []
  · exact read_short_integer plain short none ends
  · exact read_short_decimal plain short none ends

end Reading

section Values

/-- A number begins with a minus sign or a digit. -/
def beginsNumber (char : Char) : Bool := char == '-' || char.isDigit

/-- A number begins with no blank. -/
theorem space_of_begins {char : Char} (begins : beginsNumber char = true) :
    isSpace char = false := by
  cases blank : isSpace char with
  | false => rfl
  | true =>
    simp only [isSpace, Bool.or_eq_true, beq_iff_eq] at blank
    obtain ((rfl | rfl) | rfl) | rfl := blank <;> exact absurd begins (by decide)

/-- A numeral without a plus sign begins as a number of a document does. -/
theorem first_plain {numeral : Number.Numeral} (plain : Plain numeral) :
    ∃ first rest, numeral.chars = first :: rest ∧ beginsNumber first = true := by
  obtain ⟨digit, rest, starts, isDigit⟩ := numeral.whole_eq_cons
  rcases numeral.signed with none | minus | plus
  · exact ⟨digit, rest ++ numeral.point, by simp [Number.Numeral.chars, none, starts],
      by simp [beginsNumber, isDigit]⟩
  · exact ⟨'-', numeral.whole ++ numeral.point, by simp [Number.Numeral.chars, minus], rfl⟩
  · exact absurd plus plain.unsigned

/-- A value that begins as a number does is read as one, whatever containers are read by. -/
theorem plain_begun (list object : Reader Json) {text rest : List Char} {first : Char}
    (shown : skipSpace text = first :: rest) (begins : beginsNumber first = true) :
    readPlain list object text = (do
      let (value, rest) ← readNumber (first :: rest)
      return (.number value, rest)) := by
  have noNull : first ≠ 'n' := ne_of_class begins (by decide)
  have noTrue : first ≠ 't' := ne_of_class begins (by decide)
  have noFalse : first ≠ 'f' := ne_of_class begins (by decide)
  have numeric : first = '-' ∨ first.isDigit = true := by simpa [beginsNumber] using begins
  rw [readPlain, shown]
  dsimp only
  rw [if_neg noNull, if_neg noTrue, if_neg noFalse, if_pos numeric]

/-- A value that begins as a number does is read as one, however deep it stands. -/
theorem read_begun (allowance : Nat) {text rest : List Char} {first : Char}
    (shown : skipSpace text = first :: rest) (begins : beginsNumber first = true) :
    readValue allowance text = (do
      let (value, rest) ← readNumber (first :: rest)
      return (.number value, rest)) := by
  cases allowance with
  | zero => exact plain_begun _ _ shown begins
  | succ allowance => exact plain_begun _ _ shown begins

end Values

end RecordRules.JsonNumerals
