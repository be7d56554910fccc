import RecordRules.Json.Numeral
import RecordRules.Proofs.Json.Strings

/-!
# What readers of documents take

A reader that succeeds takes characters off the front of its text, and what it takes is a phrase of
the grammar. A reader that fails does so for a reason of its own: none of them fails because of
characters behind a value, which only the reader of a whole document looks at.

Both facts are one statement about what comes of a reader. Readers in a row take what each of them
takes, so the statement is proved reader by reader. Here are the readers of words, of strings and of
numbers.
-/

namespace RecordRules.JsonTaking

open Number Json JsonSyntax JsonScalars

variable {α β : Type}

/-- What comes of reading the front of a text: a value, with characters taken off the front, or a
failure that is not about characters behind a value. -/
inductive Took (text : List Char) (holds : α → List Char → List Char → Prop) :
    Except Failure (α × List Char) → Prop
  | ok (value : α) (front rest : List Char) (split : text = front ++ rest)
      (held : holds value front rest) : Took text holds (.ok (value, rest))
  | error (failure : Failure) (inside : failure.cause ≠ .grammar .trailingCharacters) :
      Took text holds (.error failure)

section Combining

variable {text : List Char} {holds : α → List Char → List Char → Prop}

/-- What holds of less holds of more. -/
theorem took_mono {result : Except Failure (α × List Char)}
    {held : α → List Char → List Char → Prop} (took : Took text held result)
    (weaker : ∀ value front rest, held value front rest → holds value front rest) :
    Took text holds result := by
  cases took with
  | ok value front rest split held => exact .ok value front rest split (weaker _ _ _ held)
  | error failure inside => exact .error failure inside

/-- What is taken off a text is its front, with the rest left behind. -/
theorem took_known {result : Except Failure (α × List Char)} (took : Took text holds result) :
    Took text (fun value front rest =>
      (text = front ++ rest ∧ result = .ok (value, rest)) ∧ holds value front rest) result := by
  cases took with
  | ok value front rest split held => exact .ok value front rest split ⟨⟨split, rfl⟩, held⟩
  | error failure inside => exact .error failure inside

/-- Nothing is taken off a text by a value that is there already. -/
theorem took_nothing (value : α) (held : holds value [] text) :
    Took text holds (.ok (value, text)) :=
  .ok value [] text rfl held

/-- What is taken behind some characters is taken with them. -/
theorem took_behind {result : Except Failure (α × List Char)} (front : List Char)
    (took : Took text (fun value back rest => holds value (front ++ back) rest) result) :
    Took (front ++ text) holds result := by
  cases took with
  | ok value back rest split held =>
    exact .ok value (front ++ back) rest (by rw [split, List.append_assoc]) held
  | error failure inside => exact .error failure inside

/-- What is taken behind the front of a text is taken with it. -/
theorem took_split {result : Except Failure (α × List Char)} {front rest : List Char}
    (split : text = front ++ rest)
    (took : Took rest (fun value back behind => holds value (front ++ back) behind) result) :
    Took text holds result := by
  subst split
  exact took_behind front took

/-- What is taken behind the blanks at the front of a text is taken with them. -/
theorem took_skip {result : Except Failure (α × List Char)}
    (took : Took (skipSpace text)
      (fun value back rest => holds value (text.takeWhile isSpace ++ back) rest) result) :
    Took text holds result :=
  took_split (List.takeWhile_append_dropWhile).symm took

/-- Two readers in a row take what the one takes and then the other. -/
theorem took_bind {first : Except Failure (α × List Char)}
    {next : α × List Char → Except Failure (β × List Char)}
    {held : α → List Char → List Char → Prop} {holds : β → List Char → List Char → Prop}
    (took : Took text held first)
    (later : ∀ value front rest, held value front rest →
      Took rest (fun result back behind => holds result (front ++ back) behind)
        (next (value, rest))) :
    Took text holds (first >>= next) := by
  cases took with
  | ok value front rest split held =>
    subst split
    exact took_behind front (later value front rest held)
  | error failure inside => exact .error failure inside

end Combining

section Literals

/-- The letters of a word are taken as they stand. -/
theorem took_word (value : α) (letters text : List Char) :
    Took text (fun result front _ => result = value ∧ front = letters)
      (readWord value letters text) := by
  induction letters generalizing text with
  | nil => exact took_nothing value ⟨rfl, rfl⟩
  | cons letter letters inductionHypothesis =>
    cases text with
    | nil => exact .error _ (by simp [Failure.behind])
    | cons next rest =>
      rw [readWord]
      split
      · rename_i same
        subst same
        refine took_behind [next] (took_mono (inductionHypothesis rest) ?_)
        rintro _ _ _ ⟨rfl, rfl⟩
        exact ⟨rfl, rfl⟩
      · exact .error _ (by simp [Failure.atNext])

/-- A code unit is four hexadecimal digits. -/
theorem took_unit (text : List Char) :
    Took text (fun unit front _ => IsUnit front unit) (readUnit text) := by
  unfold readUnit
  split
  · exact .error _ (by simp [Failure.behind])
  · rename_i long
    split
    · rename_i unit valued
      have hexadecimal := hex_of_values valued
      refine .ok unit (text.take 4) (text.drop 4) (List.take_append_drop 4 text).symm
        ⟨?_, valued⟩
      rw [List.length_take]
      rcases Nat.lt_or_ge text.length 4 with short | enough
      · rw [List.take_of_length_le (by omega)] at hexadecimal
        rw [length_bytes_hex hexadecimal] at long
        exact absurd short long
      · omega
    · exact .error _ (by simp [Failure.behind])

/-- Behind a leading surrogate, the code unit that makes a character with it is taken. -/
theorem took_trailing (leading : Nat) (text : List Char) :
    Took text (fun char front _ => ∃ digits trailing,
        (IsUnit digits trailing ∧ IsTrailing trailing) ∧ front = '\\' :: 'u' :: digits ∧
          char = surrogatePair leading trailing)
      (readTrailing leading text) := by
  unfold readTrailing
  split
  · rename_i text
    refine took_behind ['\\', 'u'] (took_bind (took_unit text) ?_)
    intro trailing digits rest isUnit
    dsimp only
    split
    · rename_i isTrailing
      exact took_nothing _ ⟨digits, trailing, ⟨isUnit, isTrailing⟩, by simp, rfl⟩
    · exact .error _ (by simp [Failure.behind])
  all_goals exact .error _ (by simp [Failure.behind, Failure.atNext])

/-- An escape is taken with the backslash in front of it. -/
theorem took_escape (text : List Char) :
    Took text (fun char front _ => Means ('\\' :: front) [char]) (readEscape text) := by
  unfold readEscape
  split
  · exact .error _ (by simp [Failure.behind])
  · rename_i text
    refine took_behind ['u'] (took_bind (took_unit text) ?_)
    intro unit digits rest isUnit
    dsimp only
    split
    · exact .error _ (by simp [Failure.behind])
    rename_i noTrailing
    split
    · rename_i isLeading
      refine took_mono (took_trailing unit rest) ?_
      rintro char _ _ ⟨others, trailing, isTrailing, rfl, known⟩
      have pair :=
        Means.pair digits others [] [] unit trailing ⟨isUnit, isLeading⟩ isTrailing .finished
      rw [← known] at pair
      simpa using pair
    · rename_i noLeading
      have single := Means.unit digits [] [] unit isUnit noLeading noTrailing .finished
      exact took_nothing _ (by simpa using single)
  · rename_i letter text _
    split
    · rename_i char known
      exact took_behind [letter] (took_nothing char (.escape letter char [] [] known .finished))
    · exact .error _ (by simp [Failure.atNext])

/-- What stands in front of a closing quote, with the quote. -/
def Closed (chars front : List Char) : Prop :=
  ∃ content, Means content chars ∧ front = content ++ ['"']

/-- More of a string may stand in front of what a quote closes. -/
theorem closed_append {chars others first second : List Char} (means : Means first chars)
    (closed : Closed others second) : Closed (chars ++ others) (first ++ second) := by
  obtain ⟨later, meansLater, rfl⟩ := closed
  exact ⟨first ++ later, means_append means meansLater, (List.append_assoc _ _ _).symm⟩

/-- The characters of a string are taken up to its closing quote. -/
theorem took_characters (bound : Nat) (text : List Char) :
    Took text (fun chars front _ => Closed chars front) (readCharacters bound text) := by
  induction bound generalizing text with
  | zero => exact .error _ (by simp [Failure.behind])
  | succ bound inductionHypothesis =>
    unfold readCharacters
    split
    · exact .error _ (by simp [Failure.behind])
    · exact took_behind ['"'] (took_nothing [] ⟨[], .finished, rfl⟩)
    · rename_i escape
      refine took_behind ['\\'] (took_bind (took_escape escape) fun char front rest escaped => ?_)
      refine took_bind (inductionHypothesis rest) fun chars back behind closed => ?_
      refine took_nothing _ ?_
      simpa using closed_append escaped closed
    · rename_i char rest noQuote noEscape
      split
      · exact .error _ (by simp [Failure.atNext])
      · rename_i visible
        refine took_behind [char] (took_bind (inductionHypothesis rest) ?_)
        intro chars back behind closed
        refine took_nothing _ ?_
        have plain : Means [char] [char] := .plain char [] [] noQuote noEscape visible .finished
        simpa using closed_append plain closed

/-- A string is taken up to its closing quote. -/
theorem took_string (text : List Char) :
    Took text (fun content front _ => Closed content.toList front) (readString text) := by
  refine took_bind (took_characters _ text) fun chars front rest closed => ?_
  exact took_nothing _ (by simpa using closed)

end Literals

section Numerals

/-- Where a digit stands first, the digits at the front are at least one. -/
theorem digits_of_first {first : Char} {rest : List Char} (digit : first.isDigit = true) :
    Digits ((first :: rest).takeWhile Char.isDigit) :=
  ⟨by simp [digit], List.all_eq_true.mp List.all_takeWhile⟩

/-- A scaled number, as a function of its parts. Compared as a function it is opened before the
scaled magnitude is looked at, which has no value as long as its parts have none. -/
theorem finish_eq : finishNumber = fun negative significand power rest =>
    match scale significand power with
    | some magnitude => .ok (.floating (.finite negative magnitude), rest)
    | none => .error (.behind .numberOutOfRange rest) := by
  delta finishNumber
  rfl

/-- Scaling a number takes nothing. -/
theorem took_finish (negative : Bool) (significand : Nat) (power : Int) (text : List Char) :
    Took text (fun _ front _ => front = []) (finishNumber negative significand power text) := by
  rw [finish_eq]
  dsimp only
  cases scale significand power with
  | some magnitude => exact took_nothing _ rfl
  | none => exact .error _ (by simp [Failure.behind])

/-- The digits of a power of ten are taken as far as the power fits. -/
theorem power_digits (value : Nat) (text : List Char) :
    match readPowerDigits value text with
    | .ok (_, rest) => rest = text.dropWhile Char.isDigit
    | .error rest => rest.dropWhile Char.isDigit = text.dropWhile Char.isDigit := by
  induction text generalizing value with
  | nil => rfl
  | cons digit rest inductionHypothesis =>
    rw [readPowerDigits]
    by_cases isDigit : digit.isDigit = true
    · rw [if_pos isDigit, List.dropWhile_cons_of_pos isDigit]
      dsimp only
      by_cases fits : 10 * value + (digit.toNat - '0'.toNat) < 1 <<< 31
      · rw [if_pos fits]
        exact inductionHypothesis _
      · rw [if_neg fits]
    · rw [if_neg isDigit, List.dropWhile_cons_of_neg isDigit]

/-- Behind its mark, a power of ten begins with a sign or without one. -/
theorem sign_of_power (text : List Char) :
    ∃ sign, (sign = [] ∨ sign = ['-'] ∨ sign = ['+']) ∧
      text = sign ++ (if text.head? = some '-' ∨ text.head? = some '+' then text.tail
        else text) := by
  cases text with
  | nil => exact ⟨[], .inl rfl, rfl⟩
  | cons first rest =>
    by_cases signed : first = '-' ∨ first = '+'
    · exact ⟨[first], by rcases signed with rfl | rfl <;> simp, by simp [signed]⟩
    · exact ⟨[], .inl rfl, by simp [signed]⟩

/-- A power of ten is taken with its sign. -/
theorem took_power (negative : Bool) (significand : Nat) (power : Int) (text : List Char) :
    Took text (fun _ front _ => SignedDigits front)
      (readPower negative significand power text) := by
  obtain ⟨sign, signed, split⟩ := sign_of_power text
  refine took_split split ?_
  unfold readPower
  dsimp only
  generalize (if text.head? = some '-' ∨ text.head? = some '+' then text.tail else text) = unsigned
  cases unsigned with
  | nil => exact .error _ (by simp [Failure.behind])
  | cons digit rest =>
    dsimp only
    by_cases isDigit : digit.isDigit = true
    · rw [if_pos isDigit]
      have taken : SignedDigits (sign ++ (digit :: rest).takeWhile Char.isDigit) :=
        .digits sign _ signed (digits_of_first isDigit)
      have whole : digit :: rest =
          (digit :: rest).takeWhile Char.isDigit ++ rest.dropWhile Char.isDigit := by
        rw [← List.dropWhile_cons_of_pos (l := rest) isDigit, List.takeWhile_append_dropWhile]
      refine took_split whole ?_
      have digits := power_digits (digit.toNat - '0'.toNat) rest
      generalize readPowerDigits (digit.toNat - '0'.toNat) rest = result at digits
      cases result with
      | ok pair =>
        obtain ⟨value, behind⟩ := pair
        obtain rfl : behind = rest.dropWhile Char.isDigit := digits
        refine took_mono (took_finish _ _ _ _) fun _ front _ nothing => ?_
        rw [nothing, List.append_nil]
        exact taken
      | error behind =>
        replace digits : behind.dropWhile Char.isDigit = rest.dropWhile Char.isDigit := digits
        dsimp only
        split
        · exact .error _ (by simp [Failure.behind])
        · rw [digits]
          exact took_nothing _ (by rw [List.append_nil]; exact taken)
    · rw [if_neg isDigit]
      exact .error _ (by simp [Failure.atNext])

/-- A power of ten is taken with its mark, if there is one. -/
theorem took_scaled (negative : Bool) (significand : Nat) (power : Int) (text : List Char) :
    Took text (fun _ front _ => Power front) (readScaled negative significand power text) := by
  unfold readScaled
  split
  · exact took_behind ['e'] (took_mono (took_power _ _ _ _) fun _ front _ signed =>
      .power 'e' front (.inl rfl) signed)
  · exact took_behind ['E'] (took_mono (took_power _ _ _ _) fun _ front _ signed =>
      .power 'E' front (.inr rfl) signed)
  · exact took_mono (took_finish _ _ _ _) fun _ front _ nothing => nothing ▸ .none

/-- What stands behind the integer of a number. -/
def Scales (front : List Char) : Prop :=
  ∃ fraction power, Fraction fraction ∧ Power power ∧ front = fraction ++ power

/-- A fraction is taken with the power of ten behind it. -/
theorem took_fraction (negative : Bool) (significand : Nat) (power : Int) (text : List Char) :
    Took text (fun _ front _ => Scales ('.' :: front))
      (readFraction negative significand power text) := by
  unfold readFraction
  cases text with
  | nil => exact .error _ (by simp [Failure.atNext])
  | cons next rest =>
    dsimp only
    split
    · rename_i digit
      refine took_split (List.takeWhile_append_dropWhile (p := Char.isDigit)).symm ?_
      exact took_mono (took_scaled _ _ _ _) fun _ front _ powers =>
        ⟨_, front, .digits _ (digits_of_first digit), powers, rfl⟩
    · exact .error _ (by simp [Failure.atNext])

/-- A number without its sign. -/
def Unsigned (front : List Char) : Prop :=
  ∃ whole fraction power, Whole whole ∧ Fraction fraction ∧ Power power ∧
    front = whole ++ (fraction ++ power)

/-- The digits at the front are an integer, unless they begin with an idle zero. -/
theorem whole_of_digits {first : Char} {rest : List Char} (digit : first.isDigit = true)
    (busy : ¬ (first = '0' ∧ rest.head?.any Char.isDigit = true)) :
    Whole (first :: rest.takeWhile Char.isDigit) := by
  by_cases zero : first = '0'
  · subst zero
    cases rest with
    | nil => exact .zero
    | cons next rest =>
      rw [List.takeWhile_cons_of_neg (by simpa using busy)]
      exact .zero
  · exact .digits first _ digit zero (List.all_eq_true.mp List.all_takeWhile)

/-- A number is taken behind its sign. -/
theorem took_unsigned (negative : Bool) (text : List Char) :
    Took text (fun _ front _ => Unsigned front) (readUnsigned negative text) := by
  unfold readUnsigned
  cases text with
  | nil => exact .error _ (by simp [Failure.behind])
  | cons first text =>
    dsimp only
    split
    · exact .error _ (by simp [Failure.atNext])
    rename_i digit
    replace digit : first.isDigit = true := by simpa using digit
    split
    · exact .error _ (by simp [Failure.atNext])
    rename_i busy
    have whole : first :: text = first :: text.takeWhile Char.isDigit ++
        text.dropWhile Char.isDigit := by
      rw [List.cons_append, List.takeWhile_append_dropWhile]
    have scales : ∀ (value : Json.Numeral) front (rest : List Char), Scales front →
        Unsigned (first :: text.takeWhile Char.isDigit ++ front) := by
      rintro _ front _ ⟨fraction, power, fractions, powers, rfl⟩
      exact ⟨_, fraction, power, whole_of_digits digit busy, fractions, powers, rfl⟩
    refine took_split whole (took_mono ?_ scales)
    split
    · rename_i rest behind
      rw [behind]
      exact took_behind ['.'] (took_fraction _ _ _ _)
    · rename_i rest behind
      rw [behind]
      exact took_behind ['e'] (took_mono (took_power _ _ _ _) fun _ front _ signed =>
        ⟨[], _, .none, .power 'e' front (.inl rfl) signed, rfl⟩)
    · rename_i rest behind
      rw [behind]
      exact took_behind ['E'] (took_mono (took_power _ _ _ _) fun _ front _ signed =>
        ⟨[], _, .none, .power 'E' front (.inr rfl) signed, rfl⟩)
    · split
      · exact took_nothing _ ⟨[], [], .none, .none, rfl⟩
      · exact took_mono (took_finish _ _ _ _) fun _ front _ nothing =>
          ⟨[], [], .none, .none, nothing⟩

/-- A number is taken. -/
theorem took_number (text : List Char) :
    Took text (fun _ front _ => IsNumber front) (readNumber text) := by
  unfold readNumber
  split
  · refine took_behind ['-'] (took_mono (took_unsigned _ _) fun _ front _ unsigned => ?_)
    obtain ⟨whole, fraction, power, wholes, fractions, powers, rfl⟩ := unsigned
    exact .number ['-'] whole fraction power (.inr rfl) wholes fractions powers
  · refine took_mono (took_unsigned _ _) fun _ front _ unsigned => ?_
    obtain ⟨whole, fraction, power, wholes, fractions, powers, rfl⟩ := unsigned
    exact .number [] whole fraction power (.inl rfl) wholes fractions powers

end Numerals

end RecordRules.JsonTaking
