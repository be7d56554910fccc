import RecordRules.Proofs.Condition.Lexing
import RecordRules.Proofs.Condition.Offsets
import RecordRules.Proofs.Text.Places

/-!
# Passes over a text cut it into its pieces

Reading a text by its offsets comes to the same words and the same errors as cutting it into pieces,
and none of the checks on the way fails, as long as lines and columns can be counted.

A reader stands between what was read and what is ahead; the offset is the number of characters
that were read. Every reading then says what it moves from ahead to behind, and that is what the
piece says which is cut off there. Three checks need more than that. A bracket is open wherever
one is closed, since a list literal is complete with the last of them. What is taken for a number is
a numeral, which is never refused. And every slice ends where the reader stands.
-/

namespace RecordRules.Passes

open Number Text Lexeme Characters Spelling Cutting Lexing Offsets

/-- Lines and columns can be counted along a text, and these are the places behind its
beginnings. -/
def Counts (count : Nat → Option Nat) (place : List Char → Place) (text : List Char) : Prop :=
  ∀ before char behind, before ++ char :: behind = text →
    step? count (place before) char = some (place (before ++ [char]))

/-- The reader behind some characters of a text and in front of the others. -/
def between (place : List Char → Place) (before ahead : List Char) : Reader :=
  ⟨before ++ ahead, before.length, place before⟩

section Standing

variable {place : List Char → Place}

/-- What is ahead begins at the offset. -/
theorem current_between (before ahead : List Char) :
    (between place before ahead).current = ahead.head? := by
  simp [Reader.current, between, List.getElem?_append_right, List.head?_eq_getElem?]

/-- The character behind the first one ahead. -/
theorem following_between (before : List Char) (first : Char) (rest : List Char) :
    (between place before (first :: rest)).following = rest.head? := by
  simp [Reader.following, between, List.getElem?_append_right, List.head?_eq_getElem?]

/-- What was read since an offset is the slice that ends where the reader stands. -/
theorem slice_between {begun : Nat} {before : List Char} (early : begun ≤ before.length)
    (ahead : List Char) :
    (between place before ahead).slice? begun (between place before ahead).offset =
      some (before.drop begun) := by
  have bounds : begun ≤ (between place before ahead).offset ∧
      (between place before ahead).offset ≤ (between place before ahead).chars.length := by
    simp only [between, List.length_append]
    omega
  rw [Reader.slice?, if_pos bounds]
  simp [between]

end Standing

/-- What a reading comes to, as the content of a piece. -/
def contentOf : Except SyntaxError.Cause Token.Kind → Piece.Content
  | .ok kind => .word kind
  | .error cause => .fault cause

/-- A reading that began behind some characters comes to a piece and stands behind it. -/
def Reads (place : List Char → Place) (before : List Char) (reading : Reading)
    (cut : Piece × List Char) : Prop :=
  ∃ found, cut.1.content = contentOf found ∧
    reading = some (found, between place (before ++ cut.1.chars) cut.2)

section Agreeing

variable {count : Nat → Option Nat} {place : List Char → Place} {text : List Char}
  (counts : Counts count place text)

include counts

/-- Reading a character moves it behind. -/
theorem advance_between {before rest : List Char} {char : Char}
    (whole : before ++ char :: rest = text) :
    (between place before (char :: rest)).advance count =
      some (between place (before ++ [char]) rest) := by
  have counted := counts before char rest whole
  rw [Reader.advance, current_between, List.head?_cons]
  simp [between, counted]

/-- The run of a class is what is taken while the class lasts. -/
theorem takeRun_between (among : Char → Bool) {before ahead : List Char}
    (whole : before ++ ahead = text) :
    takeRun count among (between place before ahead) =
      some (ahead.takeWhile among,
        between place (before ++ ahead.takeWhile among) (ahead.dropWhile among)) := by
  induction ahead generalizing before with
  | nil =>
    rw [takeRun_end (current_between before []), List.takeWhile_nil, List.dropWhile_nil,
      List.append_nil]
  | cons char rest inductionHypothesis =>
    rw [takeRun_at (current_between before (char :: rest)), advance_between counts whole,
      Option.bind_some, inductionHypothesis (by rw [List.append_assoc]; exact whole)]
    by_cases inside : among char = true
    · simp [inside]
    · simp [inside]

/-- A text literal ends at the quote at which it is split. -/
theorem takeText_between (content : List Char) {before ahead : List Char}
    (whole : before ++ ahead = text) :
    takeUntil count textStep content (between place before ahead) =
      some (match splitText ahead with
        | some (later, behind) =>
          (some (content ++ later), between place (before ++ (later ++ ['"'])) behind)
        | none => (none, between place (before ++ ahead) [])) := by
  induction ahead generalizing before content with
  | nil =>
    rw [takeUntil_end (current_between before []), List.append_nil]
    rfl
  | cons char rest inductionHypothesis =>
    have later := inductionHypothesis (content ++ [char])
      (show (before ++ [char]) ++ rest = text by rw [List.append_assoc]; exact whole)
    rw [takeUntil_at (current_between before (char :: rest)), advance_between counts whole,
      Option.bind_some, textStep, splitText]
    by_cases quote : char = '"'
    · subst quote
      simp
    · simp only [if_neg quote, Option.bind_some, later]
      cases splitText rest <;> simp

/-- Where a list literal that was begun at an offset is split, seen from behind some characters
of it. -/
def listEnd (place : List Char → Place) (begun : Nat) (before ahead : List Char) :
    Option (List Char × List Char) → Option (List Char) × Reader
  | some (literal, behind) =>
    (some ((before ++ literal).drop begun), between place (before ++ literal) behind)
  | none => (none, between place (before ++ ahead) [])

omit counts in
/-- A character in front of a split was read before the characters behind it. -/
theorem listEnd_extend (begun : Nat) (before : List Char) (char : Char) (rest : List Char)
    (split : Option (List Char × List Char)) :
    listEnd place begun before (char :: rest) (splitList.extend char split) =
      listEnd place begun (before ++ [char]) rest split := by
  cases split <;> simp [listEnd, splitList.extend]

/-- A list literal with an open bracket ends at the bracket at which it is split. -/
theorem takeList_between {begun : Nat} {before ahead : List Char}
    (early : begun ≤ before.length) (whole : before ++ ahead = text) (others : Nat)
    (mode : ListMode) :
    takeUntil count (listStep begun) (others + 1, mode) (between place before ahead) =
      some (listEnd place begun before ahead (splitList (others + 1) mode ahead)) := by
  induction ahead generalizing before others mode with
  | nil =>
    rw [takeUntil_end (current_between before [])]
    cases mode <;> simp [splitList, listEnd]
  | cons char rest inductionHypothesis =>
    have later := fun others mode => inductionHypothesis
      (show begun ≤ (before ++ [char]).length by rw [List.length_append]; omega)
      (show (before ++ [char]) ++ rest = text by rw [List.append_assoc]; exact whole)
      others mode
    rw [takeUntil_at (current_between before (char :: rest)), advance_between counts whole,
      Option.bind_some]
    cases mode with
    | escaped => simp only [listStep, Option.bind_some, later, splitList, listEnd_extend]
    | inString =>
      simp only [listStep, splitList]
      split
      · simp only [Option.bind_some, later, listEnd_extend]
      · split <;> simp only [Option.bind_some, later, listEnd_extend]
    | bare =>
      simp only [listStep, splitList]
      split
      · simp only [Option.bind_some, later, listEnd_extend]
      · split
        · simp only [Option.bind_some, later, listEnd_extend]
        · split
          · rename_i closing
            subst closing
            simp only [decrement?, Option.bind_eq_bind, Option.bind_some]
            cases others with
            | zero =>
              have within : begun ≤ (before ++ [']']).length := by
                rw [List.length_append]
                omega
              simp only [if_true, slice_between within, Option.map_some, Option.bind_some,
                Nat.zero_add, listEnd]
            | succ others =>
              have still : ¬ others + 1 = 0 := Nat.succ_ne_zero others
              have inner : ¬ others + 1 + 1 = 1 := by omega
              simp only [if_neg still, if_neg inner, Option.bind_some, later, listEnd_extend,
                Nat.add_sub_cancel]
          · simp only [Option.bind_some, later, listEnd_extend]

omit counts in
/-- A symbol that is found is cut off, if no blank stands first. -/
theorem split_of_symbol {first : Char} {rest chars behind : List Char} {kind : Token.Kind}
    (shown : isBlank first = false)
    (found : Piece.splitSymbol (first :: rest) = some (kind, chars, behind)) :
    Piece.split first rest = (⟨chars, .word kind⟩, behind) := by
  simp [Piece.split, shown, found]

/-- A symbol of one character is read as it is cut off. -/
theorem reads_symbol {kind : Token.Kind} {before rest : List Char} {first : Char}
    (shown : isBlank first = false)
    (found : Piece.splitSymbol (first :: rest) = some (kind, [first], rest))
    (whole : before ++ first :: rest = text) :
    Reads place before (readSymbol count kind (between place before (first :: rest)))
      (Piece.split first rest) := by
  rw [split_of_symbol shown found]
  refine ⟨.ok kind, rfl, ?_⟩
  rw [readSymbol, advance_between counts whole, Option.map_some]

/-- A symbol of two characters is read as it is cut off, once the first of them was read. -/
theorem reads_pair {kind : Token.Kind} {before behind : List Char} {first second : Char}
    (shown : isBlank first = false)
    (found : Piece.splitSymbol (first :: second :: behind) = some (kind, [first, second], behind))
    (whole : before ++ first :: second :: behind = text) :
    Reads place before
      (readSymbol count kind (between place (before ++ [first]) (second :: behind)))
      (Piece.split first (second :: behind)) := by
  rw [split_of_symbol shown found]
  refine ⟨.ok kind, rfl, ?_⟩
  rw [readSymbol, advance_between counts (by rw [List.append_assoc]; exact whole),
    Option.map_some, List.append_assoc]
  rfl

omit counts in
/-- A text that begins with a character is that character and something behind it. -/
theorem eq_cons_of_head {text : List Char} {first : Char} (starts : text.head? = some first) :
    ∃ rest, text = first :: rest := by
  cases text with
  | nil => cases starts
  | cons char rest => exact ⟨rest, by rw [Option.some.inj starts]⟩

/-- A sign of order is read with the equals sign behind it, if there is one. -/
theorem reads_order {alone joined : Token.Kind} {before rest : List Char} {first : Char}
    (shown : isBlank first = false)
    (pair : ∀ behind,
      Piece.splitSymbol (first :: '=' :: behind) = some (joined, [first, '='], behind))
    (single : ∀ rest, rest.head? ≠ some '=' →
      Piece.splitSymbol (first :: rest) = some (alone, [first], rest))
    (whole : before ++ first :: rest = text) :
    Reads place before (readOrder count alone joined (between place before (first :: rest)))
      (Piece.split first rest) := by
  simp only [readOrder, advance_between counts whole, Option.bind_eq_bind, Option.bind_some,
    current_between]
  split
  · rename_i equals
    obtain ⟨behind, rfl⟩ := eq_cons_of_head equals
    exact reads_pair counts shown (pair behind) whole
  · rename_i other
    rw [split_of_symbol shown (single rest other)]
    exact ⟨.ok alone, rfl, rfl⟩

/-- A sign of equality is read with the character behind it, or is no word. -/
theorem reads_equality {strict loose : Token.Kind} {before rest : List Char} {first : Char}
    (shown : isBlank first = false)
    (equals : ∀ behind,
      Piece.splitSymbol (first :: '=' :: behind) = some (strict, [first, '='], behind))
    (matching : ∀ behind,
      Piece.splitSymbol (first :: '~' :: behind) = some (loose, [first, '~'], behind))
    (alone : rest.head? ≠ some '=' → rest.head? ≠ some '~' → Piece.split first rest =
      (⟨[first], .fault (.unrecognized (String.singleton first))⟩, rest))
    (whole : before ++ first :: rest = text) :
    Reads place before
      (readEquality count first strict loose (between place before (first :: rest)))
      (Piece.split first rest) := by
  simp only [readEquality, advance_between counts whole, Option.bind_eq_bind, Option.bind_some,
    current_between]
  split
  · rename_i found
    obtain ⟨behind, rfl⟩ := eq_cons_of_head found
    exact reads_pair counts shown (equals behind) whole
  · rename_i noEquals
    split
    · rename_i found
      obtain ⟨behind, rfl⟩ := eq_cons_of_head found
      exact reads_pair counts shown (matching behind) whole
    · rename_i noTilde
      rw [alone noEquals noTilde]
      exact ⟨.error _, rfl, rfl⟩

/-- A text literal is read as it is cut off. One that is not closed takes all that is left. -/
theorem reads_text {before rest : List Char} (whole : before ++ '"' :: rest = text) :
    Reads place before (readText count (between place before ('"' :: rest)))
      (Piece.ofText rest) := by
  have later : (before ++ ['"']) ++ rest = text := by rw [List.append_assoc]; exact whole
  simp only [readText, advance_between counts whole, Option.bind_eq_bind, Option.bind_some,
    takeText_between counts [] later, Piece.ofText]
  cases splitText rest with
  | some parts =>
    refine ⟨.ok _, rfl, ?_⟩
    simp [List.append_assoc]
  | none =>
    have atEnd : (between place (before ++ ['"'] ++ rest) []).chars.length =
        (between place (before ++ ['"'] ++ rest) []).offset := by simp [between]
    have early : before.length ≤ (before ++ ['"'] ++ rest).length := by
      simp only [List.length_append]
      omega
    have begun : (between place before ('"' :: rest)).offset = before.length := rfl
    refine ⟨.error _, rfl, ?_⟩
    rw [atEnd, begun, slice_between early]
    simp

/-- A list literal is read as it is cut off. With its first bracket one is open, and one stays open
until it is complete. -/
theorem reads_list {before rest : List Char} (whole : before ++ '[' :: rest = text) :
    Reads place before (readList count (between place before ('[' :: rest)))
      (Piece.ofList ('[' :: rest)) := by
  have later : (before ++ ['[']) ++ rest = text := by rw [List.append_assoc]; exact whole
  have early : before.length ≤ (before ++ ['[']).length := by simp
  have begun : (between place before ('[' :: rest)).offset = before.length := rfl
  have noQuote : ('[' : Char) ≠ '"' := by decide
  rw [readList, takeUntil_at (current_between before ('[' :: rest)), advance_between counts whole]
  simp only [Option.bind_eq_bind, Option.bind_some, listStep, if_neg noQuote, if_true, begun,
    takeList_between counts early later 0 .bare, ← listEnd_extend]
  simp only [Piece.ofList, splitList, if_neg noQuote, if_true]
  cases splitList.extend '[' (splitList (0 + 1) .bare rest) with
  | some parts => exact ⟨.ok _, rfl, by simp [listEnd]⟩
  | none => exact ⟨.error _, rfl, rfl⟩

/-- A sign in front of digits is read. -/
theorem takeSign_between {before sign digits : List Char}
    (signed : sign = [] ∨ sign = ['-'] ∨ sign = ['+'])
    (follows : digits.head?.any Char.isDigit = true) (whole : before ++ (sign ++ digits) = text) :
    takeSign count (between place before (sign ++ digits)) =
      some (between place (before ++ sign) digits) := by
  rw [takeSign, current_between]
  rcases signed with rfl | rfl | rfl
  · have unsigned : ¬ (digits.head? = some '-' ∨ digits.head? = some '+') := by
      rintro (minus | plus)
      · rw [minus] at follows
        exact absurd follows (by decide)
      · rw [plus] at follows
        exact absurd follows (by decide)
    rw [List.nil_append, if_neg unsigned, List.append_nil]
  · rw [if_pos (.inl rfl)]
    exact advance_between counts whole
  · rw [if_pos (.inr rfl)]
    exact advance_between counts whole

/-- A fraction is read as it is split off. -/
theorem takeFraction_between {before ahead : List Char} (whole : before ++ ahead = text) :
    takeFraction count (between place before ahead) =
      some (between place (before ++ (Lexeme.splitFraction ahead).1)
        (Lexeme.splitFraction ahead).2) := by
  rw [takeFraction, current_between]
  by_cases point : ahead.head? = some '.'
  · obtain ⟨rest, rfl⟩ := eq_cons_of_head point
    have later : (before ++ ['.']) ++ rest = text := by rw [List.append_assoc]; exact whole
    rw [following_between]
    by_cases follows : rest.head?.any Char.isDigit = true
    · have some : rest.takeWhile Char.isDigit ≠ [] := digits_of_head follows
      rw [if_pos ⟨rfl, follows⟩]
      simp [advance_between counts whole, takeRun_between counts Char.isDigit later,
        Lexeme.splitFraction, some]
    · have none : rest.takeWhile Char.isDigit = [] := by
        cases rest with
        | nil => rfl
        | cons first others =>
          have other : first.isDigit = false := by simpa using follows
          simp [other]
      rw [if_neg fun both => follows both.2]
      simp [Lexeme.splitFraction, none]
  · have unsplit : Lexeme.splitFraction ahead = ([], ahead) := by
      unfold Lexeme.splitFraction
      split
      · exact absurd rfl point
      · rfl
    rw [if_neg fun both => point both.1, unsplit, List.append_nil]

omit counts in
/-- The characters of a number are its sign and what is split off behind it. -/
theorem of_number_parts (sign digits : List Char) :
    (Piece.ofNumber sign digits).1.chars = sign ++ (splitNumber digits).1 ∧
      (Piece.ofNumber sign digits).2 = (splitNumber digits).2 := by
  unfold Piece.ofNumber
  dsimp only
  split <;> exact ⟨rfl, rfl⟩

/-- A number is read as it is cut off. What is taken for one is a numeral, so it is not refused. -/
theorem reads_number {before sign digits : List Char}
    (signed : sign = [] ∨ sign = ['-'] ∨ sign = ['+'])
    (follows : digits.head?.any Char.isDigit = true) (whole : before ++ (sign ++ digits) = text) :
    Reads place before (readNumber count (between place before (sign ++ digits)))
      (Piece.ofNumber sign digits) := by
  obtain ⟨numeral, read⟩ := numeral_of_number signed (digits_of_head follows)
  obtain ⟨front, behind⟩ := of_number_parts sign digits
  have chars : numeral.chars = sign ++ (splitNumber digits).1 := by
    rw [read] at front
    exact front
  refine ⟨.ok (.number numeral.value), by rw [read]; rfl, ?_⟩
  have signless : (before ++ sign) ++ digits = text := by rw [List.append_assoc]; exact whole
  have fraction : (before ++ sign ++ digits.takeWhile Char.isDigit) ++
      digits.dropWhile Char.isDigit = text := by
    rw [List.append_assoc, List.takeWhile_append_dropWhile]
    exact signless
  have parts : before ++ sign ++ digits.takeWhile Char.isDigit ++
      (Lexeme.splitFraction (digits.dropWhile Char.isDigit)).1 = before ++ numeral.chars := by
    rw [chars]
    simp [splitNumber]
  have early : before.length ≤ (before ++ numeral.chars).length := by simp
  have begun : (between place before (sign ++ digits)).offset = before.length := rfl
  simp only [readNumber, Option.bind_eq_bind, takeSign_between counts signed follows whole,
    Option.bind_some, takeRun_between counts Char.isDigit signless,
    takeFraction_between counts fraction, parts, begun, slice_between early, List.drop_left,
    numeral.read_chars]
  rw [read, behind]
  rfl

omit counts in
/-- An `in` begins with a letter. -/
theorem letter_of_in {ahead : List Char}
    (contains : spells (ahead.takeWhile continuesWord) "in" = true) :
    ahead.head?.any isAlphabetic = true := by
  have reserved : "in" ∈ reservedWords := by simp [reservedWords]
  have letters := letters_of_spells reserved contains
  obtain ⟨first, rest, word⟩ := cons_of_spells reserved contains
  cases ahead with
  | nil => cases word
  | cons char others =>
    have begins : continuesWord char = true := by
      by_contra other
      simp [other] at word
    rw [List.takeWhile_cons, if_pos begins] at letters
    exact letters char (by simp)

/-- An `in` behind a `not` is read as it is split off, and where there is none, nothing is read. -/
theorem takeIn_between {before ahead : List Char} (whole : before ++ ahead = text) :
    takeIn count (between place before ahead) =
      some (match splitIn ahead with
        | some (consumed, behind) => (true, between place (before ++ consumed) behind)
        | none => (false, between place before ahead)) := by
  have later : (before ++ ahead.takeWhile isBlank) ++ ahead.dropWhile isBlank = text := by
    rw [List.append_assoc, List.takeWhile_append_dropWhile]
    exact whole
  have further : (between place before ahead).offset <
      (between place (before ++ ahead.takeWhile isBlank) (ahead.dropWhile isBlank)).offset ↔
        ahead.takeWhile isBlank ≠ [] := by
    simp [between, List.length_pos_iff]
  simp only [takeIn, Option.bind_eq_bind, takeRun_between counts isBlank whole, Option.bind_some,
    takeRun_between counts continuesWord later, current_between, splitIn, further]
  by_cases contains : spells ((ahead.dropWhile isBlank).takeWhile continuesWord) "in" = true
  · by_cases blanks : ahead.takeWhile isBlank = []
    · simp [blanks]
    · simp [blanks, contains, letter_of_in contains]
  · simp [contains]

omit counts in
/-- A word is cut off as the keyword that it is, as a `not` that takes an `in` with it, or as a
field. -/
theorem of_word_cases (text : List Char) :
    Piece.ofWord text =
      match keywordKind? (text.takeWhile continuesWord) with
      | some kind => (⟨text.takeWhile continuesWord, .word kind⟩, text.dropWhile continuesWord)
      | none =>
        if spells (text.takeWhile continuesWord) "not" then
          match splitIn (text.dropWhile continuesWord) with
          | some (consumed, behind) =>
            (⟨text.takeWhile continuesWord ++ consumed, .word .notAmong⟩, behind)
          | none => (⟨text.takeWhile continuesWord,
              .word (.field (String.ofList (text.takeWhile continuesWord)))⟩,
              text.dropWhile continuesWord)
        else (⟨text.takeWhile continuesWord,
          .word (.field (String.ofList (text.takeWhile continuesWord)))⟩,
          text.dropWhile continuesWord) := by
  unfold Piece.ofWord keywordKind?
  dsimp only
  split
  · rfl
  · split
    · rfl
    · split
      · rfl
      · split <;> rfl

/-- A keyword or a field is read as it is cut off. -/
theorem reads_word {before ahead : List Char} (whole : before ++ ahead = text) :
    Reads place before (readWord count (between place before ahead)) (Piece.ofWord ahead) := by
  have later : (before ++ ahead.takeWhile continuesWord) ++ ahead.dropWhile continuesWord =
      text := by
    rw [List.append_assoc, List.takeWhile_append_dropWhile]
    exact whole
  simp only [readWord, Option.bind_eq_bind, takeRun_between counts continuesWord whole,
    Option.bind_some, takeIn_between counts later, of_word_cases]
  cases keywordKind? (ahead.takeWhile continuesWord) with
  | some kind => exact ⟨.ok kind, rfl, rfl⟩
  | none =>
    by_cases denies : spells (ahead.takeWhile continuesWord) "not" = true
    · simp only [if_pos denies]
      cases splitIn (ahead.dropWhile continuesWord) with
      | some parts => exact ⟨.ok .notAmong, rfl, by simp [List.append_assoc]⟩
      | none => exact ⟨.ok _, rfl, rfl⟩
    · simp only [if_neg denies]
      exact ⟨.ok _, rfl, rfl⟩

omit counts in
/-- A sign of order without an equals sign behind it is a symbol by itself. -/
theorem symbol_of_order {rest : List Char} (other : rest.head? ≠ some '=') :
    Piece.splitSymbol ('>' :: rest) = some (.greater, ['>'], rest) ∧
      Piece.splitSymbol ('<' :: rest) = some (.less, ['<'], rest) := by
  cases rest with
  | nil => exact ⟨rfl, rfl⟩
  | cons char others =>
    have different : char ≠ '=' := fun same => other (congrArg some same)
    simp [Piece.splitSymbol, different]

omit counts in
/-- A sign of equality with neither an equals sign nor a tilde behind it is no word. -/
theorem split_lone_sign {first : Char} {rest : List Char} (sign : first = '=' ∨ first = '!')
    (noEquals : rest.head? ≠ some '=') (noTilde : rest.head? ≠ some '~') :
    Piece.split first rest =
      (⟨[first], .fault (.unrecognized (String.singleton first))⟩, rest) := by
  have noSymbol : Piece.splitSymbol (first :: rest) = none := by
    cases rest with
    | nil => rcases sign with rfl | rfl <;> rfl
    | cons char others =>
      have one : char ≠ '=' := fun same => noEquals (congrArg some same)
      have two : char ≠ '~' := fun same => noTilde (congrArg some same)
      rcases sign with rfl | rfl <;> simp [Piece.splitSymbol, one, two]
  have plain : isBlank first = false ∧ first ≠ '"' ∧ first ≠ '[' ∧ first.isDigit = false ∧
      first ≠ '-' ∧ first ≠ '+' ∧ beginsWord first = false := by
    rcases sign with rfl | rfl <;> decide +kernel
  simp [Piece.split, plain, noSymbol]

/-- Whatever stands first, if it is no blank, is read as it is cut off. -/
theorem reads_from {before rest : List Char} {first : Char} (shown : isBlank first = false)
    (whole : before ++ first :: rest = text) :
    Reads place before (readFrom count first (between place before (first :: rest)))
      (Piece.split first rest) := by
  unfold readFrom
  by_cases opening : first = '('
  · subst opening
    rw [if_pos rfl]
    exact reads_symbol counts shown rfl whole
  rw [if_neg opening]
  by_cases closing : first = ')'
  · subst closing
    rw [if_pos rfl]
    exact reads_symbol counts shown rfl whole
  rw [if_neg closing]
  by_cases greater : first = '>'
  · subst greater
    rw [if_pos rfl]
    exact reads_order counts shown (fun _ => rfl) (fun _ other => (symbol_of_order other).1) whole
  rw [if_neg greater]
  by_cases less : first = '<'
  · subst less
    rw [if_pos rfl]
    exact reads_order counts shown (fun _ => rfl) (fun _ other => (symbol_of_order other).2) whole
  rw [if_neg less]
  by_cases equal : first = '='
  · subst equal
    rw [if_pos rfl]
    exact reads_equality counts shown (fun _ => rfl) (fun _ => rfl) (split_lone_sign (.inl rfl))
      whole
  rw [if_neg equal]
  by_cases unequal : first = '!'
  · subst unequal
    rw [if_pos rfl]
    exact reads_equality counts shown (fun _ => rfl) (fun _ => rfl) (split_lone_sign (.inr rfl))
      whole
  rw [if_neg unequal]
  have noSymbol : Piece.splitSymbol (first :: rest) = none :=
    split_symbol_none rest (by simp [opening, closing, greater, less, equal, unequal])
  simp only [Piece.split, shown, noSymbol, Bool.false_eq_true, if_false]
  by_cases quote : first = '"'
  · subst quote
    rw [if_pos rfl, if_pos rfl]
    exact reads_text counts whole
  rw [if_neg quote, if_neg quote]
  by_cases bracket : first = '['
  · subst bracket
    rw [if_pos rfl, if_pos rfl]
    exact reads_list counts whole
  rw [if_neg bracket, if_neg bracket]
  by_cases digit : first.isDigit = true
  · rw [if_pos digit, if_pos digit]
    exact reads_number counts (.inl rfl) digit whole
  rw [if_neg digit, if_neg digit, following_between]
  by_cases signed : (first = '-' ∨ first = '+') ∧ rest.head?.any Char.isDigit = true
  · rw [if_pos signed, if_pos signed]
    have sign := sign_of_char signed.1
    exact reads_number counts sign signed.2 whole
  rw [if_neg signed, if_neg signed]
  by_cases begins : beginsWord first = true
  · rw [if_pos begins, if_pos begins]
    exact reads_word counts whole
  rw [if_neg begins, if_neg begins, advance_between counts whole]
  exact ⟨.error _, rfl, rfl⟩

omit counts in
/-- A text with nothing behind its blanks is blank. -/
theorem behind_blanks {ahead : List Char} (blank : ahead.dropWhile isBlank = []) :
    ahead.takeWhile isBlank = ahead := by
  have joined : ahead.takeWhile isBlank ++ ahead.dropWhile isBlank = ahead :=
    List.takeWhile_append_dropWhile
  rw [blank, List.append_nil] at joined
  exact joined

/-- A pass finds the end of a text with only blanks ahead. -/
theorem pass_ended {before ahead : List Char} (blank : ahead.dropWhile isBlank = [])
    (whole : before ++ ahead = text) :
    passOver count (between place before ahead) =
      some (.ended (place text), between place text []) := by
  have all : before ++ ahead.takeWhile isBlank = text := by
    rw [behind_blanks blank]
    exact whole
  simp only [passOver, Option.bind_eq_bind, takeRun_between counts isBlank whole, Option.bind_some,
    blank, all, current_between, List.head?_nil]
  rfl

omit counts in
/-- The blanks, the piece behind them and what is behind that piece are what was ahead. -/
theorem whole_behind {before ahead rest : List Char} {first : Char}
    (starts : ahead.dropWhile isBlank = first :: rest) (whole : before ++ ahead = text) :
    (before ++ ahead.takeWhile isBlank ++ (Piece.split first rest).1.chars) ++
      (Piece.split first rest).2 = text := by
  rw [List.append_assoc, List.append_assoc, (Piece.split_append first rest).1, ← starts,
    List.takeWhile_append_dropWhile]
  exact whole

/-- What a pass finds is the piece behind the blanks. -/
inductive Shows (place : Place) (piece : Piece) : Sighting → Prop
  | word (kind : Token.Kind) (content : piece.content = .word kind) :
      Shows place piece (.word ⟨kind, String.ofList piece.chars, place⟩)
  | fault (cause : SyntaxError.Cause) (content : piece.content = .fault cause) :
      Shows place piece (.fault ⟨cause, place⟩)

/-- A pass finds the piece behind the blanks and stops behind it. -/
theorem pass_found {before ahead rest : List Char} {first : Char}
    (starts : ahead.dropWhile isBlank = first :: rest) (whole : before ++ ahead = text) :
    ∃ sighting,
      Shows (place (before ++ ahead.takeWhile isBlank)) (Piece.split first rest).1 sighting ∧
      passOver count (between place before ahead) =
        some (sighting, between place
          (before ++ ahead.takeWhile isBlank ++ (Piece.split first rest).1.chars)
          (Piece.split first rest).2) := by
  have shown : isBlank first = false := clear_dropWhile isBlank ahead first (by rw [starts]; rfl)
  have later : (before ++ ahead.takeWhile isBlank) ++ first :: rest = text := by
    rw [← starts, List.append_assoc, List.takeWhile_append_dropWhile]
    exact whole
  obtain ⟨found, content, read⟩ := reads_from counts shown later
  simp only [passOver, Option.bind_eq_bind, takeRun_between counts isBlank whole, Option.bind_some,
    starts, current_between, List.head?_cons, read]
  cases found with
  | ok kind =>
    have early : (before ++ ahead.takeWhile isBlank).length ≤
        (before ++ ahead.takeWhile isBlank ++ (Piece.split first rest).1.chars).length := by simp
    have begun : (between place (before ++ ahead.takeWhile isBlank) (first :: rest)).offset =
        (before ++ ahead.takeWhile isBlank).length := rfl
    refine ⟨_, .word kind content, ?_⟩
    simp only [begun, slice_between early, Option.bind_some, List.drop_left]
    rfl
  | error cause => exact ⟨_, .fault cause content, rfl⟩

end Agreeing

section Scanning

/-- What a pass finds is what goes in front of the words and errors found behind it. -/
theorem tokens_passed {count : Nat → Option Nat} {reader next : Reader} {sighting : Sighting}
    (passed : passOver count reader = some (sighting, next)) :
    tokens? count reader =
      match sighting with
      | .ended place => some ([.ending place], [])
      | .word token =>
        (tokens? count next).map fun (words, faults) => (.ofToken token :: words, faults)
      | .fault error =>
        (tokens? count next).map fun (words, faults) => (words, error :: faults) := by
  rw [tokens?]
  split
  all_goals
    rename_i found
    rw [passed] at found
  · cases found
  all_goals
    obtain ⟨rfl, rfl⟩ := Prod.mk.inj (Option.some.inj found)
    rfl

/-- Blanks have no words and no errors, so a scan may begin behind them. -/
theorem scan_behind_blanks (before ahead : List Char) :
    Scan.ofPieces (Place.behind before) (pieces ahead) =
      Scan.ofPieces (Place.behind (before ++ ahead.takeWhile isBlank))
        (pieces (ahead.dropWhile isBlank)) := by
  have joined : ahead.takeWhile isBlank ++ ahead.dropWhile isBlank = ahead :=
    List.takeWhile_append_dropWhile
  by_cases none : ahead.takeWhile isBlank = []
  · rw [none, List.nil_append] at joined
    rw [none, joined, List.append_nil]
  · have cut := pieces_blanks none (fun char => of_mem_takeWhile) (clear_dropWhile isBlank ahead)
    rw [joined] at cut
    rw [cut, Scan.ofPieces, Scan.prepend, Place.behind_append]

/-- The words and the errors of a scan, as passes list them. -/
def listed (scan : Scan) : List Entry × List SyntaxError := (entries scan, scan.faults)

/-- Passes over what is ahead find the words and the errors of its pieces, if lines and columns can
be counted to the end. -/
theorem tokens_between {count : Nat → Option Nat} {text : List Char}
    (counts : Counts count Place.behind text) {before ahead : List Char}
    (whole : before ++ ahead = text) :
    tokens? count (between Place.behind before ahead) =
      some (listed (Scan.ofPieces (Place.behind before) (pieces ahead))) := by
  induction size : ahead.length using Nat.strongRecOn generalizing before ahead with
  | ind length inductionHypothesis =>
    rw [scan_behind_blanks]
    cases starts : ahead.dropWhile isBlank with
    | nil =>
      have all : before ++ ahead.takeWhile isBlank = text := by
        rw [behind_blanks starts]
        exact whole
      rw [tokens_passed (pass_ended counts starts whole), all, pieces]
      rfl
    | cons first rest =>
      obtain ⟨sighting, shows, passed⟩ := pass_found counts starts whole
      have fewer : (Piece.split first rest).2.length < length := by
        have shorter := Piece.length_split_lt first rest
        have bound := (List.dropWhile_suffix (l := ahead) isBlank).length_le
        rw [starts] at bound
        omega
      have later := inductionHypothesis _ fewer (whole_behind starts whole) rfl
      rw [tokens_passed passed, later, pieces, Scan.ofPieces, Scan.prepend, ← Place.behind_append]
      cases shows with
      | word kind content =>
        rw [content]
        rfl
      | fault cause content =>
        rw [content]
        rfl

/-- Lines and columns can be counted along a text if every number up to its length can be counted
on. -/
theorem counts_behind {count : Nat → Option Nat} {text : List Char}
    (counting : ∀ number ≤ text.length, count number = some (number + 1)) :
    Counts count Place.behind text := by
  intro before char behind whole
  have bound := Place.behind_bound before
  have inside : before.length + 1 ≤ text.length := by
    rw [← whole, List.length_append, List.length_cons]
    omega
  have line := counting (Place.behind before).line (by omega)
  have column := counting (Place.behind before).column (by omega)
  rw [Place.behind_append, Place.after_cons, Place.after_nil]
  simp only [step?, line, column, Option.map_some, Place.step]
  split <;> rfl

/-- Passes over a text find its words and its errors, if every number up to its length can be
counted on. -/
theorem tokens_text {count : Nat → Option Nat} {text : List Char}
    (counting : ∀ number ≤ text.length, count number = some (number + 1)) :
    tokens? count (.start text) = some (listed (Scan.ofText text)) :=
  tokens_between (counts_behind counting) (List.nil_append text)

end Scanning

end RecordRules.Passes
