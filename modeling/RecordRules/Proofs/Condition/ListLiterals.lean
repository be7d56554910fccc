import RecordRules.Proofs.Condition.Blame
import RecordRules.Proofs.Json.Reading

/-!
# Where list literals end

A list literal of a condition is cut off by counting brackets, before anybody knows what is in it.
The reader of documents follows the grammar instead. Both end at the same bracket: whatever a
document has between its brackets leaves the count as it was, since every bracket that it opens is
closed in it and those in strings are not counted. An escape never hides a quote from the one that
it does not hide from the other.

So a list that the grammar writes is cut off whole, whatever stands behind it. And where a literal
that was cut off is read as a document, there is nothing left behind its last bracket.
-/

namespace RecordRules.ListLiterals

open Number Text Lexeme Json JsonSyntax JsonTaking JsonDocuments JsonReading
open Grammar Spelling Lexing Cutting Recognition Blame

/-- Puts some characters in front of the first part of a split. -/
def prepend (chars : List Char) (split : Option (List Char × List Char)) :
    Option (List Char × List Char) :=
  split.map fun (literal, behind) => (chars ++ literal, behind)

/-- Nothing in front of a split leaves it as it is. -/
theorem prepend_nil (split : Option (List Char × List Char)) : prepend [] split = split := by
  cases split <;> rfl

/-- One character in front of others is in front of them all. -/
theorem extend_prepend (char : Char) (chars : List Char)
    (split : Option (List Char × List Char)) :
    splitList.extend char (prepend chars split) = prepend (char :: chars) split := by
  cases split <;> rfl

/-- Characters in front of others are in front of them all. -/
theorem prepend_append (first second : List Char) (split : Option (List Char × List Char)) :
    prepend first (prepend second split) = prepend (first ++ second) split := by
  cases split <;> simp [prepend]

/-- Characters behind which as many brackets are open as before, and no string is. At least one
bracket is open all the while, so the literal does not end among them. -/
def Neutral (chars : List Char) : Prop :=
  ∀ depth rest, 0 < depth →
    splitList depth .bare (chars ++ rest) = prepend chars (splitList depth .bare rest)

/-- A character that neither opens nor closes anything. -/
def IsPlain (char : Char) : Prop := char ≠ '"' ∧ char ≠ '[' ∧ char ≠ ']'

instance (char : Char) : Decidable (IsPlain char) :=
  inferInstanceAs (Decidable (_ ∧ _ ∧ _))

section Counting

/-- No characters are neutral. -/
theorem neutral_nil : Neutral [] := fun _ _ _ => (prepend_nil _).symm

/-- Neutral characters in a row are neutral. -/
theorem neutral_append {first second : List Char} (one : Neutral first) (two : Neutral second) :
    Neutral (first ++ second) := by
  intro depth rest some
  rw [List.append_assoc, one depth _ some, two depth _ some, prepend_append]

/-- A plain character in front of neutral ones is neutral with them. -/
theorem neutral_cons {char : Char} {chars : List Char} (plain : IsPlain char)
    (neutral : Neutral chars) : Neutral (char :: chars) := by
  obtain ⟨noQuote, noOpening, noClosing⟩ := plain
  intro depth rest some
  rw [List.cons_append, splitList, if_neg noQuote, if_neg noOpening, if_neg noClosing,
    neutral depth rest some, extend_prepend]

/-- Plain characters are neutral. -/
theorem neutral_plain {chars : List Char} (plain : ∀ char ∈ chars, IsPlain char) :
    Neutral chars := by
  induction chars with
  | nil => exact neutral_nil
  | cons char chars inductionHypothesis =>
    obtain ⟨first, later⟩ := List.forall_mem_cons.mp plain
    exact neutral_cons first (inductionHypothesis later)

/-- Neutral characters between brackets are neutral with them. -/
theorem neutral_brackets {chars : List Char} (neutral : Neutral chars) :
    Neutral ('[' :: (chars ++ [']'])) := by
  intro depth rest some
  have apart : ¬ depth = 0 := Nat.ne_of_gt some
  have closed : splitList (depth + 1) .bare (']' :: rest) =
      splitList.extend ']' (splitList depth .bare rest) := by
    simp [splitList, apart]
  have opened : splitList depth .bare ('[' :: (chars ++ (']' :: rest))) =
      splitList.extend '[' (splitList (depth + 1) .bare (chars ++ (']' :: rest))) := by
    simp [splitList]
  rw [List.cons_append, List.append_assoc, List.singleton_append, opened,
    neutral _ _ (Nat.succ_pos depth), closed]
  cases splitList depth .bare rest <;> simp [prepend, splitList.extend]

/-- Neutral characters between brackets are a list literal with them, whatever stands behind. -/
theorem split_brackets {chars : List Char} (neutral : Neutral chars) (rest : List Char) :
    splitList 0 .bare ('[' :: (chars ++ [']']) ++ rest) =
      some ('[' :: (chars ++ [']']), rest) := by
  have opened : splitList 0 .bare ('[' :: (chars ++ (']' :: rest))) =
      splitList.extend '[' (splitList 1 .bare (chars ++ (']' :: rest))) := by
    simp [splitList]
  rw [List.cons_append, List.append_assoc, List.singleton_append, opened,
    neutral 1 _ Nat.one_pos]
  simp [splitList, prepend, splitList.extend]

end Counting

section Strings

/-- In a string, characters that are neither quotes nor backslashes change nothing. -/
theorem split_inside {chars : List Char} (inside : ∀ char ∈ chars, char ≠ '"' ∧ char ≠ '\\')
    (depth : Nat) (rest : List Char) :
    splitList depth .inString (chars ++ rest) =
      prepend chars (splitList depth .inString rest) := by
  induction chars with
  | nil => exact (prepend_nil _).symm
  | cons char chars inductionHypothesis =>
    obtain ⟨⟨noQuote, noEscape⟩, later⟩ := List.forall_mem_cons.mp inside
    rw [List.cons_append, splitList, if_neg noEscape, if_neg noQuote, inductionHypothesis later,
      extend_prepend]

/-- In a string, a backslash and the character behind it change nothing. -/
theorem split_escape (letter : Char) (depth : Nat) (rest : List Char) :
    splitList depth .inString ('\\' :: letter :: rest) =
      prepend ['\\', letter] (splitList depth .inString rest) := by
  rw [splitList, if_pos rfl, splitList]
  cases splitList depth .inString rest <;> rfl

/-- A hexadecimal digit is neither a quote nor a backslash. -/
theorem inside_of_hex {digit : Char} (hexadecimal : IsHexDigit digit) :
    digit ≠ '"' ∧ digit ≠ '\\' := by
  constructor
  · rintro rfl
    revert hexadecimal
    simp [IsHexDigit]
  · rintro rfl
    revert hexadecimal
    simp [IsHexDigit]

/-- The content of a string is passed without its end being met. -/
theorem split_content {content : List Char} (inside : Content content) (depth : Nat)
    (rest : List Char) :
    splitList depth .inString (content ++ rest) =
      prepend content (splitList depth .inString rest) := by
  induction inside with
  | finished => exact (prepend_nil _).symm
  | plain char content noQuote noEscape visible later inductionHypothesis =>
    have ordinary : ∀ other ∈ [char], other ≠ '"' ∧ other ≠ '\\' := by
      simp [noQuote, noEscape]
    have first := split_inside ordinary depth (content ++ rest)
    rw [List.cons_append, ← List.singleton_append, first, inductionHypothesis, prepend_append]
    rfl
  | escape letter content known later inductionHypothesis =>
    rw [List.cons_append, List.cons_append, split_escape, inductionHypothesis, prepend_append]
    rfl
  | unit digits content four hexadecimal later inductionHypothesis =>
    have passed := split_inside (fun digit member => inside_of_hex (hexadecimal digit member)) depth
      (content ++ rest)
    rw [List.cons_append, List.cons_append, List.append_assoc, split_escape, passed,
      inductionHypothesis, prepend_append, prepend_append]
    simp

/-- A string is neutral. -/
theorem neutral_string {content : List Char} (inside : Content content) :
    Neutral ('"' :: (content ++ ['"'])) := by
  intro depth rest some
  have opened : splitList depth .bare ('"' :: (content ++ ('"' :: rest))) =
      splitList.extend '"' (splitList depth .inString (content ++ ('"' :: rest))) := by
    simp [splitList]
  have closed : splitList depth .inString ('"' :: rest) =
      splitList.extend '"' (splitList depth .bare rest) := by
    simp [splitList]
  rw [List.cons_append, List.append_assoc, List.singleton_append, opened, split_content inside,
    closed]
  cases splitList depth .bare rest <;> simp [prepend, splitList.extend]

end Strings

section Documents

/-- Characters are plain if each of them is found to be. -/
theorem plain_of_all {chars : List Char}
    (plain : (chars.all fun char => decide (IsPlain char)) = true) :
    ∀ char ∈ chars, IsPlain char :=
  fun char member => of_decide_eq_true (List.all_eq_true.mp plain char member)

/-- Blanks are plain. -/
theorem plain_of_blank {char : Char} (blank : isSpace char = true) : IsPlain char := by
  simp only [isSpace, Bool.or_eq_true, beq_iff_eq] at blank
  obtain ((rfl | rfl) | rfl) | rfl := blank <;> decide

/-- Digits are plain. -/
theorem plain_of_digit {char : Char} (digit : char.isDigit = true) : IsPlain char := by
  refine ⟨?_, ?_, ?_⟩ <;> rintro rfl <;> simp at digit

/-- Digits in a row are plain. -/
theorem plain_digits {digits : List Char} (some : Digits digits) :
    ∀ char ∈ digits, IsPlain char :=
  fun char member => plain_of_digit (some.all char member)

/-- All characters of a number are plain. -/
theorem plain_number {text : List Char} (number : IsNumber text) :
    ∀ char ∈ text, IsPlain char := by
  obtain ⟨sign, whole, fraction, power, signed, wholes, fractions, powers⟩ := number
  have inSign : ∀ char ∈ sign, IsPlain char := by
    obtain rfl | rfl := signed <;> exact plain_of_all (by decide)
  have inWhole : ∀ char ∈ whole, IsPlain char := by
    cases wholes with
    | zero => exact plain_of_all (by decide)
    | digits first rest digit positive all =>
      exact List.forall_mem_cons.mpr
        ⟨plain_of_digit digit, fun char member => plain_of_digit (all char member)⟩
  have inFraction : ∀ char ∈ fraction, IsPlain char := by
    cases fractions with
    | none => simp
    | digits digits some => exact List.forall_mem_cons.mpr ⟨by decide, plain_digits some⟩
  have inPower : ∀ char ∈ power, IsPlain char := by
    cases powers with
    | none => simp
    | power mark text marks signed =>
      obtain ⟨sign, digits, signs, some⟩ := signed
      refine List.forall_mem_cons.mpr ⟨by obtain rfl | rfl := marks <;> decide, ?_⟩
      refine List.forall_mem_append.mpr ⟨?_, plain_digits some⟩
      obtain rfl | rfl | rfl := signs <;> exact plain_of_all (by decide)
  simp only [List.forall_mem_append]
  exact ⟨inSign, inWhole, inFraction, inPower⟩

/-- What is written between the brackets of a container makes a neutral value with them. -/
theorem neutral_container {inside : List Char} (container : Container)
    (neutral : Neutral inside) :
    Neutral (container.opening :: (inside ++ [container.closing])) := by
  cases container with
  | list => exact neutral_brackets neutral
  | object =>
    have closed : Neutral ['\x7d'] := neutral_plain (plain_of_all (by decide))
    exact neutral_cons (by decide) (neutral_append neutral closed)

/-- Every phrase of a document is neutral. -/
theorem neutral_written {phrase : JsonSyntax.Phrase} {text : List Char}
    (written : Writes phrase text) : Neutral text := by
  have blanks : ∀ {blanks : List Char}, Blank blanks → Neutral blanks := fun blank =>
    neutral_plain fun char member => plain_of_blank (blank char member)
  induction written with
  | null | true | false => exact neutral_plain (plain_of_all (by decide))
  | number text number => exact neutral_plain (plain_number number)
  | string content inside => exact neutral_string inside
  | empty container between blank => exact neutral_container container (blanks blank)
  | container container parts inside inductionHypothesis =>
    exact neutral_container container inductionHypothesis
  | item before value after blankBefore written blankAfter inductionHypothesis =>
    exact neutral_append (blanks blankBefore)
      (neutral_append inductionHypothesis (blanks blankAfter))
  | member before key between item blankBefore inside blankBetween written inductionHypothesis =>
    have colon : IsPlain ':' := by decide
    have valued := neutral_append (blanks blankBetween) (neutral_cons colon inductionHypothesis)
    have keyed := neutral_append (blanks blankBefore)
      (neutral_append (neutral_string inside) valued)
    simpa using keyed
  | last container part written inductionHypothesis => exact inductionHypothesis
  | more container part parts written later partHypothesis laterHypothesis =>
    exact neutral_append partHypothesis (neutral_cons (by decide) laterHypothesis)

/-- A value that begins with a bracket is a list literal, whatever stands behind it. -/
theorem split_written {inside : List Char} (written : Writes .value ('[' :: inside))
    (rest : List Char) :
    splitList 0 .bare ('[' :: inside ++ rest) = some ('[' :: inside, rest) := by
  generalize whole : '[' :: inside = text at written ⊢
  have enclosed : ∀ {container : Container} {parts : List Char}, Neutral parts →
      '[' :: inside = container.opening :: (parts ++ [container.closing]) →
        splitList 0 .bare (container.opening :: (parts ++ [container.closing]) ++ rest) =
          some (container.opening :: (parts ++ [container.closing]), rest) := by
    intro container parts neutral same
    cases container with
    | list => exact split_brackets neutral rest
    | object => exact absurd (List.cons.inj same).1 (by decide)
  cases written with
  | null | true | false | string => exact absurd (List.cons.inj whole).1 (by decide)
  | number text number =>
    subst whole
    exact absurd rfl (plain_number number '[' (by simp)).2.1
  | empty container blanks blank =>
    exact enclosed (neutral_plain fun char member => plain_of_blank (blank char member)) whole
  | container container parts written => exact enclosed (neutral_written written) whole

end Documents

/-- What the reader of documents takes for a value that begins with a bracket is one. -/
theorem written_of_read {allowance : Nat} {inside rest : List Char} {value : Json}
    (read : readValue allowance ('[' :: inside) = .ok (value, rest)) :
    ∃ front, inside = front ++ rest ∧ Writes .value ('[' :: front) := by
  have opened : skipSpace ('[' :: inside) = '[' :: inside := by simp [skipSpace, isSpace]
  cases allowance with
  | zero => simp [readValue, readPlain, opened, tooDeep] at read
  | succ allowance =>
    have entered : readValue (allowance + 1) ('[' :: inside) =
        (readList (readValue allowance) inside >>= fun taken => .ok (.list taken.1, taken.2)) := by
      simp only [readValue, readPlain, opened]
      rfl
    have took := took_list (took_value allowance) inside
    rw [entered] at read
    generalize readList (readValue allowance) inside = result at took read
    cases took with
    | error failure own => cases read
    | ok items front behind split spelled =>
      obtain ⟨-, rfl⟩ := Prod.mk.inj (Except.ok.inj read)
      have list : SpellsWithin (allowance + 1) ('[' :: front) (.list items) := .list items spelled
      exact ⟨front, split, written_within list⟩

/-- A list literal that was cut off is not read as a document with characters behind it. -/
theorem read_untrailed {inside : List Char}
    (balanced : splitList 0 .bare ('[' :: inside) = some ('[' :: inside, [])) {fault : Fault}
    (refused : Scalar.readList (String.ofList ('[' :: inside)) = .error fault) :
    fault.cause ≠ .grammar .trailingCharacters := by
  have opened : skipSpace ('[' :: inside) = '[' :: inside := by simp [skipSpace, isSpace]
  obtain ⟨fewer, nests⟩ : ∃ fewer, maximumNesting = fewer + 1 := ⟨_, rfl⟩
  have took := took_list (took_variant "Scalar" Scalar.ofJson? fewer) inside
  unfold Scalar.readList readDocument at refused
  rw [String.toList_ofList, nests] at refused
  simp only [readListOf, opened] at refused
  generalize readList (readVariant "Scalar" Scalar.ofJson? fewer) inside = result at took refused
  cases took with
  | error failure own =>
    obtain rfl := Except.error.inj refused
    exact own
  | ok items front rest split spelled =>
    have written : Writes .value ('[' :: front) := by
      refine spelled.written fun text item spaced => spaced.written ?_
      rintro text item ⟨value, spelled, -⟩
      exact written_within spelled
    have found := split_written written rest
    rw [List.cons_append, ← split, balanced] at found
    obtain rfl : rest = [] := (Prod.mk.inj (Option.some.inj found)).2.symm
    cases refused

/-- A list of a scanned text is not read as a document with characters behind it. -/
theorem read_scanned {text : List Char} {literal : String}
    (scanned : .list literal ∈ (Scan.ofText text).tokens.map Token.kind) {fault : Fault}
    (refused : Scalar.readList literal = .error fault) :
    fault.cause ≠ .grammar .trailingCharacters := by
  obtain ⟨chars, spelled⟩ := spelled_scan text _ scanned
  cases spelled with
  | symbol chars kind only => cases only
  | keyword chars kind word known spelled => cases known
  | list rest balanced => exact read_untrailed balanced refused

/-- A value that begins with a bracket is the first piece of a text that begins with it. -/
theorem pieces_written {inside : List Char} (written : Writes .value ('[' :: inside))
    (rest : List Char) :
    pieces ('[' :: inside ++ rest) =
      ⟨'[' :: inside, .word (.list (String.ofList ('[' :: inside)))⟩ :: pieces rest := by
  have balanced : splitList 0 .bare ('[' :: inside) = some ('[' :: inside, []) :=
    balanced_of_split (split_written written [])
  rw [List.cons_append, pieces, cut_list balanced]

/-- The list literals of a condition that was compiled are words of its source. -/
theorem scanned_literal {source : String} {condition : Condition} {leaf : Comparison}
    {operator : ListOperator} {literal : String}
    (compiled : Condition.compile source = .ok condition)
    (member : leaf ∈ condition.root.comparisons) (compares : leaf.test = .list operator literal) :
    .list literal ∈ (Scan.ofText source.toList).tokens.map Token.kind := by
  obtain ⟨-, derived, -⟩ := (parse_iff_derives _ _).mp ((NormalText.compile_iff _ _).mp compiled).2
  have listed := List.mem_map_of_mem (f := fun leaf => literalOf leaf.test) member
  rw [derives_literals derived, compares] at listed
  obtain ⟨word, inside, stands⟩ := List.mem_filterMap.mp listed
  refine List.mem_map.mpr ⟨word, inside, ?_⟩
  unfold literal? at stands
  split at stands
  · cases stands
  · cases stands
  · rename_i found
    rw [found]
    exact Option.some.inj stands
  · cases stands

/-- A list that the grammar of documents writes is cut off a text as it stands, whatever is behind
it: it is the first word, and the rest of the text is cut as if it stood alone. The reader of
documents, where it takes a list off a text, takes the same characters. So no list of a text is read
with characters left behind it, and no condition that was compiled fails because of them. -/
theorem list_literal_exact :
    (∀ inside rest, Writes .value ('[' :: inside) →
      pieces ('[' :: inside ++ rest) =
        ⟨'[' :: inside, .word (.list (String.ofList ('[' :: inside)))⟩ :: pieces rest) ∧
    (∀ allowance inside value rest, readValue allowance ('[' :: inside) = .ok (value, rest) →
      ∃ front, inside = front ++ rest ∧ pieces ('[' :: inside) =
        ⟨'[' :: front, .word (.list (String.ofList ('[' :: front)))⟩ :: pieces rest) ∧
    (∀ text literal fault, .list literal ∈ (Scan.ofText text).tokens.map Token.kind →
      Scalar.readList literal = .error fault → fault.cause ≠ .grammar .trailingCharacters) ∧
    ∀ source condition record field fault, Condition.compile source = .ok condition →
      condition.evaluate record = .error (.literalParse field (.list fault)) →
        fault.cause ≠ .grammar .trailingCharacters := by
  refine ⟨fun inside rest written => pieces_written written rest, ?_, ?_, ?_⟩
  · intro allowance inside value rest read
    obtain ⟨front, rfl, written⟩ := written_of_read read
    exact ⟨front, rfl, pieces_written written rest⟩
  · intro text literal fault scanned refused
    exact read_scanned scanned refused
  · intro source condition record field fault compiled failed
    obtain ⟨before, leaf, first⟩ := exists_first_to_fail failed
    obtain ⟨after, order⟩ := first.order
    cases fails_as first.fails with
    | list operator literal value fault compares present unread =>
      have member : leaf ∈ condition.root.comparisons := by simp [order]
      exact read_scanned (scanned_literal compiled member compares) unread

/-- A list behind its opening bracket, with brackets and a quote in strings and a list inside. -/
def trickyList : List Char := "\"]\\\"\", \x7b\"[\": [0]\x7d]".toList

/-- The list is one that the grammar writes. -/
theorem tricky_written : Writes .value ('[' :: trickyList) := by
  have space : Blank [' '] := by simp [Blank, isSpace]
  have text : Writes .value ['"', ']', '\\', '"', '"'] :=
    .string [']', '\\', '"'] (.plain ']' _ (by decide) (by decide) (by decide)
      (.escape '"' [] (by decide) .finished))
  have number : Writes .value ['0'] :=
    .number _ (.number [] ['0'] [] [] (.inl rfl) .zero .none .none)
  have list : Writes .value ['[', '0', ']'] :=
    .container .list ['0'] (.last .list _ (.item [] ['0'] [] blank_nil number blank_nil))
  have key : Content ['['] := .plain '[' [] (by decide) (by decide) (by decide) .finished
  have object : Writes .value ['\x7b', '"', '[', '"', ':', ' ', '[', '0', ']', '\x7d'] :=
    .container .object _ (.last .object _ (.member [] ['['] [] [' ', '[', '0', ']'] blank_nil key
      blank_nil (.item [' '] ['[', '0', ']'] [] space list blank_nil)))
  exact .container .list _ (.more .list _ _ (.item [] _ [] blank_nil text blank_nil)
    (.last .list _ (.item [' '] _ [] space object blank_nil)))

/-- A list with brackets in strings is cut off at its last bracket, in front of a connective. -/
theorem pieces_tricky_list :
    Writes .value ('[' :: trickyList) ∧
      pieces ('[' :: trickyList ++ " and".toList) =
        ⟨'[' :: trickyList, .word (.list (String.ofList ('[' :: trickyList)))⟩ ::
          pieces " and".toList :=
  ⟨tricky_written, list_literal_exact.1 trickyList " and".toList tricky_written⟩

end RecordRules.ListLiterals
