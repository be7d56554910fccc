import RecordRules.Proofs.Condition.Meaning
import RecordRules.Proofs.Condition.NormalText
import RecordRules.Proofs.Json.Numerals

/-!
# The same numeral in a record and in a condition

A numeral in a condition is the double nearest to it. The same numeral in the text of a record is
rounded by the reader of documents, and evaluation sees the number through its text, which is read
back as the number it is the text of. So the two are compared as the two readers have rounded them.

A numeral that the reader of documents rounds only once is the same number in both places. With more
digits the two may differ, and then the number of the record is not equal to the numeral that it was
written as.
-/

namespace RecordRules.NumeralAgreement

open Number Json Text Lexeme Characters Spelling Rendering Grammar Recognition Writing JsonNumerals

/-- The text of a record that has a numeral for `x`. -/
def recordText (numeral : Number.Numeral) : String :=
  String.ofList (['\x7b', '"', 'x', '"', ':', ' '] ++ (numeral.chars ++ ['\x7d']))

/-- The text of a condition that compares `x` with a numeral. -/
def conditionText (operator : NumericOperator) (numeral : Number.Numeral) : String :=
  String.ofList (['x', ' '] ++ (operator.spelling.toList ++ ' ' :: numeral.chars))

/-- Whether an operator holds of a number and the same number. -/
def holdsOfSame : NumericOperator → Bool
  | .equal | .atLeast | .atMost => true
  | .notEqual | .greater | .less => false

/-- A numeral in a condition means what `x` of a record is: every comparison of the two comes out
as for a number with itself. -/
def Agrees (numeral : Number.Numeral) (record : Record) : Prop :=
  ∀ operator, ∃ condition, Condition.compile (conditionText operator numeral) = .ok condition ∧
    condition.evaluate record = .ok (holdsOfSame operator)

section Records

variable {numeral : Number.Numeral}

/-- The numeral behind a colon is read as a number, and the record gets it for the name. -/
theorem read_field (allowance : Nat) (name : String) (plain : Plain numeral)
    (behind : List Char) :
    readField allowance .empty name (':' :: ' ' :: (numeral.chars ++ behind)) = (do
      let (value, rest) ← readNumber (numeral.chars ++ behind)
      return (Table.empty.insert name (.number value.toBinary64), rest)) := by
  obtain ⟨first, rest, starts, begins⟩ := first_plain plain
  have colon : skipColon (':' :: ' ' :: (first :: (rest ++ behind))) =
      .ok (' ' :: (first :: (rest ++ behind))) := rfl
  have shown : skipSpace (' ' :: (first :: (rest ++ behind))) = first :: (rest ++ behind) :=
    (take_clear (clear_cons (space_of_begins begins))).2
  have variant : readVariant "Value" Value.ofJson? allowance (' ' :: (first :: (rest ++ behind))) =
      (do
        let (value, rest) ← readNumber (first :: (rest ++ behind))
        return (.number value.toBinary64, rest)) := by
    rw [readVariant, read_begun allowance shown begins]
    cases readNumber (first :: (rest ++ behind)) <;> rfl
  rw [starts, List.cons_append, readField, colon]
  simp only [bind, Except.bind, variant]
  cases readNumber (first :: (rest ++ behind)) <;> rfl

/-- The key of the record is read. -/
theorem read_key (rest : List Char) :
    nextKey true ('"' :: 'x' :: '"' :: rest) = .ok (some "x", rest) := rfl

/-- The only member of the record is read, and then the closing brace is all that is left. -/
theorem read_member (bound : Nat) (plain : Plain numeral) :
    readMembers (readField 126) (bound + 2) true .empty
        ('"' :: 'x' :: '"' :: ':' :: ' ' :: (numeral.chars ++ ['\x7d'])) = (do
      let (value, rest) ← readNumber (numeral.chars ++ ['\x7d'])
      readMembers (readField 126) (bound + 1) false
        (Table.empty.insert "x" (.number value.toBinary64)) rest) := by
  rw [readMembers, read_key]
  simp only [bind, Except.bind, read_field 126 "x" plain ['\x7d']]
  cases readNumber (numeral.chars ++ ['\x7d']) <;> rfl

/-- The text of a record is an object with this member. -/
theorem open_record :
    readRecord maximumNesting (recordText numeral).toList =
      closing closeObject (readMembers (readField 126)
        (('x' :: '"' :: ':' :: ' ' :: (numeral.chars ++ ['\x7d'])).length + 2) true .empty
        ('"' :: 'x' :: '"' :: ':' :: ' ' :: (numeral.chars ++ ['\x7d']))) := by
  rw [recordText, String.toList_ofList]
  rfl

/-- A container is refused if its contents are. -/
theorem closing_error {α : Type} (close : List Char → Except Failure (List Char))
    (failure : Failure) :
    ∃ other, closing (α := α) close (.error failure) = .error other := by
  rw [closing]
  split
  · cases close failure.rest <;> exact ⟨_, rfl⟩
  · exact ⟨_, rfl⟩

/-- The record has got the number that the numeral is read as. -/
theorem record_of_number (plain : Plain numeral) {number : Json.Numeral}
    (read : readNumber (numeral.chars ++ ['\x7d']) = .ok (number, ['\x7d'])) :
    Record.read (recordText numeral) =
      .ok (Table.empty.insert "x" (.number number.toBinary64)) := by
  rw [Record.read, readDocument, open_record, read_member _ plain, read]
  rfl

/-- What ends the numeral in a record is no part of it. -/
theorem clear_brace : Clear continuesNumber ['\x7d'] := clear_cons (by decide)

/-- The text of a record is the record with a number for `x`, or is refused. -/
theorem read_record (plain : Plain numeral) :
    (∃ number, Record.read (recordText numeral) =
      .ok (Table.empty.insert "x" (.number number))) ∨
    ∃ fault, Record.read (recordText numeral) = .error fault := by
  rcases read_plain plain clear_brace with ⟨number, read⟩ | ⟨failure, refused⟩
  · exact .inl ⟨_, record_of_number plain read⟩
  · obtain ⟨other, closed⟩ := closing_error (α := Record) closeObject failure
    refine .inr ⟨other.locate (recordText numeral).toList, ?_⟩
    rw [Record.read, readDocument, open_record, read_member _ plain, refused]
    simp only [bind, Except.bind, closed]

/-- The text of a record with a short numeral is the record with its value. -/
theorem read_record_short (plain : Plain numeral) (short : Short numeral) :
    Record.read (recordText numeral) =
      .ok (Table.empty.insert "x" (.number numeral.value)) := by
  obtain ⟨number, read, same⟩ := read_short plain short clear_brace
  rw [← same]
  exact record_of_number plain read

end Records

section Conditions

variable (operator : NumericOperator) (numeral : Number.Numeral)

/-- The words of the condition: a field, an operator and the numeral. -/
def conditionWords : List Written :=
  [⟨.field (String.ofList ['x']), ['x'], [' ']⟩,
   ⟨operatorOf (.numeric operator numeral.value), operator.spelling.toList, [' ']⟩,
   ⟨.number numeral.value, numeral.chars, []⟩]

/-- The condition is scanned as its three words. -/
theorem scan_condition :
    (Scan.ofText (conditionText operator numeral).toList).tokens.map Token.kind =
        (conditionWords operator numeral).map Written.kind ∧
      (Scan.ofText (conditionText operator numeral).toList).faults = [] := by
  have text : (conditionText operator numeral).toList =
      written (conditionWords operator numeral) := by
    simp [conditionText, conditionWords, written]
  have spelled : ∀ word ∈ conditionWords operator numeral, Spells word.chars word.kind := by
    simp only [conditionWords, List.forall_mem_cons]
    refine ⟨?_, operator_spelled (.numeric operator numeral.value), .number numeral, by simp⟩
    exact .field _ ⟨⟨'x', [], rfl, by decide⟩, List.all_eq_true.mp (by decide), by decide⟩
  have blank : ∀ word ∈ conditionWords operator numeral, ∀ char ∈ word.gap,
      isBlank char = true := by
    have space : isBlank ' ' = true := by decide
    simp [conditionWords, space]
  have apart : (conditionWords operator numeral).IsChain fun word next =>
      ¬ Merges word.kind next.kind := by
    cases operator <;> simp [conditionWords, Merges, operatorOf]
  obtain ⟨kinds, causes⟩ :=
    pieces_written _ spelled blank (by simp [conditionWords]) apart
  obtain ⟨tokens, faultless⟩ := scan_text (conditionText operator numeral).toList
  rw [text] at tokens faultless ⊢
  exact ⟨tokens.trans kinds, faultless.mpr causes⟩

/-- The condition is compiled to the comparison that it shows. -/
theorem compile_numeral :
    ∃ column, Condition.compile (conditionText operator numeral) =
      .ok ⟨conditionText operator numeral,
        .comparison ⟨⟨"x", column⟩, .numeric operator numeral.value⟩⟩ := by
  obtain ⟨kinds, faultless⟩ := scan_condition operator numeral
  simp only [conditionWords, List.map_cons, List.map_nil] at kinds
  obtain ⟨field, rest, words, named, kinds⟩ := List.map_eq_cons_iff.mp kinds
  obtain ⟨sign, rest, rfl, signed, kinds⟩ := List.map_eq_cons_iff.mp kinds
  obtain ⟨literal, rest, rfl, valued, kinds⟩ := List.map_eq_cons_iff.mp kinds
  obtain rfl : rest = [] := List.map_eq_nil_iff.mp kinds
  have taken : Takes sign.kind literal.kind (.numeric operator numeral.value) :=
    takes_iff.mpr ⟨signed, valued⟩
  have derived : Derives .condition [field, sign, literal]
      (.comparison ⟨⟨"x", field.place.column⟩, .numeric operator numeral.value⟩) :=
    .condition [field, sign, literal] [] _ _
      (.comparison field sign literal "x" _ named taken) (.finished _)
  have shallow : 1 ≤ maximumDepth := by decide
  refine ⟨field.place.column, (NormalText.compile_iff _ _).mpr ⟨rfl, ?_⟩⟩
  exact (parse_iff_derives _ _).mpr ⟨faultless, words ▸ derived, shallow⟩

end Conditions

section Comparing

variable {numeral : Number.Numeral} {record : Record}

/-- Equal numbers compare as a number with itself: neither is below the other. -/
theorem holds_of_equals {left right : Binary64} (same : left.equals right = true)
    (operator : NumericOperator) : operator.holds left right = holdsOfSame operator := by
  obtain ⟨rank, onLeft, onRight⟩ : ∃ rank, left.rank? = some rank ∧ right.rank? = some rank := by
    unfold Binary64.equals Binary64.related at same
    split at same
    · rename_i first second onLeft onRight
      exact ⟨first, onLeft, onRight.trans (congrArg some (of_decide_eq_true same).symm)⟩
    · cases same
  cases operator <;> simp [NumericOperator.holds, holdsOfSame, Binary64.equals, Binary64.below,
    Binary64.atMost, Binary64.related, onLeft, onRight]

/-- A number that has a sign and a magnitude, or is infinite, is equal to itself. -/
theorem equals_of_magnitude (negative : Bool) (magnitude : Option Magnitude) :
    (Binary64.ofMagnitude? negative magnitude).equals (.ofMagnitude? negative magnitude) =
      true := by
  cases magnitude <;> simp [Binary64.ofMagnitude?, Binary64.equals, Binary64.related,
    Binary64.rank?]

/-- The conditions compile, and compare the number that the value is read as with the numeral. -/
theorem evaluate_numeral {value : Value} {number : Binary64}
    (bound : record.get? "x" = some value) (read : Binary64.read value.chars = .ok number)
    (operator : NumericOperator) :
    ∃ condition, Condition.compile (conditionText operator numeral) = .ok condition ∧
      condition.evaluate record = .ok (operator.holds number numeral.value) := by
  obtain ⟨column, compiled⟩ := compile_numeral operator numeral
  refine ⟨_, compiled, ?_⟩
  rw [Condition.evaluate, Meaning.evaluate_comparison]
  simp only [Comparison.evaluate, FieldReference.lookup, bound, read, bind, Except.bind]

/-- The record has got the number for `x`. -/
theorem bound_number (number : Binary64) :
    (Table.empty.insert "x" (.number number) : Record).get? "x" = some (.number number) := by
  rw [Table.get?_insert, if_pos rfl]

/-- All comparisons of a value with the numeral come out as claimed exactly if the number that the
value is read as equals the numeral. -/
theorem agrees_iff {value : Value} {number : Binary64} (bound : record.get? "x" = some value)
    (read : Binary64.read value.chars = .ok number) :
    Agrees numeral record ↔ number.equals numeral.value = true := by
  constructor
  · intro agrees
    obtain ⟨condition, compiled, outcome⟩ := agrees .equal
    obtain ⟨other, compiledAgain, compared⟩ := evaluate_numeral bound read .equal
    obtain rfl : other = condition := Except.ok.inj (compiledAgain.symm.trans compiled)
    exact Except.ok.inj (compared.symm.trans outcome)
  · intro same operator
    rw [← holds_of_equals same operator]
    exact evaluate_numeral bound read operator

/-- The digits of a numeral as a text are read as the numeral in the condition is, so they agree
with it however many they are. -/
theorem text_agrees (bound : record.get? "x" = some (.text (String.ofList numeral.chars))) :
    Agrees numeral record := by
  have read : Binary64.read (Value.text (String.ofList numeral.chars)).chars =
      .ok numeral.value := by
    rw [Value.chars, String.toList_ofList, numeral.read_chars]
  exact (agrees_iff bound read).mpr (equals_of_magnitude _ _)

/-- A numeral that is written for `x` in a record and in a condition agrees with itself if the
reader of documents rounds it only once: if it is an integer of 64 bits, or if its digits are at
most 2⁵³ and at most twenty-two of them stand behind the point. In general it agrees with itself
exactly if the number that the record has got is equal to the double nearest to the numeral. -/
theorem numeral_agrees (numeral : Number.Numeral) (plain : Plain numeral) :
    (Short numeral →
      ∃ record, Record.read (recordText numeral) = .ok record ∧ Agrees numeral record) ∧
    ∀ record, Record.read (recordText numeral) = .ok record →
      ∃ number, record.get? "x" = some (.number number) ∧
        (Agrees numeral record ↔ number.equals numeral.value = true) := by
  constructor
  · intro short
    refine ⟨_, read_record_short plain short, ?_⟩
    rw [agrees_iff (bound_number numeral.value) numeral.value.read_text]
    exact equals_of_magnitude _ _
  · intro record decoded
    obtain ⟨number, read⟩ | ⟨fault, refused⟩ := read_record plain
    · obtain rfl : Table.empty.insert "x" (.number number) = record :=
        Except.ok.inj (read.symm.trans decoded)
      exact ⟨number, bound_number number, agrees_iff (bound_number number) number.read_text⟩
    · cases refused.symm.trans decoded

/-- The numeral `90071992547409.92`, whose digits are 2⁵³. -/
def widest : Number.Numeral :=
  ⟨[], ['9', '0', '0', '7', '1', '9', '9', '2', '5', '4', '7', '4', '0', '9'], ['9', '2'],
    by decide, by decide, List.all_eq_true.mp (by decide), List.all_eq_true.mp (by decide)⟩

/-- The numeral agrees with itself. -/
theorem widest_agrees :
    Plain widest ∧ Short widest ∧
      ∃ record, Record.read (recordText widest) = .ok record ∧ Agrees widest record := by
  have plain : Plain widest := ⟨by decide, by simp [widest]⟩
  have short : Short widest := .inr (by decide)
  exact ⟨plain, short, (numeral_agrees widest plain).1 short⟩

/-- The numeral `1.7976931348623157`, the shortest text of a double. -/
def shortestText : Number.Numeral :=
  ⟨[], ['1'], "7976931348623157".toList, by decide, by decide,
    List.all_eq_true.mp (by decide), List.all_eq_true.mp (by decide)⟩

/-- The double before the one that the numeral is the text of. -/
def unitBelow : Binary64 := Decimal.toBinary64 false ⟨17976931348623155, -16⟩

/-- The reader of documents makes the double before it of the numeral, so a condition with the same
numeral does not find the number of the record equal to it. -/
theorem shortest_text_disagrees :
    Plain shortestText ∧ ∃ record, Record.read (recordText shortestText) = .ok record ∧
      record.get? "x" = some (.number unitBelow) ∧ ¬ Agrees shortestText record ∧
      ∃ condition, Condition.compile (conditionText .equal shortestText) = .ok condition ∧
        condition.evaluate record = .ok false := by
  have plain : Plain shortestText := ⟨by decide, by simp [shortestText]⟩
  have read : Record.read (recordText shortestText) =
      .ok (Table.empty.insert "x" (.number unitBelow)) := by decide +kernel
  have apart : unitBelow.equals shortestText.value = false := by decide +kernel
  refine ⟨plain, _, read, bound_number unitBelow, ?_, ?_⟩
  · rw [agrees_iff (bound_number unitBelow) unitBelow.read_text, apart]
    exact Bool.false_ne_true
  · rw [← apart]
    exact evaluate_numeral (bound_number unitBelow) unitBelow.read_text .equal

end Comparing

end RecordRules.NumeralAgreement
