import RecordRules.Proofs.Condition.Lexing
import RecordRules.Proofs.Text.Places

/-!
# Every character of a text is accounted for

Any text, well-formed or not, splits into segments one behind the other: runs of blanks, words as
they are written, and stretches that are no words. A stretch of the last kind is one character at
which no word begins, or all that is left of the text behind a quote or a bracket that is never
closed. The words and the errors of the scan are these segments in their order, and the place of
each is counted from the characters before it. So scanning loses nothing and misplaces nothing.
-/

namespace RecordRules.Segments

open Number Text Lexeme Characters Spelling Cutting Lexing

/-- Behind the characters `before`, the characters ahead split into segments, of which some are
these words and some are these errors, in the order of the text. -/
inductive Segmented : List Char → List Char → List Token → List SyntaxError → Prop
  | finished (before : List Char) : Segmented before [] [] []
  | blanks (before blanks ahead : List Char) (words : List Token) (faults : List SyntaxError)
      (some : blanks ≠ []) (blank : ∀ char ∈ blanks, isBlank char = true)
      (later : Segmented (before ++ blanks) ahead words faults) :
      Segmented before (blanks ++ ahead) words faults
  | word (before ahead : List Char) (word : Token) (words : List Token)
      (faults : List SyntaxError) (spelled : Spells word.text.toList word.kind)
      (placed : word.place = Place.behind before)
      (later : Segmented (before ++ word.text.toList) ahead words faults) :
      Segmented before (word.text.toList ++ ahead) (word :: words) faults
  | stray (before : List Char) (char : Char) (ahead : List Char) (words : List Token)
      (fault : SyntaxError) (faults : List SyntaxError)
      (quoted : fault.cause = .unrecognized (String.singleton char))
      (shown : isBlank char = false)
      (foreign : ∀ chars kind, Spells chars kind → ¬ chars <+: char :: ahead)
      (placed : fault.place = Place.behind before)
      (later : Segmented (before ++ [char]) ahead words faults) :
      Segmented before (char :: ahead) words (fault :: faults)
  | openText (before content : List Char) (fault : SyntaxError)
      (quoted : fault.cause = .unrecognized (String.ofList ('"' :: content)))
      (unclosed : '"' ∉ content) (placed : fault.place = Place.behind before) :
      Segmented before ('"' :: content) [] [fault]
  | openList (before content : List Char) (fault : SyntaxError)
      (named : fault.cause = .unterminatedList)
      (unclosed : splitList 0 .bare ('[' :: content) = none)
      (placed : fault.place = Place.behind before) :
      Segmented before ('[' :: content) [] [fault]

/-- Where a symbol stands first, one is found, though it may be a longer one. -/
theorem symbol_found {chars : List Char} {kind : Token.Kind} (only : symbol? kind = some chars)
    (behind : List Char) :
    ∃ found taken later, Piece.splitSymbol (chars ++ behind) = some (found, taken, later) := by
  have longer : ∀ first : Char, first = '>' ∨ first = '<' →
      ∃ found taken later, Piece.splitSymbol (first :: behind) = some (found, taken, later) := by
    intro first isOrder
    by_cases equals : ∃ rest, behind = '=' :: rest
    · obtain ⟨rest, rfl⟩ := equals
      rcases isOrder with rfl | rfl <;> exact ⟨_, _, _, rfl⟩
    · rcases isOrder with rfl | rfl
      · refine ⟨.greater, ['>'], behind, ?_⟩
        unfold Piece.splitSymbol
        split <;> simp_all
      · refine ⟨.less, ['<'], behind, ?_⟩
        unfold Piece.splitSymbol
        split <;> simp_all
  cases kind <;> simp only [symbol?, Option.some.injEq, reduceCtorEq] at only
  case greater | less =>
    subst only
    exact longer _ (by simp)
  all_goals
    subst only
    exact ⟨_, _, _, rfl⟩

/-- Letters are read as a word. -/
theorem word_of_begins {first : Char} (rest : List Char) (begins : beginsWord first = true) :
    ∃ kind, (Piece.split first rest).1.content = .word kind := by
  have worded := worded_of_word (first :: rest)
  rw [cut_word rest begins]
  generalize Piece.ofWord (first :: rest) = result at worded
  cases worded <;> exact ⟨_, rfl⟩

/-- A number is read as a word, however many digits it has. -/
theorem word_of_digits {sign text : List Char} (signed : sign = [] ∨ sign = ['-'] ∨ sign = ['+'])
    (follows : text.head?.any Char.isDigit = true) :
    ∃ kind, (Piece.ofNumber sign text).1.content = .word kind := by
  obtain ⟨numeral, read⟩ := numeral_of_number signed (digits_of_head follows)
  exact ⟨_, by rw [read]⟩

/-- Where a numeral stands first, a word is read. -/
theorem word_of_numeral {first : Char} {rest behind : List Char} (numeral : Numeral)
    (starts : numeral.chars ++ behind = first :: rest) :
    ∃ kind, (Piece.split first rest).1.content = .word kind := by
  obtain ⟨digit, more, whole, isDigit⟩ := numeral.whole_eq_cons
  have follows : (numeral.whole ++ (numeral.point ++ behind)).head?.any Char.isDigit = true := by
    simp [whole, isDigit]
  rw [Numeral.chars, List.append_assoc, List.append_assoc] at starts
  have signed : ∀ sign : Char, (sign = '-' ∨ sign = '+') → numeral.sign = [sign] →
      ∃ kind, (Piece.split first rest).1.content = .word kind := by
    intro sign isSign known
    rw [known, List.singleton_append] at starts
    obtain ⟨rfl, rfl⟩ := List.cons.inj starts
    rw [cut_sign isSign follows]
    exact word_of_digits (sign_of_char isSign) follows
  rcases numeral.signed with none | minus | plus
  · rw [none, List.nil_append] at starts
    rw [starts] at follows
    rw [cut_digit rest follows]
    exact word_of_digits (.inl rfl) follows
  · exact signed '-' (.inl rfl) minus
  · exact signed '+' (.inr rfl) plus

/-- Where a word begins, a word is read, though it may be a longer one. -/
theorem word_of_spelled {first : Char} {rest chars behind : List Char} {kind : Token.Kind}
    (spelled : Spells chars kind) (starts : chars ++ behind = first :: rest) :
    ∃ read, (Piece.split first rest).1.content = .word read := by
  have letters : ∀ {head : Char} {tail : List Char}, chars = head :: tail →
      beginsWord head = true → ∃ read, (Piece.split first rest).1.content = .word read := by
    rintro head tail rfl begins
    obtain ⟨rfl, _⟩ := List.cons.inj starts
    exact word_of_begins rest begins
  have keyword : ∀ {run : List Char} {word : String}, word ∈ reservedWords →
      spells run word = true → (∃ more, chars = run ++ more) →
      ∃ read, (Piece.split first rest).1.content = .word read := by
    rintro run word reserved spelled ⟨more, same⟩
    obtain ⟨begins, _⟩ := word_of_letters (letters_of_spells reserved spelled)
    obtain ⟨head, tail, rfl⟩ := cons_of_spells reserved spelled
    exact letters same (begins head (by simp))
  cases spelled with
  | symbol _ _ only =>
    obtain ⟨found, taken, later, split⟩ := symbol_found only behind
    obtain ⟨head, tail, rfl, shown, _⟩ := first_symbol only
    obtain ⟨rfl, rfl⟩ := List.cons.inj starts
    rw [List.cons_append] at split
    exact ⟨found, by simp [Piece.split, shown, split]⟩
  | keyword _ _ word known spelled =>
    exact keyword (reserved_keyword known) spelled ⟨[], (List.append_nil _).symm⟩
  | notIn run blanks last denies some blank contains =>
    exact keyword (by simp [reservedWords]) denies ⟨blanks ++ last, rfl⟩
  | field _ name =>
    obtain ⟨head, tail, same, begins⟩ := name.begins
    exact letters same begins
  | number numeral => exact word_of_numeral numeral starts
  | text content plain =>
    rw [List.cons_append] at starts
    obtain ⟨rfl, rfl⟩ := List.cons.inj starts
    exact ⟨_, by rw [cut_text plain behind]⟩
  | list tail balanced =>
    rw [List.cons_append] at starts
    obtain ⟨rfl, rfl⟩ := List.cons.inj starts
    exact ⟨_, by rw [cut_list balanced behind]⟩

/-- How a stretch that is no word comes about, by the first character of the text. -/
inductive Faulty (first : Char) (rest : List Char) : Piece × List Char → Prop
  | stray : Faulty first rest (⟨[first], .fault (.unrecognized (String.singleton first))⟩, rest)
  | openText (quote : first = '"') (unclosed : '"' ∉ rest) :
      Faulty first rest (⟨'"' :: rest, .fault (.unrecognized (String.ofList ('"' :: rest)))⟩, [])
  | openList (bracket : first = '[') (unclosed : splitList 0 .bare ('[' :: rest) = none) :
      Faulty first rest (⟨'[' :: rest, .fault .unterminatedList⟩, [])

/-- A text literal that is not closed has no quote behind its first one. -/
theorem unclosed_of_split {rest : List Char} (split : splitText rest = none) : '"' ∉ rest := by
  intro quote
  obtain ⟨content, behind, rfl, plain⟩ := List.eq_append_cons_of_mem quote
  rw [split_text plain behind] at split
  cases split

/-- Every stretch that is no word comes about in one of these ways. Numbers and letters are never
refused. -/
theorem faulty_of_split {first : Char} {rest : List Char} {cause : SyntaxError.Cause}
    (fault : (Piece.split first rest).1.content = .fault cause) :
    Faulty first rest (Piece.split first rest) := by
  have noNumber : ∀ {sign text : List Char}, sign = [] ∨ sign = ['-'] ∨ sign = ['+'] →
      text.head?.any Char.isDigit = true →
      (Piece.ofNumber sign text).1.content ≠ .fault cause := by
    intro sign text signed follows same
    obtain ⟨kind, word⟩ := word_of_digits signed follows
    rw [word] at same
    cases same
  have cut := cut_split first rest
  generalize Piece.split first rest = result at fault cut
  cases cut with
  | blank | symbol => cases fault
  | text quote =>
    unfold Piece.ofText at fault ⊢
    cases split : splitText rest with
    | none => exact .openText quote (unclosed_of_split split)
    | some parts => simp [split] at fault
  | list bracket =>
    subst bracket
    unfold Piece.ofList at fault ⊢
    cases split : splitList 0 .bare ('[' :: rest) with
    | none => exact .openList rfl split
    | some parts => simp [split] at fault
  | unsigned digit => exact absurd fault (noNumber (.inl rfl) digit)
  | signed sign follows => exact absurd fault (noNumber (sign_of_char sign) follows)
  | word begins =>
    have worded := worded_of_word (first :: rest)
    generalize Piece.ofWord (first :: rest) = result at fault worded
    cases worded <;> cases fault
  | stray => exact .stray

/-- What is taken for blanks is blank. -/
theorem blank_of_content {first : Char} {rest : List Char}
    (content : (Piece.split first rest).1.content = .blank) :
    ∀ char ∈ (Piece.split first rest).1.chars, isBlank char = true := by
  have isBlank := blank_of_split content
  simp only [Piece.split, isBlank, if_true, List.forall_mem_cons]
  exact ⟨trivial, fun char => of_mem_takeWhile⟩

/-- A stretch that is no word begins with no word and with no blank. -/
theorem foreign_of_fault {first : Char} {rest : List Char} {cause : SyntaxError.Cause}
    (fault : (Piece.split first rest).1.content = .fault cause) :
    isBlank first = false ∧ ∀ chars kind, Spells chars kind → ¬ chars <+: first :: rest := by
  constructor
  · cases blank : isBlank first with
    | false => rfl
    | true => simp [Piece.split, blank] at fault
  · rintro chars kind spelled ⟨behind, starts⟩
    obtain ⟨read, word⟩ := word_of_spelled spelled starts
    rw [word] at fault
    cases fault

/-- A word is a segment of its characters. -/
theorem segmented_word {before chars ahead : List Char} {kind : Token.Kind} {words : List Token}
    {faults : List SyntaxError} (spelled : Spells chars kind)
    (later : Segmented (before ++ chars) ahead words faults) :
    Segmented before (chars ++ ahead)
      (⟨kind, String.ofList chars, Place.behind before⟩ :: words) faults := by
  have same : (String.ofList chars).toList = chars := String.toList_ofList
  have segment := Segmented.word before ahead ⟨kind, String.ofList chars, Place.behind before⟩
    words faults
  rw [same] at segment
  exact segment spelled rfl later

/-- Behind any characters, a text is segmented into the words and the errors of its pieces.

The induction follows the pieces. The characters before a piece are carried along, since the place
of the piece is counted from all of them. -/
theorem segmented_pieces (text before : List Char) :
    Segmented before text (Scan.ofPieces (Place.behind before) (pieces text)).tokens
      (Scan.ofPieces (Place.behind before) (pieces text)).faults := by
  induction text using pieces.induct generalizing before with
  | case1 =>
    rw [pieces]
    exact .finished before
  | case2 first rest inductionHypothesis =>
    obtain ⟨whole, some⟩ := Piece.split_append first rest
    have later := inductionHypothesis (before ++ (Piece.split first rest).1.chars)
    rw [Place.behind_append] at later
    rw [pieces, Scan.ofPieces, Scan.prepend]
    cases content : (Piece.split first rest).1.content with
    | blank =>
      rw [← whole]
      exact .blanks _ _ _ _ _ some (blank_of_content content) later
    | word kind =>
      rw [← whole]
      exact segmented_word (spelled_split content) later
    | fault cause =>
      obtain ⟨shown, foreign⟩ := foreign_of_fault content
      have faulty := faulty_of_split content
      generalize Piece.split first rest = result at content faulty later
      cases faulty with
      | stray =>
        obtain rfl := Piece.Content.fault.inj content
        exact .stray _ _ _ _ _ _ rfl shown foreign rfl later
      | openText quote unclosed =>
        obtain rfl := Piece.Content.fault.inj content
        subst quote
        rw [pieces]
        exact .openText _ _ _ rfl unclosed rfl
      | openList bracket unclosed =>
        obtain rfl := Piece.Content.fault.inj content
        subst bracket
        rw [pieces]
        exact .openList _ _ _ rfl unclosed rfl

/-- An error of a scan is about a stretch that is no word or about a list that is not closed. -/
theorem cause_of_segmented {before ahead : List Char} {words : List Token}
    {faults : List SyntaxError} (segmented : Segmented before ahead words faults) :
    ∀ fault ∈ faults,
      (∃ quoted, fault.cause = .unrecognized quoted) ∨ fault.cause = .unterminatedList := by
  induction segmented with
  | finished => simp
  | blanks _ _ _ _ _ _ _ _ inductionHypothesis => exact inductionHypothesis
  | word _ _ _ _ _ _ _ _ inductionHypothesis => exact inductionHypothesis
  | stray _ _ _ _ _ _ quoted _ _ _ _ inductionHypothesis =>
    exact List.forall_mem_cons.mpr ⟨.inl ⟨_, quoted⟩, inductionHypothesis⟩
  | openText _ _ _ quoted => exact List.forall_mem_singleton.mpr (.inl ⟨_, quoted⟩)
  | openList _ _ _ named => exact List.forall_mem_singleton.mpr (.inr named)

/-- A text is segmented into the words and the errors of its scan. -/
theorem segmented_text (text : List Char) :
    Segmented [] text (Scan.ofText text).tokens (Scan.ofText text).faults :=
  segmented_pieces text []

/-- A text ends at the place behind all of its characters. -/
theorem finish_text (text : List Char) : (Scan.ofText text).finish = Place.behind text := by
  rw [Scan.ofText, Scan.finish_ofPieces, flatMap_chars_pieces, Place.after_start]

/-- Scanning loses nothing, and its places are exact: the characters of any text split into
segments which are its words, as they are written, its errors and runs of blanks, each placed by
counting the lines and the characters before it. The text ends at the place behind all of its
characters. No line and no column is larger than the number of characters and one. -/
theorem scan_segmented (text : List Char) :
    Segmented [] text (Scan.ofText text).tokens (Scan.ofText text).faults ∧
      (Scan.ofText text).finish = Place.behind text ∧
      ∀ before, before <+: text →
        (Place.behind before).line + (Place.behind before).column ≤ text.length + 1 := by
  refine ⟨segmented_text text, finish_text text, ?_⟩
  intro before beginning
  exact Nat.le_trans (Place.behind_bound before) (Nat.succ_le_succ beginning.length_le)

/-- A string may go on over a line end, and the places behind it are counted from there. -/
example : ((Scan.ofText ['"', '\n', '"', ' ', '#', '[']).tokens.map Token.place,
    (Scan.ofText ['"', '\n', '"', ' ', '#', '[']).faults.map SyntaxError.place) =
      ([⟨1, 0⟩], [⟨2, 2⟩, ⟨2, 3⟩]) := by decide +kernel

end RecordRules.Segments
