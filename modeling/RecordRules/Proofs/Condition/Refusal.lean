import RecordRules.Proofs.Condition.NormalText
import RecordRules.Proofs.Condition.Segments
import RecordRules.Proofs.Condition.Wording

/-!
# Why a text is refused

A text that is no condition is refused with at least one error, and the message of every error can
be checked against the text: the characters that it quotes stand where it points, an end of the text
that it names is the end, and a parenthesis or a connective that makes a condition too deep is one.

Errors of the scan are segments of the text. Errors of reading are about the word that stands
ahead when they are noted, or about the end of the text. One invariant of cursors says so; every
step of reading keeps it, and a reader that finds no tree has noted an error.
-/

namespace RecordRules.Refusal

open Text Lexeme Spelling Parsing Progress Recognition Segments Wording

/-- A word that adds a level to a tree. -/
inductive Nests : Token.Kind → Prop
  | opening : Nests .opening
  | connective (connective : Connective) : Nests (.connective connective)

/-- What a message quotes is ahead: some characters, or nothing at all where it quotes the end of the
text. -/
inductive Shown (ahead : List Char) : String → Prop
  | word (text : String) (some : text ≠ "") (other : text ≠ "<EOF>")
      (written : text.toList <+: ahead) : Shown ahead text
  | endOfText (nothing : ahead = []) : Shown ahead "<EOF>"

/-- A word stands at a place with these characters ahead. -/
structure Stands (word : Token) (place : Place) (ahead : List Char) : Prop where
  placed : word.place = place
  written : word.text.toList <+: ahead
  spelled : Spells word.text.toList word.kind

/-- A cause applies to the characters ahead of its place. That a number is invalid never does. -/
inductive Applies (words : List Token) (place : Place) (ahead : List Char) :
    SyntaxError.Cause → Prop
  | unrecognized (text : String) (some : text ≠ "") (written : text.toList <+: ahead) :
      Applies words place ahead (.unrecognized text)
  | unterminatedList (bracket : ['['] <+: ahead) : Applies words place ahead .unterminatedList
  | mismatched (found : Found) (expected : Expected) (shown : Shown ahead found.message) :
      Applies words place ahead (.mismatched found expected)
  | missingClosing (found : Found) (shown : Shown ahead found.message) :
      Applies words place ahead (.missingClosing found)
  | extraneous (found : Found) (shown : Shown ahead found.message) :
      Applies words place ahead (.extraneous found)
  | nestedTooDeeply (word : Token) (member : word ∈ words) (stands : Stands word place ahead)
      (nests : Nests word.kind) : Applies words place ahead .nestedTooDeeply

/-- A message has one of six forms, three of which quote what was found and one what cannot begin a
word. -/
inductive Worded : String → Prop
  | unrecognized (text : String) : Worded ("token recognition error at: '" ++ text ++ "'")
  | unterminatedList : Worded "unterminated array literal"
  | mismatched (text : String) (expected : Expected) :
      Worded ("mismatched input '" ++ text ++ "' expecting " ++ expected.message)
  | missingClosing (text : String) : Worded ("missing ')' at '" ++ text ++ "'")
  | extraneous (text : String) : Worded ("extraneous input '" ++ text ++ "' expecting <EOF>")
  | nestedTooDeeply : Worded "expression nested too deeply"

/-- A message is right about the characters ahead of its place: whatever it quotes is ahead, or
nothing is if it quotes the end of the text; a list that it says to have no end begins there; and a
word stands there that adds a level, if it says that the text is too deep. -/
structure Explains (words : List Token) (place : Place) (ahead : List Char) (message : String) :
    Prop where
  worded : Worded message
  unrecognized : ∀ text, message = "token recognition error at: '" ++ text ++ "'" →
    text ≠ "" ∧ text.toList <+: ahead
  unterminatedList : message = "unterminated array literal" → ['['] <+: ahead
  mismatched : ∀ text (expected : Expected),
    message = "mismatched input '" ++ text ++ "' expecting " ++ expected.message →
      Shown ahead text
  missingClosing : ∀ text, message = "missing ')' at '" ++ text ++ "'" → Shown ahead text
  extraneous : ∀ text, message = "extraneous input '" ++ text ++ "' expecting <EOF>" →
    Shown ahead text
  nestedTooDeeply : message = "expression nested too deeply" →
    ∃ word ∈ words, Stands word place ahead ∧ Nests word.kind

/-- The message of a cause that applies is right.

A message tells its cause, so a message that could be read in two ways would be right in both. -/
theorem explains_of_applies {words : List Token} {place : Place} {ahead : List Char}
    {cause : SyntaxError.Cause} (applies : Applies words place ahead cause) :
    Explains words place ahead cause.message where
  worded := by cases applies <;> constructor
  unrecognized text same := by
    obtain rfl := message_unrecognized_iff.mp same
    cases applies with
    | unrecognized _ some written => exact ⟨some, written⟩
  unterminatedList same := by
    obtain rfl := message_unterminated_list_iff.mp same
    cases applies with
    | unterminatedList bracket => exact bracket
  mismatched text expected same := by
    obtain ⟨found, rfl, rfl⟩ := message_mismatched_iff.mp same
    cases applies with
    | mismatched _ _ shown => exact shown
  missingClosing text same := by
    obtain ⟨found, rfl, rfl⟩ := message_missing_closing_iff.mp same
    cases applies with
    | missingClosing _ shown => exact shown
  extraneous text same := by
    obtain ⟨found, rfl, rfl⟩ := message_extraneous_iff.mp same
    cases applies with
    | extraneous _ shown => exact shown
  nestedTooDeeply same := by
    obtain rfl := message_nested_too_deeply_iff.mp same
    cases applies with
    | nestedTooDeeply word member stands nests => exact ⟨word, member, stands, nests⟩

/-- Behind some characters, something holds at one place of the characters ahead. -/
def Somewhere (before ahead : List Char) (holds : Place → List Char → Prop) : Prop :=
  ∃ front rest, ahead = front ++ rest ∧ holds (Place.behind (before ++ front)) rest

/-- What holds at the beginning holds somewhere. -/
theorem somewhere_here {before ahead : List Char} {holds : Place → List Char → Prop}
    (here : holds (Place.behind before) ahead) : Somewhere before ahead holds :=
  ⟨[], ahead, rfl, by rwa [List.append_nil]⟩

/-- What holds somewhere behind more characters holds somewhere. -/
theorem somewhere_later {before ahead : List Char} {holds : Place → List Char → Prop}
    (chars : List Char) (later : Somewhere (before ++ chars) ahead holds) :
    Somewhere before (chars ++ ahead) holds := by
  obtain ⟨front, rest, rfl, holding⟩ := later
  exact ⟨chars ++ front, rest, (List.append_assoc _ _ _).symm, by rwa [← List.append_assoc]⟩

/-- Every word of a segmented text stands somewhere in it, and every error of it is right about
the characters ahead of it. -/
theorem segmented_stands {before ahead : List Char} {words : List Token}
    {faults : List SyntaxError} (segmented : Segmented before ahead words faults)
    (all : List Token) :
    (∀ word ∈ words, Somewhere before ahead (Stands word)) ∧
      ∀ fault ∈ faults, Somewhere before ahead fun place rest =>
        fault.place = place ∧ Applies all place rest fault.cause := by
  induction segmented with
  | finished before => simp
  | blanks before blanks ahead words faults some blank later inductionHypothesis =>
    obtain ⟨standing, explained⟩ := inductionHypothesis
    exact ⟨fun word member => somewhere_later blanks (standing word member),
      fun fault member => somewhere_later blanks (explained fault member)⟩
  | word before ahead word words faults spelled placed later inductionHypothesis =>
    obtain ⟨standing, explained⟩ := inductionHypothesis
    refine ⟨?_, fun fault member => somewhere_later _ (explained fault member)⟩
    intro other member
    rcases List.mem_cons.mp member with rfl | behind
    · exact somewhere_here ⟨placed, List.prefix_append _ _, spelled⟩
    · exact somewhere_later _ (standing other behind)
  | stray before char ahead words fault faults quoted shown foreign placed later
      inductionHypothesis =>
    obtain ⟨standing, explained⟩ := inductionHypothesis
    refine ⟨fun word member => somewhere_later [char] (standing word member), ?_⟩
    intro other member
    rcases List.mem_cons.mp member with rfl | behind
    · refine somewhere_here ⟨placed, ?_⟩
      rw [quoted]
      exact .unrecognized _ (by simp [← String.toList_inj]) ⟨ahead, by simp⟩
    · exact somewhere_later [char] (explained other behind)
  | openText before content fault quoted unclosed placed =>
    refine ⟨by simp, ?_⟩
    intro other member
    obtain rfl := List.mem_singleton.mp member
    refine somewhere_here ⟨placed, ?_⟩
    rw [quoted]
    exact .unrecognized _ (by simp [← String.toList_inj]) ⟨[], by simp⟩
  | openList before content fault named unclosed placed =>
    refine ⟨by simp, ?_⟩
    intro other member
    obtain rfl := List.mem_singleton.mp member
    refine somewhere_here ⟨placed, ?_⟩
    rw [named]
    exact .unterminatedList ⟨content, rfl⟩

/-- What an error of reading quotes. -/
def found? : SyntaxError.Cause → Option Found
  | .mismatched found _ => some found
  | .missingClosing found => some found
  | .extraneous found => some found
  | _ => none

/-- An error of reading is about a word, about the end of the text, or about a word that makes the
condition too deep. -/
inductive About (scan : Scan) : SyntaxError → Prop
  | word (word : Token) (member : word ∈ scan.tokens) (cause : SyntaxError.Cause)
      (quotes : found? cause = some (.word word.text)) : About scan ⟨cause, word.place⟩
  | endOfText (cause : SyntaxError.Cause) (quotes : found? cause = some .endOfText) :
      About scan ⟨cause, scan.finish⟩
  | tooDeep (word : Token) (member : word ∈ scan.tokens) (nests : Nests word.kind) :
      About scan ⟨.nestedTooDeeply, word.place⟩

/-- A cursor in the words of a scan whose errors are about them, and which has noted one if the
condition is too deep. -/
structure Grounded (scan : Scan) (cursor : Cursor) : Prop where
  ahead : ∀ word ∈ cursor.ahead, word ∈ scan.tokens
  finish : cursor.finish = scan.finish
  reported : ∀ error ∈ cursor.reported, About scan error
  tooDeep : cursor.tooDeep = true → cursor.reported ≠ []

/-- Reading has led to a grounded cursor, and to a tree unless an error was noted. -/
structure Accounted (scan : Scan) (result : Result) : Prop where
  grounded : Grounded scan result.2
  noted : result.1 = none → result.2.reported ≠ []

section Steps

variable {scan : Scan} {cursor : Cursor}

/-- An error that quotes what is ahead is about it. -/
theorem about_found (grounded : Grounded scan cursor) {cause : SyntaxError.Cause}
    (quotes : found? cause = some cursor.found) : About scan ⟨cause, cursor.place⟩ := by
  unfold Cursor.found at quotes
  unfold Cursor.place
  cases ahead : cursor.ahead with
  | nil =>
    rw [ahead] at quotes
    rw [grounded.finish]
    exact .endOfText cause quotes
  | cons word rest =>
    rw [ahead] at quotes
    exact .word word (grounded.ahead word (by simp [ahead])) cause quotes

/-- Words may be left out of those ahead. -/
theorem grounded_sublist (grounded : Grounded scan cursor) {words : List Token}
    (fewer : words ⊆ cursor.ahead) : Grounded scan { cursor with ahead := words } :=
  ⟨fun word member => grounded.ahead word (fewer member), grounded.finish, grounded.reported,
    grounded.tooDeep⟩

/-- Reading a word. -/
theorem grounded_advance (grounded : Grounded scan cursor) : Grounded scan cursor.advance :=
  grounded_sublist grounded (List.tail_suffix _).subset

/-- Noting an error about what it is noted for. -/
theorem grounded_report (grounded : Grounded scan cursor) {cause : SyntaxError.Cause}
    {place : Place} (about : About scan ⟨cause, place⟩) :
    Grounded scan (cursor.report cause place) := by
  refine ⟨grounded.ahead, grounded.finish, ?_, fun _ => List.cons_ne_nil _ _⟩
  intro error member
  rcases List.mem_cons.mp member with rfl | earlier
  · exact about
  · exact grounded.reported error earlier

/-- Noting a mismatch and skipping what cannot be read behind it. -/
theorem grounded_mismatch (grounded : Grounded scan cursor) (expected : Expected) :
    Grounded scan (cursor.mismatch expected) :=
  grounded_sublist (grounded_report grounded (about_found grounded rfl))
    (List.dropWhile_subset _)

/-- Giving up at a word that makes the condition too deep. -/
theorem grounded_abandon (grounded : Grounded scan cursor) {word : Token}
    (member : word ∈ scan.tokens) (nests : Nests word.kind) :
    Grounded scan (cursor.abandon word.place) := by
  have noted := grounded_report grounded (.tooDeep word member nests)
  exact ⟨by simp [Cursor.abandon], noted.finish, noted.reported, fun _ => List.cons_ne_nil _ _⟩

/-- Reading or missing a closing parenthesis. -/
theorem grounded_close (grounded : Grounded scan cursor) : Grounded scan cursor.close := by
  unfold Cursor.close
  split
  · exact grounded_advance grounded
  · exact grounded_report grounded (about_found grounded rfl)

/-- Looking for the end of the text. -/
theorem grounded_finished (grounded : Grounded scan cursor) : Grounded scan cursor.finished := by
  unfold Cursor.finished
  split
  · exact grounded
  · rename_i word rest ahead
    exact grounded_report grounded (.word word (grounded.ahead word (by simp [ahead])) _ rfl)

/-- A mismatch is an account of why there is no tree. -/
theorem accounted_mismatch (grounded : Grounded scan cursor) (expected : Expected) :
    Accounted scan (none, cursor.mismatch expected) :=
  ⟨grounded_mismatch grounded expected, fun _ => List.cons_ne_nil _ _⟩

/-- Giving up is an account of why there is no tree. -/
theorem accounted_abandon (grounded : Grounded scan cursor) {word : Token}
    (member : word ∈ scan.tokens) (nests : Nests word.kind) :
    Accounted scan (none, cursor.abandon word.place) :=
  ⟨grounded_abandon grounded member nests, fun _ => List.cons_ne_nil _ _⟩

/-- A comparison, whether or not its words make one. -/
theorem accounted_comparison (grounded : Grounded scan cursor) (field : FieldReference) :
    Accounted scan (comparison field cursor) := by
  unfold comparison
  split
  · exact accounted_mismatch grounded _
  · split
    · exact accounted_mismatch grounded _
    · dsimp only
      split
      · exact ⟨grounded_advance (grounded_advance grounded), by simp⟩
      · exact accounted_mismatch (grounded_advance grounded) _

/-- An error once noted stays noted. -/
theorem noted_leads {before after : Cursor} (leads : Leads before after)
    (noted : before.reported ≠ []) : after.reported ≠ [] := by
  intro none
  exact noted (List.suffix_nil.mp (none ▸ leads.reported))

variable {reader : Cursor → Result}

/-- Links are accounted for if each of their operands is, and what is on their left. -/
theorem accounted_links (leads : ∀ cursor, Leads cursor (reader cursor).2)
    (accounts : ∀ cursor, Grounded scan cursor → Accounted scan (reader cursor)) (rounds : Nat)
    (left : Option Expression) (cursor : Cursor) (accounted : Accounted scan (left, cursor)) :
    Accounted scan (links reader rounds left cursor) := by
  induction rounds generalizing left cursor with
  | zero => exact accounted
  | succ rounds inductionHypothesis =>
    rw [links]
    split
    · rename_i connective text place rest ahead
      have joint : (⟨.connective connective, text, place⟩ : Token) ∈ scan.tokens :=
        accounted.grounded.ahead _ (by simp [ahead])
      have read := accounts cursor.advance (grounded_advance accounted.grounded)
      have led : Leads cursor (reader cursor.advance).2 :=
        leads_trans (leads_advance cursor) (leads _)
      dsimp only
      split
      · split
        · exact accounted_abandon read.grounded joint (.connective connective)
        · exact inductionHypothesis _ _ ⟨read.grounded, by simp⟩
      · rename_i start _ _ missing
        refine inductionHypothesis _ _ ⟨read.grounded, fun _ => ?_⟩
        cases start with
        | none => exact noted_leads led (accounted.noted rfl)
        | some before =>
          apply read.noted
          cases right : (reader cursor.advance).1 with
          | none => rfl
          | some operand => exact absurd right (missing before operand rfl)
    · exact accounted

/-- A chain is accounted for if each of its operands is. -/
theorem accounted_chain (leads : ∀ cursor, Leads cursor (reader cursor).2)
    (accounts : ∀ cursor, Grounded scan cursor → Accounted scan (reader cursor))
    (grounded : Grounded scan cursor) : Accounted scan (chain reader cursor) :=
  accounted_links leads accounts _ _ _ (accounts cursor grounded)

/-- A group is accounted for if what it holds is. -/
theorem accounted_group {opening : Token} {inner : Result} (member : opening ∈ scan.tokens)
    (opens : opening.kind = .opening) (accounted : Accounted scan inner) :
    Accounted scan (group opening.place inner) := by
  obtain ⟨tree, cursor⟩ := inner
  have closed : Grounded scan cursor.close := grounded_close accounted.grounded
  simp only [group]
  split
  · rename_i deep
    exact ⟨accounted.grounded, fun _ => accounted.grounded.tooDeep deep⟩
  · split
    · exact ⟨closed, fun _ => noted_leads (leads_close cursor) (accounted.noted rfl)⟩
    · split
      · exact accounted_abandon closed member (opens ▸ .opening)
      · exact ⟨closed, by simp⟩

/-- An operand is accounted for, however many parentheses may be opened in it. -/
theorem accounted_operand (allowance : Nat) (cursor : Cursor) (grounded : Grounded scan cursor) :
    Accounted scan (operand allowance cursor) := by
  induction allowance generalizing cursor with
  | zero =>
    unfold operand
    split
    · rename_i text place rest ahead
      have opening : (⟨.opening, text, place⟩ : Token) ∈ scan.tokens :=
        grounded.ahead _ (by simp [ahead])
      exact accounted_abandon grounded opening .opening
    · exact accounted_comparison (grounded_advance grounded) _
    · exact accounted_mismatch grounded _
  | succ allowance inductionHypothesis =>
    unfold operand
    split
    · rename_i text place rest ahead
      have opening : (⟨.opening, text, place⟩ : Token) ∈ scan.tokens :=
        grounded.ahead _ (by simp [ahead])
      exact accounted_group opening rfl
        (accounted_chain (leads_operand allowance) inductionHypothesis (grounded_advance grounded))
    · exact accounted_comparison (grounded_advance grounded) _
    · exact accounted_mismatch grounded _

end Steps

/-- What the words of a text are read as, from the beginning to the end. -/
theorem accounted_scan (scan : Scan) :
    Accounted scan (chain (operand maximumDepth) (.start scan)) := by
  have start : Grounded scan (.start scan) :=
    ⟨fun _ => id, rfl, by simp [Cursor.start], by simp [Cursor.start]⟩
  exact accounted_chain (leads_operand maximumDepth) (accounted_operand maximumDepth) start

/-- A text is refused with the errors of its scan and those that reading its words has noted, in the
order of their places. -/
theorem refused_noted {source : String} {errors : List SyntaxError}
    (refused : Condition.compile source = .error errors) :
    errors = SyntaxError.inOrder ((Scan.ofText source.toList).faults ++
      (chain (operand maximumDepth)
        (.start (Scan.ofText source.toList))).2.finished.reported.reverse) := by
  unfold Condition.compile Expression.parse at refused
  dsimp only at refused
  split at refused
  · cases refused
  · rename_i rejected
    obtain rfl := Except.error.inj refused
    split at rejected
    · cases rejected
    · exact (Except.error.inj rejected).symm

/-- A text is refused with the errors of its scan and of its reading, in the order of their places,
and there is at least one. -/
theorem refused_errors {source : String} {errors : List SyntaxError}
    (refused : Condition.compile source = .error errors) :
    errors ≠ [] ∧ ∃ reported, errors = SyntaxError.inOrder
        ((Scan.ofText source.toList).faults ++ reported) ∧
      ∀ error ∈ reported, About (Scan.ofText source.toList) error := by
  have accounted := accounted_scan (Scan.ofText source.toList)
  unfold Condition.compile Expression.parse at refused
  rcases read : chain (operand maximumDepth) (.start (Scan.ofText source.toList)) with
    ⟨root, cursor⟩
  rw [read] at accounted
  have finished : Grounded (Scan.ofText source.toList) cursor.finished :=
    grounded_finished accounted.grounded
  have kept : cursor.reported ≠ [] → cursor.finished.reported ≠ [] := by
    intro noted silent
    exact noted (finished_silent.mp silent).2
  simp only [read] at refused
  split at refused
  · cases refused
  · rename_i rejected
    obtain rfl := Except.error.inj refused
    split at rejected
    · cases rejected
    · rename_i root _ _ unread
      obtain rfl := Except.error.inj rejected
      refine ⟨?_, _, rfl, fun error member => finished.reported error (by simpa using member)⟩
      intro silent
      obtain ⟨_, quiet⟩ := List.append_eq_nil_iff.mp ((in_order_nil _).mp silent)
      cases root with
      | none => exact kept (accounted.noted rfl) (List.reverse_eq_nil_iff.mp quiet)
      | some tree => exact unread tree rfl silent

/-- One place is not behind another: in an earlier line, or in the same line and not further
right. -/
def InOrder (left right : SyntaxError) : Prop :=
  left.place.line < right.place.line ∨
    left.place.line = right.place.line ∧ left.place.column ≤ right.place.column

/-- Errors that are put in order are in order. -/
theorem pairwise_in_order (errors : List SyntaxError) :
    (SyntaxError.inOrder errors).Pairwise InOrder := by
  have meaning : ∀ left right : Place, left.atMost right = true ↔
      left.line < right.line ∨ left.line = right.line ∧ left.column ≤ right.column := by
    intro left right
    simp [Place.atMost]
  refine (List.pairwise_mergeSort ?_ ?_ errors).imp fun ordered => (meaning _ _).mp ordered
  · intro first second third
    simp only [meaning]
    omega
  · intro left right
    simp only [Bool.or_eq_true, meaning]
    omega

/-- A place designates the offset of a text that is behind the characters `before` and in front of
the characters ahead, and no other offset. -/
structure Designates (text : List Char) (place : Place) (before ahead : List Char) : Prop where
  whole : text = before ++ ahead
  placed : place = Place.behind before
  only : ∀ other, other <+: text → place = Place.behind other → other = before

/-- What holds somewhere in a text holds at a place that designates an offset of it. -/
theorem designated {text : List Char} {place : Place} {holds : List Char → Prop}
    (found : Somewhere [] text fun somewhere ahead => place = somewhere ∧ holds ahead) :
    ∃ before ahead, Designates text place before ahead ∧ holds ahead := by
  obtain ⟨before, ahead, whole, placed, holding⟩ := found
  rw [List.nil_append] at placed
  refine ⟨before, ahead, ⟨whole, placed, ?_⟩, holding⟩
  intro other beginning same
  exact Place.behind_injective beginning ⟨ahead, whole.symm⟩ (same.symm.trans placed)

/-- No word is spelled as the end of a text is quoted. -/
theorem spelled_ne_end {text : String} {kind : Token.Kind} (spelled : Spells text.toList kind) :
    text ≠ "<EOF>" := by
  rintro rfl
  have alone : spells "<EOF>".toList "not" = false := by decide +kernel
  have cut := Cutting.pieces_spelled spelled (.inr ends_nil)
    fun _ _ denies => absurd (alone.symm.trans denies) Bool.false_ne_true
  have many : (pieces ("<EOF>".toList ++ [])).length = 3 := by decide +kernel
  rw [cut, pieces] at many
  cases many

/-- What an error of reading is about is somewhere in the text. -/
theorem about_somewhere {text : List Char} {error : SyntaxError}
    (about : About (Scan.ofText text) error) :
    Somewhere [] text fun place ahead =>
      error.place = place ∧ Applies (Scan.ofText text).tokens error.place ahead error.cause := by
  obtain ⟨standing, _⟩ := segmented_stands (segmented_text text) []
  have quoting : ∀ {cause : SyntaxError.Cause} {found : Found} {place : Place}
      {ahead : List Char}, found? cause = some found → Shown ahead found.message →
        Applies (Scan.ofText text).tokens place ahead cause := by
    intro cause found place ahead quotes shown
    cases cause <;> simp only [found?, Option.some.injEq, reduceCtorEq] at quotes
    all_goals
      subst quotes
      constructor
      exact shown
  cases about with
  | word word member cause quotes =>
    obtain ⟨before, ahead, whole, placed, written, spelled⟩ := standing word member
    have some : word.text ≠ "" := by
      intro nothing
      obtain ⟨first, tail, starts, _⟩ := first_spelled spelled
      simp [nothing] at starts
    have shown : Shown ahead word.text := .word word.text some (spelled_ne_end spelled) written
    exact ⟨before, ahead, whole, placed, quoting quotes shown⟩
  | endOfText cause quotes =>
    exact ⟨text, [], (List.append_nil text).symm, finish_text text, quoting quotes (.endOfText rfl)⟩
  | tooDeep word member nests =>
    obtain ⟨before, ahead, whole, stands⟩ := standing word member
    exact ⟨before, ahead, whole, stands.placed,
      .nestedTooDeeply word member ⟨rfl, stands.written, stands.spelled⟩ nests⟩

/-- A text that is refused is told why: there is at least one error, the errors are in the order of
their places, and each designates one offset of the text at which its message is right. The
characters that it quotes are ahead there, or nothing is ahead if it quotes the end of the text; an
unterminated list has its bracket ahead, and a condition that is too deep a parenthesis or a
connective. -/
theorem compile_refused (source : String) (errors : List SyntaxError)
    (refused : Condition.compile source = .error errors) :
    errors ≠ [] ∧ errors.Pairwise InOrder ∧
      ∀ error ∈ errors, ∃ before ahead, Designates source.toList error.place before ahead ∧
        Explains (Scan.ofText source.toList).tokens error.place ahead error.message := by
  obtain ⟨some, reported, rfl, about⟩ := refused_errors refused
  refine ⟨some, pairwise_in_order _, ?_⟩
  intro error member
  apply designated
  rw [SyntaxError.inOrder, List.mem_mergeSort, List.mem_append] at member
  rcases member with fault | noted
  · have segmented := segmented_text source.toList
    obtain ⟨before, ahead, whole, placed, applies⟩ :=
      (segmented_stands segmented (Scan.ofText source.toList).tokens).2 error fault
    exact ⟨before, ahead, whole, placed, explains_of_applies (placed ▸ applies)⟩
  · obtain ⟨before, ahead, whole, placed, applies⟩ := about_somewhere (about error noted)
    exact ⟨before, ahead, whole, placed, explains_of_applies applies⟩

/-- A group that is not closed, with a stray character, a missing number, a missing operand and a
list that is not closed either. -/
def brokenSource : String := "(a >\n# and [1"

/-- The errors of the broken source. -/
def brokenErrors : List SyntaxError :=
  [⟨.unrecognized "#", ⟨2, 0⟩⟩, ⟨.mismatched (.word "and") .number, ⟨2, 2⟩⟩,
   ⟨.unterminatedList, ⟨2, 6⟩⟩, ⟨.mismatched .endOfText .operand, ⟨2, 8⟩⟩,
   ⟨.missingClosing .endOfText, ⟨2, 8⟩⟩]

/-- The errors of the broken source as they are found: those of its words first. -/
def brokenFound : List SyntaxError :=
  [⟨.unrecognized "#", ⟨2, 0⟩⟩, ⟨.unterminatedList, ⟨2, 6⟩⟩,
   ⟨.mismatched (.word "and") .number, ⟨2, 2⟩⟩, ⟨.mismatched .endOfText .operand, ⟨2, 8⟩⟩,
   ⟨.missingClosing .endOfText, ⟨2, 8⟩⟩]

/-- The broken source is refused with its errors. -/
theorem broken_refused : Condition.compile brokenSource = .error brokenErrors := by
  have noted : (Scan.ofText brokenSource.toList).faults ++
      (chain (operand maximumDepth)
        (.start (Scan.ofText brokenSource.toList))).2.finished.reported.reverse =
      brokenFound := by decide +kernel
  have ordered : SyntaxError.inOrder brokenFound = brokenErrors := by
    simp [brokenFound, brokenErrors, SyntaxError.inOrder, List.mergeSort, Place.atMost]
  unfold Condition.compile Expression.parse
  dsimp only
  rw [noted, ordered]
  cases (chain (operand maximumDepth) (.start (Scan.ofText brokenSource.toList))).1 <;> rfl

/-- Errors of many kinds of one text are in order, and the message of each is right. -/
theorem compile_broken_source :
    Condition.compile brokenSource = .error brokenErrors ∧ brokenErrors.Pairwise InOrder ∧
      brokenErrors.map SyntaxError.message =
        ["token recognition error at: '#'", "mismatched input 'and' expecting NUMBER",
          "unterminated array literal", "mismatched input '<EOF>' expecting \x7b'(', FIELD\x7d",
          "missing ')' at '<EOF>'"] ∧
      ∀ error ∈ brokenErrors, ∃ before ahead,
        Designates brokenSource.toList error.place before ahead ∧
          Explains (Scan.ofText brokenSource.toList).tokens error.place ahead error.message := by
  obtain ⟨_, ordered, explained⟩ := compile_refused brokenSource brokenErrors broken_refused
  exact ⟨broken_refused, ordered, by decide +kernel, explained⟩

end RecordRules.Refusal
