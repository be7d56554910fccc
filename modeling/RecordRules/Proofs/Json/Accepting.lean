import Mathlib.Data.List.TakeWhile
import RecordRules.Proofs.Json.Reading

/-!
# What readers of documents accept

Whatever a document spells is read off the front of a text: a value that is no container wherever it
stands, a container if its parts are read, and so every value whose containers are nested no deeper
than the allowance. The reader stops at the end of the value, and neither the blanks between the
parts nor what stands behind the value change what is read.

A text is therefore read as one value at most that it spells, and the grammar is without ambiguity.
-/

namespace RecordRules.JsonAccepting

open Json JsonSyntax JsonTaking JsonNumerals JsonScalars JsonDocuments JsonReading Characters

variable {α σ : Type}

section Steps

/-- What stands in front of a part of a container: nothing in front of the first one, and a comma
with blanks in front of it in front of every other. -/
inductive Leads : Bool → List Char → Prop
  | first : Leads true []
  | later (blanks : List Char) (blank : Blank blanks) : Leads false (blanks ++ [','])

/-- Blanks are skipped up to the first character that is none. -/
theorem skip_blank {blanks rest : List Char} {first : Char} (blank : Blank blanks)
    (solid : isSpace first = false) : skipSpace (blanks ++ first :: rest) = first :: rest :=
  (take_run blank (clear_cons solid)).2

variable {lead blanks : List Char} {isFirst : Bool} (rest : List Char)

/-- The next item of a list is found behind its comma and its blanks. -/
theorem next_item (leads : Leads isFirst lead) (blank : Blank blanks) {first : Char}
    (solid : isSpace first = false) (inside : first ≠ ']') :
    nextItem isFirst (lead ++ (blanks ++ first :: rest)) = .ok (true, first :: rest) := by
  have shown : skipSpace (blanks ++ first :: rest) = first :: rest := skip_blank blank solid
  cases leads with
  | first => simp only [List.nil_append, nextItem, shown, if_neg inside, if_true]
  | later before blankBefore =>
    have comma : skipSpace (before ++ ',' :: (blanks ++ first :: rest)) =
        ',' :: (blanks ++ first :: rest) := skip_blank blankBefore (by decide)
    rw [List.append_assoc, List.singleton_append]
    simp [nextItem, comma, shown, inside]

/-- Behind the last item of a list there is no further one. -/
theorem no_item (isFirst : Bool) (blank : Blank blanks) :
    nextItem isFirst (blanks ++ ']' :: rest) = .ok (false, ']' :: rest) := by
  have shown : skipSpace (blanks ++ ']' :: rest) = ']' :: rest := skip_blank blank (by decide)
  simp only [nextItem, shown, if_true]

/-- The next key of an object is found behind its comma and its blanks, and read as what it
means. -/
theorem next_key (leads : Leads isFirst lead) (blank : Blank blanks) {key chars : List Char}
    (means : Means key chars) :
    nextKey isFirst (lead ++ (blanks ++ '"' :: (key ++ '"' :: rest))) =
      .ok (some (String.ofList chars), rest) := by
  have shown : skipSpace (blanks ++ '"' :: (key ++ '"' :: rest)) = '"' :: (key ++ '"' :: rest) :=
    skip_blank blank (by decide)
  have read := read_string means rest
  cases leads with
  | first =>
    simp only [List.nil_append, nextKey, shown]
    simp [read, bind, Except.bind, pure, Except.pure]
  | later before blankBefore =>
    have comma : skipSpace (before ++ ',' :: (blanks ++ '"' :: (key ++ '"' :: rest))) =
        ',' :: (blanks ++ '"' :: (key ++ '"' :: rest)) := skip_blank blankBefore (by decide)
    rw [List.append_assoc, List.singleton_append]
    simp [nextKey, comma, shown, read, bind, Except.bind, pure, Except.pure]

/-- Behind the last member of an object there is no further key. -/
theorem no_key (isFirst : Bool) (blank : Blank blanks) :
    nextKey isFirst (blanks ++ '\x7d' :: rest) = .ok (none, '\x7d' :: rest) := by
  have shown : skipSpace (blanks ++ '\x7d' :: rest) = '\x7d' :: rest :=
    skip_blank blank (by decide)
  simp only [nextKey, shown, if_true]

/-- A colon is found behind its blanks. -/
theorem skip_colon (blank : Blank blanks) : skipColon (blanks ++ ':' :: rest) = .ok rest := by
  have shown : skipSpace (blanks ++ ':' :: rest) = ':' :: rest := skip_blank blank (by decide)
  simp only [skipColon, shown, if_true]

end Steps

section Containers

variable {spells : List Char → α → Prop}

/-- A reader reads what texts spell that begin neither with a blank nor with a closing bracket: it
skips the blanks in front of such a text and stops behind it. -/
structure Reads (item : Reader α) (spells : List Char → α → Prop) : Prop where
  first : ∀ {text value}, spells text value →
    ∃ char rest, text = char :: rest ∧ isSpace char = false ∧ char ≠ ']'
  read : ∀ {blanks text value behind}, Blank blanks → spells text value →
    Clear continuesNumber behind → item (blanks ++ (text ++ behind)) = .ok (value, behind)

/-- A step for the members of an object reads what texts spell behind a colon, and adds it to what
was gathered. -/
structure Adds (member : σ → String → Reader σ) (add : σ → String × α → σ)
    (spells : List Char → α → Prop) : Prop where
  read : ∀ gathered key {between blanks text value behind}, Blank between → Blank blanks →
    spells text value → Clear continuesNumber behind →
      member gathered key (between ++ ':' :: (blanks ++ (text ++ behind))) =
        .ok (add gathered (key, value), behind)

/-- An item of a list is read, and then what stands behind it and its blanks. -/
theorem read_item {item : Reader α} (reads : Reads item spells) {isFirst : Bool}
    {lead text behind : List Char} {value : α} (leads : Leads isFirst lead)
    (spelled : Spaced spells text value) (ends : Clear continuesNumber behind) (bound : Nat) :
    ∃ after, Blank after ∧ readItems item (bound + 1) isFirst (lead ++ (text ++ behind)) = (do
      let (values, rest) ← readItems item bound false (after ++ behind)
      return (value :: values, rest)) := by
  obtain ⟨before, text, after, value, blankBefore, spelled, blankAfter⟩ := spelled
  obtain ⟨char, rest, rfl, solid, inside⟩ := reads.first spelled
  have next := next_item (rest ++ (after ++ behind)) leads blankBefore solid inside
  have read := reads.read blank_nil spelled (clear_blank blankAfter ends)
  refine ⟨after, blankAfter, ?_⟩
  simp only [List.append_assoc, List.cons_append, List.nil_append] at next read ⊢
  rw [readItems, next]
  simp only [bind, Except.bind, if_true, read]

/-- The items of a list are read as what they spell, up to its closing bracket. -/
theorem read_items {item : Reader α} (reads : Reads item spells) {text : List Char}
    {values : List α} (parts : Parts (Spaced spells) text values) {isFirst : Bool}
    {lead : List Char} (leads : Leads isFirst lead) {bound : Nat}
    (enough : values.length ≤ bound) (tail : List Char) :
    readItems item (bound + 1) isFirst (lead ++ (text ++ ']' :: tail)) =
      .ok (values, ']' :: tail) := by
  induction parts generalizing isFirst lead bound with
  | last text value spelled =>
    obtain ⟨fewer, rfl⟩ := Nat.exists_eq_add_one.mpr (Nat.zero_lt_of_lt enough)
    have ends : Clear continuesNumber (']' :: tail) := clear_cons (by decide)
    obtain ⟨after, blank, read⟩ := read_item reads leads spelled ends (fewer + 1)
    rw [read, readItems, no_item tail false blank]
    rfl
  | more text others value values spelled later inductionHypothesis =>
    obtain ⟨fewer, rfl⟩ := Nat.exists_eq_add_one.mpr (Nat.zero_lt_of_lt enough)
    have ends : Clear continuesNumber (',' :: (others ++ ']' :: tail)) := clear_cons (by decide)
    obtain ⟨after, blank, read⟩ := read_item reads leads spelled ends (fewer + 1)
    have rest := inductionHypothesis (.later after blank) (Nat.le_of_succ_le_succ enough)
    rw [List.append_assoc, List.singleton_append] at rest
    rw [List.append_assoc, List.cons_append, read, rest]
    rfl

/-- A member of an object is read and added, and then what stands behind it and its blanks is
read. -/
theorem read_member {member : σ → String → Reader σ} {add : σ → String × α → σ}
    (adds : Adds member add spells) {isFirst : Bool} {lead text behind : List Char}
    {value : String × α} (leads : Leads isFirst lead) (spelled : Member spells text value)
    (ends : Clear continuesNumber behind) (bound : Nat) (gathered : σ) :
    ∃ after, Blank after ∧
      readMembers member (bound + 1) isFirst gathered (lead ++ (text ++ behind)) =
        readMembers member bound false (add gathered value) (after ++ behind) := by
  obtain ⟨blanks, key, chars, between, text, value, blank, means, blankBetween, spaced⟩ := spelled
  obtain ⟨before, text, after, value, blankBefore, spelled, blankAfter⟩ := spaced
  have next :=
    next_key (between ++ ':' :: (before ++ (text ++ (after ++ behind)))) leads blank means
  have read := adds.read gathered (String.ofList chars) blankBetween blankBefore spelled
    (clear_blank blankAfter ends)
  refine ⟨after, blankAfter, ?_⟩
  simp only [List.append_assoc, List.cons_append] at next read ⊢
  rw [readMembers, next]
  simp only [bind, Except.bind, read]

/-- The members of an object are read and added one by one, up to its closing brace. -/
theorem read_members {member : σ → String → Reader σ} {add : σ → String × α → σ}
    (adds : Adds member add spells) {text : List Char} {values : List (String × α)}
    (parts : Parts (Member spells) text values) {isFirst : Bool} {lead : List Char}
    (leads : Leads isFirst lead) {bound : Nat} (enough : values.length ≤ bound) (gathered : σ)
    (tail : List Char) :
    readMembers member (bound + 1) isFirst gathered (lead ++ (text ++ '\x7d' :: tail)) =
      .ok (values.foldl add gathered, '\x7d' :: tail) := by
  induction parts generalizing isFirst lead bound gathered with
  | last text value spelled =>
    obtain ⟨fewer, rfl⟩ := Nat.exists_eq_add_one.mpr (Nat.zero_lt_of_lt enough)
    have ends : Clear continuesNumber ('\x7d' :: tail) := clear_cons (by decide)
    obtain ⟨after, blank, read⟩ := read_member adds leads spelled ends (fewer + 1) gathered
    rw [read, readMembers, no_key tail false blank]
    rfl
  | more text others value values spelled later inductionHypothesis =>
    obtain ⟨fewer, rfl⟩ := Nat.exists_eq_add_one.mpr (Nat.zero_lt_of_lt enough)
    have ends : Clear continuesNumber (',' :: (others ++ '\x7d' :: tail)) := clear_cons (by decide)
    obtain ⟨after, blank, read⟩ := read_member adds leads spelled ends (fewer + 1) gathered
    have rest := inductionHypothesis (.later after blank) (Nat.le_of_succ_le_succ enough)
      (add gathered value)
    rw [List.append_assoc, List.singleton_append] at rest
    rw [List.append_assoc, List.cons_append, read, rest, List.foldl_cons]

/-- There is a comma between any two parts, so there is at most one part more than characters. -/
theorem length_parts {part : List Char → α → Prop} {text : List Char} {values : List α}
    (parts : Parts part text values) : values.length ≤ text.length + 1 := by
  induction parts with
  | last text value spelled => simp
  | more text others value values spelled later inductionHypothesis =>
    simp only [List.length_append, List.length_cons]
    omega

/-- A list is read behind its opening bracket. -/
theorem read_list {item : Reader α} (reads : Reads item spells) {inside : List Char}
    {values : List α} (enclosed : Enclosed .list (Spaced spells) ('[' :: inside) values)
    (behind : List Char) : readList item (inside ++ behind) = .ok (values, behind) := by
  have closed : closeList (']' :: behind) = .ok behind := by simp [closeList, skipSpace, isSpace]
  generalize whole : '[' :: inside = text at enclosed
  cases enclosed with
  | empty blanks blank =>
    obtain rfl : inside = blanks ++ [']'] := (List.cons.inj whole).2
    rw [List.append_assoc, List.singleton_append, readList, readItems,
      no_item behind true blank]
    simp only [bind, Except.bind, Bool.false_eq_true, if_false, pure, Except.pure, closing, closed]
  | parts text values parts =>
    obtain rfl : inside = text ++ [']'] := (List.cons.inj whole).2
    have enough : values.length ≤ (text ++ ']' :: behind).length := by
      have few := length_parts parts
      simp only [List.length_append, List.length_cons]
      omega
    have read := read_items reads parts .first enough behind
    rw [List.nil_append] at read
    rw [List.append_assoc, List.singleton_append, readList, read]
    simp only [closing, closed, bind, Except.bind, pure, Except.pure]

/-- An object is read behind its opening brace, its members added one by one. -/
theorem read_object {member : σ → String → Reader σ} {add : σ → String × α → σ}
    (adds : Adds member add spells) {inside : List Char} {values : List (String × α)}
    (enclosed : Enclosed .object (Member spells) ('\x7b' :: inside) values) (start : σ)
    (behind : List Char) :
    readObject member start (inside ++ behind) = .ok (values.foldl add start, behind) := by
  have closed : closeObject ('\x7d' :: behind) = .ok behind := by
    simp [closeObject, skipSpace, isSpace]
  generalize whole : '\x7b' :: inside = text at enclosed
  cases enclosed with
  | empty blanks blank =>
    obtain rfl : inside = blanks ++ ['\x7d'] := (List.cons.inj whole).2
    rw [List.append_assoc, List.singleton_append, readObject, readMembers,
      no_key behind true blank]
    simp only [bind, Except.bind, pure, Except.pure, closing, closed, List.foldl_nil]
  | parts text values parts =>
    obtain rfl : inside = text ++ ['\x7d'] := (List.cons.inj whole).2
    have enough : values.length ≤ (text ++ '\x7d' :: behind).length := by
      have few := length_parts parts
      simp only [List.length_append, List.length_cons]
      omega
    have read := read_members adds parts .first enough start behind
    rw [List.nil_append] at read
    rw [List.append_assoc, List.singleton_append, readObject, read]
    simp only [closing, closed, bind, Except.bind, pure, Except.pure]

end Containers

section Values

/-- The text of a container begins with its bracket. -/
theorem first_enclosed {container : Container} {part : List Char → α → Prop} {text : List Char}
    {values : List α} (enclosed : Enclosed container part text values) :
    ∃ inside, text = container.opening :: inside := by
  cases enclosed with
  | empty blanks blank => exact ⟨_, rfl⟩
  | parts text values inside => exact ⟨_, rfl⟩

/-- A value begins neither with a blank nor with a closing bracket. -/
theorem first_within {depth : Nat} {text : List Char} {value : Json}
    (spelled : SpellsWithin depth text value) :
    ∃ char rest, text = char :: rest ∧ isSpace char = false ∧ char ≠ ']' := by
  have plainly : ∀ {text value}, SpellsPlain text value →
      ∃ char rest, text = char :: rest ∧ isSpace char = false ∧ char ≠ ']' := by
    intro text value plain
    cases plain with
    | null | true | false | string => exact ⟨_, _, rfl, by decide, by decide⟩
    | number text number isNumber read =>
      obtain ⟨first, rest, rfl, begins⟩ := first_number isNumber
      exact ⟨first, rest, rfl, space_of_begins begins, ne_of_class begins (by decide)⟩
  cases depth with
  | zero => exact plainly spelled
  | succ depth =>
    cases spelled with
    | plain value plain => exact plainly plain
    | list items enclosed =>
      obtain ⟨inside, rfl⟩ := first_enclosed enclosed
      exact ⟨'[', inside, rfl, by decide, by decide⟩
    | object members enclosed =>
      obtain ⟨inside, rfl⟩ := first_enclosed enclosed
      exact ⟨'\x7b', inside, rfl, by decide, by decide⟩

/-- It is enough that values are read without blanks in front of them, which are skipped. -/
theorem reads_unspaced {allowance : Nat}
    (read : ∀ {text value behind}, SpellsWithin allowance text value →
      Clear continuesNumber behind → readValue allowance (text ++ behind) = .ok (value, behind)) :
    Reads (readValue allowance) (SpellsWithin allowance) := by
  refine ⟨first_within, fun {blanks text value behind} blank spelled ends => ?_⟩
  obtain ⟨char, rest, whole, solid, -⟩ := first_within spelled
  have shown : Clear isSpace (text ++ behind) := by
    rw [whole]
    exact clear_cons solid
  have skipped : skipSpace (blanks ++ (text ++ behind)) = skipSpace (text ++ behind) :=
    (take_run blank shown).2.trans (take_clear shown).2.symm
  rw [← read spelled ends]
  cases allowance with
  | zero => simp only [readValue, readPlain, skipped]
  | succ allowance => simp only [readValue, readPlain, skipped]

/-- A step that reads the value of a member and adds it adds what its reader reads. -/
theorem adds_member {item : Reader α} {spells : List Char → α → Prop} (reads : Reads item spells)
    (add : σ → String × α → σ) :
    Adds (fun gathered key text => do
      let text ← skipColon text
      let (value, rest) ← item text
      return (add gathered (key, value), rest)) add spells := by
  constructor
  intro gathered key between blanks text value behind blankBetween blank spelled ends
  simp only [skip_colon _ blankBetween, reads.read blank spelled ends, bind, Except.bind]
  rfl

/-- Every value within the allowance is read as what it spells. -/
theorem reads_value (allowance : Nat) : Reads (readValue allowance) (SpellsWithin allowance) := by
  induction allowance with
  | zero => exact reads_unspaced fun spelled ends => read_spelled spelled ends _ _
  | succ allowance inductionHypothesis =>
    refine reads_unspaced fun {text value behind} spelled ends => ?_
    cases spelled with
    | plain value plain => exact read_spelled plain ends _ _
    | list items enclosed =>
      obtain ⟨inside, rfl⟩ := first_enclosed enclosed
      have opened : readValue (allowance + 1) ('[' :: (inside ++ behind)) =
          (readList (readValue allowance) (inside ++ behind) >>= fun taken =>
            .ok (.list taken.1, taken.2)) := rfl
      rw [Container.opening, List.cons_append, opened,
        read_list inductionHypothesis enclosed behind]
      rfl
    | object members enclosed =>
      obtain ⟨inside, rfl⟩ := first_enclosed enclosed
      have opened : readValue (allowance + 1) ('\x7b' :: (inside ++ behind)) =
          (readObject (Json.readMember (readValue allowance)) [] (inside ++ behind) >>=
            fun taken => .ok (.object taken.1, taken.2)) := rfl
      have adds : Adds (Json.readMember (readValue allowance)) _ (SpellsWithin allowance) :=
        adds_member inductionHypothesis fun before member => before ++ [member]
      rw [Container.opening, List.cons_append, opened, read_object adds enclosed [] behind,
        foldl_behind]
      rfl

/-- A list is read also where no other value is wanted. -/
theorem reads_list_of {item : Nat → Reader α} {spells : List Char → α → Prop} {allowance : Nat}
    (reads : Reads (item allowance) spells) :
    Reads (readListOf item (allowance + 1)) (Enclosed .list (Spaced spells)) := by
  constructor
  · intro text values enclosed
    obtain ⟨inside, rfl⟩ := first_enclosed enclosed
    exact ⟨'[', inside, rfl, by decide, by decide⟩
  · intro blanks text values behind blank enclosed ends
    obtain ⟨inside, rfl⟩ := first_enclosed enclosed
    have shown : skipSpace (blanks ++ '[' :: (inside ++ behind)) = '[' :: (inside ++ behind) :=
      skip_blank blank (by decide)
    rw [Container.opening, List.cons_append, readListOf, shown]
    exact read_list reads enclosed behind

/-- A value is read also where a type makes something of it. -/
theorem reads_variant (type : String) (choose : Json → Option α) (allowance : Nat) :
    Reads (readVariant type choose allowance) (Relation.Comp (SpellsWithin allowance)
      fun value chosen => choose value = some chosen) := by
  constructor
  · rintro text chosen ⟨value, spelled, -⟩
    exact first_within spelled
  · rintro blanks text chosen behind blank ⟨value, spelled, known⟩ ends
    simp only [readVariant, (reads_value allowance).read blank spelled ends, bind, Except.bind,
      known]

end Values

section Documents

/-- A text that spells a value, with blanks around it, is read as a document. -/
theorem read_document_of_spaced {reader : Reader α} {spells : List Char → α → Prop}
    (reads : Reads reader spells) {text : String} {value : α}
    (spaced : Spaced spells text.toList value) : readDocument reader text = .ok value := by
  generalize whole : text.toList = chars at spaced
  obtain ⟨before, chars, after, value, blankBefore, spelled, blankAfter⟩ := spaced
  have ends : Clear continuesNumber after := by
    simpa using clear_blank blankAfter (clear_nil _)
  have skipped : skipSpace after = [] := List.dropWhile_eq_nil_iff.mpr blankAfter
  unfold readDocument
  rw [whole, reads.read blankBefore spelled ends]
  dsimp only
  rw [skipped]

/-- A reader that takes what texts spell, and reads all that they spell, reads exactly the documents
that spell it with blanks around it. -/
theorem read_document_iff {reader : Reader α} {spells : List Char → α → Prop}
    (took : ∀ text, Took text (fun value front rest => Led spells value front rest) (reader text))
    (reads : Reads reader spells) (text : String) (value : α) :
    readDocument reader text = .ok value ↔ Spaced spells text.toList value := by
  refine ⟨fun read => ?_, read_document_of_spaced reads⟩
  have front := took_known (took text.toList)
  unfold readDocument at read
  generalize reader text.toList = result at front read
  cases front with
  | error failure inside => cases read
  | ok found front rest split held =>
    obtain ⟨-, blanks, chars, blank, rfl, spelled⟩ := held
    dsimp only at read
    cases skipped : skipSpace rest with
    | nil =>
      rw [skipped] at read
      obtain rfl := Except.ok.inj read
      have after : Blank rest := List.dropWhile_eq_nil_iff.mp skipped
      have ends : Clear continuesNumber rest := by
        simpa using clear_blank after (clear_nil _)
      rw [split, List.append_assoc]
      exact .spaced blanks chars rest found blank (spelled ends) after
    | cons next others =>
      rw [skipped] at read
      cases read

/-- A text is one document at most. -/
theorem document_unique {text : String} {value other : Json} (one : IsDocument text value)
    (two : IsDocument text other) : value = other := by
  have reads : ∀ {value}, IsDocument text value → ∃ depth, ∀ more, depth ≤ more →
      readDocument (readValue more) text = .ok value := by
    intro value document
    unfold IsDocument at document
    generalize whole : text.toList = chars at document
    obtain ⟨before, chars, after, value, blankBefore, ⟨depth, spelled⟩, blankAfter⟩ := document
    refine ⟨depth, fun more deeper => read_document_of_spaced (reads_value more) ?_⟩
    rw [whole]
    exact .spaced before chars after value blankBefore (within_mono deeper spelled) blankAfter
  obtain ⟨depth, read⟩ := reads one
  obtain ⟨more, again⟩ := reads two
  have first := read (max depth more) (Nat.le_max_left _ _)
  have second := again (max depth more) (Nat.le_max_right _ _)
  exact Except.ok.inj (first.symm.trans second)

/-- A text is read as a document exactly if it spells one whose containers are nested no deeper than
is allowed. -/
theorem read_iff (text : String) (value : Json) :
    Json.read text = .ok value ↔ Spaced (SpellsWithin maximumNesting) text.toList value :=
  read_document_iff (took_value maximumNesting) (reads_value maximumNesting) text value

end Documents

end RecordRules.JsonAccepting
