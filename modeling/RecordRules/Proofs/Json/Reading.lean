import RecordRules.Proofs.Json.Scalars

/-!
# What readers of containers take

A list is taken with its brackets if each of its items is a value, and an object if each of its
members is a key with a value. What is made of the container is what its parts spell, in their
order. So a value is taken as the grammar writes it and read as what it spells, however deeply its
containers are nested, and whatever is then made of it.

Only for a number it matters what is left behind it: digits, a point or the mark of a power could
have gone on with it. In a container there is always a blank, a comma or a bracket.
-/

namespace RecordRules.JsonReading

open Json JsonSyntax JsonTaking JsonNumerals JsonScalars JsonDocuments Characters

variable {α β σ : Type}

section Containers

/-- Some text spells a part of a container once blanks are put behind it. -/
def Begun (part : List Char → α → Prop) (value : α) (front : List Char) : Prop :=
  ∀ blanks, Blank blanks → part (front ++ blanks) value

/-- What stands in a container behind one of its parts, and the values that it spells. -/
inductive Continued (part : List Char → α → Prop) : List α → List Char → Prop
  | finished (blanks : List Char) (blank : Blank blanks) : Continued part [] blanks
  | more (blanks parts : List Char) (values : List α) (blank : Blank blanks)
      (later : Parts part parts values) : Continued part values (blanks ++ ',' :: parts)

/-- What stands between the brackets of a container, and the values that it spells. -/
inductive Inside (part : List Char → α → Prop) : List α → List Char → Prop
  | empty (blanks : List Char) (blank : Blank blanks) : Inside part [] blanks
  | parts (text : List Char) (values : List α) (spelled : Parts part text values) :
      Inside part values text

variable {part spells : List Char → α → Prop} {value : α} {values : List α}

/-- A part with what stands behind it makes parts. -/
theorem parts_of_begun {front rest : List Char} (begun : Begun part value front)
    (continued : Continued part values rest) : Parts part (front ++ rest) (value :: values) := by
  cases continued with
  | finished blanks blank => exact .last _ value (begun rest blank)
  | more blanks parts values blank later =>
    have more := Parts.more (front ++ blanks) parts value values (begun blanks blank) later
    rwa [List.append_assoc] at more

/-- What stands between the brackets of a container makes it whole with them. -/
theorem enclosed_of_inside {container : Container} {front : List Char}
    (inside : Inside part values front) :
    Enclosed container part (container.opening :: (front ++ [container.closing])) values := by
  cases inside with
  | empty blanks blank => exact .empty front blank
  | parts text values spelled => exact .parts front values spelled

/-- No blank goes on with a number. -/
theorem continues_of_space {char : Char} (blank : isSpace char = true) :
    continuesNumber char = false := by
  simp only [isSpace, Bool.or_eq_true, beq_iff_eq] at blank
  rcases blank with ((rfl | rfl) | rfl) | rfl <;> decide

/-- Blanks in front of what does not go on with a number do not go on with one either. -/
theorem clear_blank {blanks rest : List Char} (blank : Blank blanks)
    (ends : Clear continuesNumber rest) : Clear continuesNumber (blanks ++ rest) := by
  cases blanks with
  | nil => exact ends
  | cons first blanks => exact clear_cons (continues_of_space (blank first List.mem_cons_self))

/-- What stands behind a part of a container does not go on with a number. -/
theorem clear_continued {front rest : List Char} (continued : Continued part values front)
    (ends : Clear continuesNumber rest) : Clear continuesNumber (front ++ rest) := by
  cases continued with
  | finished blanks blank => exact clear_blank blank ends
  | more blanks parts values blank later =>
    rw [List.append_assoc]
    exact clear_blank blank (clear_cons (by decide))

/-- A text with blanks in front of it, which spells a value unless a number goes on behind it. -/
def Led (spells : List Char → α → Prop) (value : α) (front rest : List Char) : Prop :=
  ∃ blanks text, Blank blanks ∧ front = blanks ++ text ∧
    (Clear continuesNumber rest → spells text value)

/-- What spells a value behind blanks is a part of a list once blanks are put behind it. -/
theorem begun_of_led {blanks front rest : List Char} (blank : Blank blanks)
    (led : Led spells value front rest) (ends : Clear continuesNumber rest) :
    Begun (Spaced spells) value (blanks ++ front) := by
  obtain ⟨more, text, blankMore, rfl, spelled⟩ := led
  intro after blankAfter
  have part := Spaced.spaced (blanks ++ more) text after value (blank_append blank blankMore)
    (spelled ends) blankAfter
  simpa using part

/-- The colon of a member, and behind it a text with blanks in front of it. -/
def Valued (spells : List Char → α → Prop) (value : α) (front rest : List Char) : Prop :=
  ∃ blanks text, Blank blanks ∧ front = blanks ++ ':' :: text ∧ Led spells value text rest

/-- A key and its value are a part of an object once blanks are put behind them. -/
theorem begun_of_valued {blanks key front rest : List Char} {name : String} (blank : Blank blanks)
    (closed : Closed name.toList key) (valued : Valued spells value front rest)
    (ends : Clear continuesNumber rest) :
    Begun (Member spells) (name, value) (blanks ++ '"' :: (key ++ front)) := by
  obtain ⟨content, means, rfl⟩ := closed
  obtain ⟨between, text, blankBetween, rfl, led⟩ := valued
  intro after blankAfter
  have item := begun_of_led blank_nil led ends after blankAfter
  have member := Member.member blanks content name.toList between (text ++ after) value blank means
    blankBetween item
  rw [String.ofList_toList] at member
  simpa using member

/-- The next item of a list is looked for behind blanks, and behind a comma unless it is the
first. -/
theorem took_next (isFirst : Bool) (text : List Char) :
    Took text (fun more front rest =>
        if more then if isFirst then Blank front
          else ∃ blanks others, Blank blanks ∧ Blank others ∧ front = blanks ++ ',' :: others
        else Blank front ∧ ∃ tail, rest = ']' :: tail)
      (nextItem isFirst text) := by
  unfold nextItem
  refine took_skip ?_
  cases skipSpace text with
  | nil => exact .error _ (by simp [Failure.atNext])
  | cons next rest =>
    dsimp only
    by_cases closes : next = ']'
    · subst closes
      exact took_nothing _ ⟨by simpa using blank_skipped text, rest, rfl⟩
    rw [if_neg closes]
    cases isFirst with
    | true => exact took_nothing _ (by simpa using blank_skipped text)
    | false =>
      by_cases comma : next = ','
      · subst comma
        simp only [Bool.false_eq_true, if_false, if_true]
        refine took_behind [','] (took_skip ?_)
        split
        · exact .error _ (by simp [Failure.atNext])
        · exact .error _ (by simp [Failure.atNext])
        · exact took_nothing _ ⟨_, _, blank_skipped text, blank_skipped rest, by simp⟩
      · simp only [Bool.false_eq_true, if_false, if_neg comma]
        exact .error _ (by simp [Failure.atNext])

/-- Items are taken up to the bracket behind them, and read as what they spell. -/
theorem took_items {item : Reader α}
    (items : ∀ text, Took text (fun value front rest => Led spells value front rest) (item text))
    (bound : Nat) (isFirst : Bool) (text : List Char) :
    Took text (fun values front rest => (∃ tail, rest = ']' :: tail) ∧
        if isFirst then Inside (Spaced spells) values front
        else Continued (Spaced spells) values front)
      (readItems item bound isFirst text) := by
  induction bound generalizing isFirst text with
  | zero => exact .error _ (by simp [Failure.atNext])
  | succ bound inductionHypothesis =>
    rw [readItems]
    refine took_bind (took_next isFirst text) fun more front rest found => ?_
    cases more with
    | false =>
      obtain ⟨blank, tail, rfl⟩ := found
      refine took_nothing _ ⟨⟨tail, rfl⟩, ?_⟩
      rw [List.append_nil]
      split
      · exact .empty front blank
      · exact .finished front blank
    | true =>
      refine took_bind (items rest) fun value middle behind led => ?_
      refine took_bind (took_known (inductionHypothesis false behind)) ?_
      rintro values back _ ⟨⟨split, -⟩, ⟨tail, rfl⟩, continued⟩
      replace continued : Continued (Spaced spells) values back := continued
      have ends : Clear continuesNumber behind := by
        rw [split]
        exact clear_continued continued (clear_cons (by decide))
      refine took_nothing _ ⟨⟨tail, rfl⟩, ?_⟩
      cases isFirst with
      | true =>
        have parts := parts_of_begun (begun_of_led found led ends) continued
        exact .parts _ _ (by simpa using parts)
      | false =>
        obtain ⟨blanks, others, blank, blankOthers, rfl⟩ := found
        have parts := parts_of_begun (begun_of_led blankOthers led ends) continued
        have more := Continued.more blanks _ _ blank parts
        simpa using more

/-- The next key of an object is looked for behind blanks, and behind a comma unless it is the
first. -/
theorem took_key (isFirst : Bool) (text : List Char) :
    Took text (fun key front rest =>
        match key with
        | some name => ∃ blanks key, Blank blanks ∧ Closed name.toList key ∧
            if isFirst then front = blanks ++ '"' :: key
            else ∃ before, Blank before ∧ front = before ++ ',' :: (blanks ++ '"' :: key)
        | none => Blank front ∧ ∃ tail, rest = '\x7d' :: tail)
      (nextKey isFirst text) := by
  unfold nextKey
  refine took_skip ?_
  cases skipSpace text with
  | nil => exact .error _ (by simp [Failure.atNext])
  | cons next rest =>
    dsimp only
    by_cases closes : next = '\x7d'
    · subst closes
      exact took_nothing _ ⟨by simpa using blank_skipped text, rest, rfl⟩
    rw [if_neg closes]
    cases isFirst with
    | true =>
      by_cases quote : next = '"'
      · subst quote
        refine took_behind ['"'] (took_bind (took_string rest) fun key front behind closed => ?_)
        exact took_nothing _ ⟨_, front, blank_skipped text, closed, by simp⟩
      · simp only [if_true, if_neg quote]
        exact .error _ (by simp [Failure.atNext])
    | false =>
      by_cases comma : next = ','
      · subst comma
        refine took_behind [','] (took_skip ?_)
        cases skipSpace rest with
        | nil => exact .error _ (by simp [Failure.atNext])
        | cons quote others =>
          dsimp only
          by_cases isQuote : quote = '"'
          · subst isQuote
            refine took_behind ['"']
              (took_bind (took_string others) fun key front behind closed => ?_)
            exact took_nothing _
              ⟨_, front, blank_skipped rest, closed, _, blank_skipped text, by simp⟩
          · rw [if_neg isQuote]
            by_cases brace : quote = '\x7d'
            · rw [if_pos brace]
              exact .error _ (by simp [Failure.atNext])
            · rw [if_neg brace]
              exact .error _ (by simp [Failure.atNext])
      · simp only [Bool.false_eq_true, if_false, if_neg comma]
        exact .error _ (by simp [Failure.atNext])

/-- Members are taken up to the brace behind them, and added one by one as what they spell. -/
theorem took_members {member : σ → String → Reader σ} (add : σ → String × α → σ)
    (members : ∀ gathered key text, Took text (fun result front rest =>
      ∃ value, result = add gathered (key, value) ∧ Valued spells value front rest)
        (member gathered key text))
    (bound : Nat) (isFirst : Bool) (gathered : σ) (text : List Char) :
    Took text (fun result front rest => (∃ tail, rest = '\x7d' :: tail) ∧
        ∃ values, result = values.foldl add gathered ∧
          if isFirst then Inside (Member spells) values front
          else Continued (Member spells) values front)
      (readMembers member bound isFirst gathered text) := by
  induction bound generalizing isFirst gathered text with
  | zero => exact .error _ (by simp [Failure.atNext])
  | succ bound inductionHypothesis =>
    rw [readMembers]
    refine took_bind (took_key isFirst text) fun key front rest found => ?_
    cases key with
    | none =>
      obtain ⟨blank, tail, rfl⟩ := found
      refine took_nothing _ ⟨⟨tail, rfl⟩, [], rfl, ?_⟩
      rw [List.append_nil]
      split
      · exact .empty front blank
      · exact .finished front blank
    | some key =>
      refine took_bind (members gathered key rest) ?_
      rintro _ middle behind ⟨value, rfl, valued⟩
      refine took_mono (took_known (inductionHypothesis false _ behind)) ?_
      rintro _ back _ ⟨⟨split, -⟩, ⟨tail, rfl⟩, values, rfl, continued⟩
      replace continued : Continued (Member spells) values back := continued
      have ends : Clear continuesNumber behind := by
        rw [split]
        exact clear_continued continued (clear_cons (by decide))
      refine ⟨⟨tail, rfl⟩, (key, value) :: values, rfl, ?_⟩
      obtain ⟨blanks, letters, blank, closed, position⟩ := found
      have parts := parts_of_begun (begun_of_valued blank closed valued ends) continued
      cases isFirst with
      | true =>
        obtain rfl : front = blanks ++ '"' :: letters := position
        exact .parts _ _ (by simpa using parts)
      | false =>
        obtain ⟨before, blankBefore, rfl⟩ := position
        have more := Continued.more before _ _ blankBefore parts
        simpa using more

/-- What is taken up to a bracket is taken with it. -/
theorem took_closing {close : List Char → Except Failure (List Char)} {bracket : Char}
    {holds : β → List Char → Prop} {text : List Char} {contents : Except Failure (β × List Char)}
    (closes : ∀ tail, close (bracket :: tail) = .ok tail)
    (took : Took text (fun value front rest => (∃ tail, rest = bracket :: tail) ∧ holds value front)
      contents) :
    Took text (fun value front _ => ∃ inside, holds value inside ∧ front = inside ++ [bracket])
      (closing close contents) := by
  cases took with
  | ok value front rest split held =>
    obtain ⟨⟨tail, rfl⟩, holding⟩ := held
    simp only [closing, closes]
    exact .ok value (front ++ [bracket]) tail (by simp [split]) ⟨front, holding, rfl⟩
  | error failure inside =>
    have settled : ∀ rest, (failure.settle rest).cause = failure.cause := by
      intro rest
      unfold Failure.settle
      split <;> rfl
    simp only [closing]
    split
    · split
      · exact .error _ (by rwa [settled])
      · exact .error _ (by rwa [settled])
    · exact .error _ inside

/-- A list is taken behind its opening bracket, and read as its items. -/
theorem took_list {item : Reader α}
    (items : ∀ text, Took text (fun value front rest => Led spells value front rest) (item text))
    (text : List Char) :
    Took text (fun values front _ => Enclosed .list (Spaced spells) ('[' :: front) values)
      (readList item text) := by
  have closes : ∀ tail, closeList (']' :: tail) = .ok tail := fun tail => by
    simp [closeList, skipSpace, isSpace]
  refine took_mono (took_closing closes (took_items items _ true text)) ?_
  rintro values _ _ ⟨front, inside, rfl⟩
  exact enclosed_of_inside inside

/-- An object is taken behind its opening brace, and its members are added one by one. -/
theorem took_object {member : σ → String → Reader σ} (add : σ → String × α → σ)
    (members : ∀ gathered key text, Took text (fun result front rest =>
      ∃ value, result = add gathered (key, value) ∧ Valued spells value front rest)
        (member gathered key text))
    (start : σ) (text : List Char) :
    Took text (fun result front _ => ∃ values, result = values.foldl add start ∧
        Enclosed .object (Member spells) ('\x7b' :: front) values)
      (readObject member start text) := by
  have closes : ∀ tail, closeObject ('\x7d' :: tail) = .ok tail := fun tail => by
    simp [closeObject, skipSpace, isSpace]
  refine took_mono (took_closing closes (took_members add members _ true start text)) ?_
  rintro _ _ _ ⟨front, ⟨values, rfl, inside⟩, rfl⟩
  exact ⟨values, rfl, enclosed_of_inside inside⟩

end Containers

section Values

/-- A value is taken with the blanks in front of it and read as what it spells, if lists and objects
are. -/
theorem took_plain {list object : Reader Json} {spells : List Char → Json → Prop}
    (plain : ∀ text value, SpellsPlain text value → spells text value)
    (lists : ∀ text, Took ('[' :: text) (fun value front _ => spells front value)
      (list ('[' :: text)))
    (objects : ∀ text, Took ('\x7b' :: text) (fun value front _ => spells front value)
      (object ('\x7b' :: text))) (text : List Char) :
    Took text (fun value front rest => Led spells value front rest)
      (readPlain list object text) := by
  unfold readPlain
  have led : ∀ value front (rest : List Char),
      (Clear continuesNumber rest → spells front value) →
        Led spells value (text.takeWhile isSpace ++ front) rest := fun _ front _ spelled =>
    ⟨_, front, blank_skipped text, rfl, spelled⟩
  have word : ∀ (value : Json) letters (rest : List Char) {first : Char},
      SpellsPlain (first :: letters) value →
        Took rest (fun value front rest => Clear continuesNumber rest →
          spells ([first] ++ front) value) (readWord value letters rest) := by
    intro value letters rest first spelled
    refine took_mono (took_word value letters rest) ?_
    rintro _ _ _ ⟨rfl, rfl⟩ _
    exact plain _ _ spelled
  refine took_skip (took_mono ?_ led)
  cases skipSpace text with
  | nil => exact .error _ (by simp [Failure.atNext])
  | cons next rest =>
    dsimp only
    split
    · rename_i letter
      subst letter
      exact took_behind ['n'] (word null _ _ .null)
    split
    · rename_i letter
      subst letter
      exact took_behind ['t'] (word (boolean true) _ _ .true)
    split
    · rename_i letter
      subst letter
      exact took_behind ['f'] (word (boolean false) _ _ .false)
    split
    · refine took_bind (took_known (took_number _)) ?_
      rintro number front behind ⟨⟨split, read⟩, isNumber⟩
      refine took_nothing _ fun ends => ?_
      rw [split] at read
      rw [List.append_nil]
      exact plain _ _ (.number front number isNumber (read_number_alone isNumber read ends))
    split
    · rename_i quote
      subst quote
      refine took_behind ['"'] (took_bind (took_string rest) fun content front behind closed => ?_)
      obtain ⟨letters, means, rfl⟩ := closed
      refine took_nothing _ fun _ => plain _ _ ?_
      have spelled := SpellsPlain.string letters content.toList means
      rw [String.ofList_toList] at spelled
      simpa using spelled
    split
    · rename_i bracket
      subst bracket
      exact took_mono (lists rest) fun value front rest spelled _ => spelled
    split
    · rename_i brace
      subst brace
      exact took_mono (objects rest) fun value front rest spelled _ => spelled
    · exact .error _ (by simp [Failure.atNext])

/-- A container that is nested too deeply is not taken. -/
theorem took_too_deep {holds : α → List Char → List Char → Prop} (text : List Char) :
    Took text holds (tooDeep text) :=
  .error _ (by simp [Failure.atNext])

/-- A colon is taken with the blanks in front of it, and then a value. -/
theorem took_colon {spells : List Char → α → Prop} {make : α → β} {text : List Char}
    {next : List Char → Except Failure (β × List Char)}
    (later : ∀ rest, Took rest (fun result front rest =>
      ∃ value, result = make value ∧ Led spells value front rest) (next rest)) :
    Took text (fun result front rest => ∃ value, result = make value ∧
      Valued spells value front rest) (skipColon text >>= next) := by
  unfold skipColon
  refine took_skip ?_
  cases skipSpace text with
  | nil => exact .error _ (by simp [Failure.atNext])
  | cons colon rest =>
    dsimp only
    split
    · rename_i isColon
      subst isColon
      refine took_behind [':'] (took_mono (later rest) ?_)
      rintro _ front _ ⟨value, rfl, led⟩
      exact ⟨value, rfl, _, front, blank_skipped text, rfl, led⟩
    · exact .error _ (by simp [Failure.atNext])

/-- Members that are put one by one behind others are in their order. -/
theorem foldl_behind (members : List α) :
    members.foldl (fun before member => before ++ [member]) [] = members := by
  simp [← List.flatMap_def]

/-- A value is taken with the blanks in front of it and read as what it spells, however deeply
containers may be nested. -/
theorem took_value (allowance : Nat) (text : List Char) :
    Took text (fun value front rest => Led (SpellsWithin allowance) value front rest)
      (readValue allowance text) := by
  induction allowance generalizing text with
  | zero =>
    exact took_plain (fun _ _ spelled => spelled) (fun text => took_too_deep _)
      (fun text => took_too_deep _) text
  | succ allowance inductionHypothesis =>
    refine took_plain (fun text value spelled => .plain value spelled) (fun text => ?_)
      (fun text => ?_) text
    · refine took_behind ['['] (took_bind (took_list inductionHypothesis text) ?_)
      exact fun items front rest spelled => took_nothing _ (.list items (by simpa using spelled))
    · have members : ∀ before key text, Took text (fun result front rest =>
          ∃ value, result = before ++ [(key, value)] ∧
            Valued (SpellsWithin allowance) value front rest)
          (Json.readMember (readValue allowance) before key text) := by
        intro before key text
        refine took_colon fun rest => took_bind (inductionHypothesis rest) ?_
        exact fun value front behind led => took_nothing _ ⟨value, rfl, by simpa using led⟩
      have object := took_object (fun before member => before ++ [member]) members [] text
      refine took_behind ['\x7b'] (took_bind object ?_)
      rintro _ front rest ⟨members, rfl, spelled⟩
      rw [foldl_behind]
      exact took_nothing _ (.object members (by simpa using spelled))

/-- A value is taken also where a type makes something of it. -/
theorem took_variant (type : String) (choose : Json → Option α) (allowance : Nat)
    (text : List Char) :
    Took text (fun chosen front rest => Led (Relation.Comp (SpellsWithin allowance)
        fun value chosen => choose value = some chosen) chosen front rest)
      (readVariant type choose allowance text) := by
  refine took_bind (took_value allowance text) fun value front rest led => ?_
  obtain ⟨blanks, text, blank, rfl, spelled⟩ := led
  dsimp only
  cases chosen : choose value with
  | some result =>
    exact took_nothing _ ⟨blanks, text, blank, by simp, fun ends => ⟨value, spelled ends, chosen⟩⟩
  | none => exact .error _ (by simp [Failure.unsettled])

end Values

end RecordRules.JsonReading
