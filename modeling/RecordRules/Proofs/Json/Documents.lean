import Mathlib.Data.List.Forall2
import Mathlib.Logic.Relation
import RecordRules.Json.Document
import RecordRules.Proofs.Json.Strings

/-!
# What documents mean

The grammar of documents with the values that its phrases spell. A list spells its items in their
order and an object its members, repeated keys included; a string spells what it means, and a number
what its reader makes of it, if it is in range.

The parts of a container spell values of any kind, so that the same grammar serves lists and objects
whose values are read as something else than documents.
-/

namespace RecordRules.JsonDocuments

open Json JsonSyntax JsonScalars

variable {α β : Type}

section Grammar

/-- A text with blanks around it spells what it spells without them. -/
inductive Spaced (spells : List Char → α → Prop) : List Char → α → Prop
  | spaced (before text after : List Char) (value : α) (blankBefore : Blank before)
      (spelled : spells text value) (blankAfter : Blank after) :
      Spaced spells (before ++ (text ++ after)) value

/-- A key in quotes, a colon and a value spell a member of an object. -/
inductive Member (spells : List Char → α → Prop) : List Char → String × α → Prop
  | member (before key chars between text : List Char) (value : α) (blankBefore : Blank before)
      (means : Means key chars) (blankBetween : Blank between)
      (spelled : Spaced spells text value) :
      Member spells (before ++ '"' :: (key ++ '"' :: (between ++ ':' :: text)))
        (String.ofList chars, value)

/-- Parts with commas between them spell what they spell one by one. -/
inductive Parts (part : List Char → α → Prop) : List Char → List α → Prop
  | last (text : List Char) (value : α) (spelled : part text value) : Parts part text [value]
  | more (text others : List Char) (value : α) (values : List α) (spelled : part text value)
      (later : Parts part others values) : Parts part (text ++ ',' :: others) (value :: values)

/-- Parts between the brackets of a container spell what they spell without them, and blanks
nothing. -/
inductive Enclosed (container : Container) (part : List Char → α → Prop) :
    List Char → List α → Prop
  | empty (blanks : List Char) (blank : Blank blanks) :
      Enclosed container part (container.opening :: (blanks ++ [container.closing])) []
  | parts (text : List Char) (values : List α) (inside : Parts part text values) :
      Enclosed container part (container.opening :: (text ++ [container.closing])) values

/-- A text that is no container spells a value: a word, a number in range, or a string that means
something. -/
inductive SpellsPlain : List Char → Json → Prop
  | null : SpellsPlain ['n', 'u', 'l', 'l'] .null
  | true : SpellsPlain ['t', 'r', 'u', 'e'] (.boolean true)
  | false : SpellsPlain ['f', 'a', 'l', 's', 'e'] (.boolean false)
  | number (text : List Char) (number : Json.Numeral) (isNumber : IsNumber text)
      (read : readNumber text = .ok (number, [])) : SpellsPlain text (.number number)
  | string (content chars : List Char) (means : Means content chars) :
      SpellsPlain ('"' :: (content ++ ['"'])) (.string (String.ofList chars))

/-- A text spells a value whose parts, if it is a container, are spelled in a way that is given. -/
inductive SpellsOver (inner : List Char → Json → Prop) (text : List Char) : Json → Prop
  | plain (value : Json) (spelled : SpellsPlain text value) : SpellsOver inner text value
  | list (items : List Json) (spelled : Enclosed .list (Spaced inner) text items) :
      SpellsOver inner text (.list items)
  | object (members : List (String × Json))
      (spelled : Enclosed .object (Member inner) text members) :
      SpellsOver inner text (.object members)

/-- A text spells a value whose containers are nested no deeper than the depth. -/
def SpellsWithin : Nat → List Char → Json → Prop
  | 0 => SpellsPlain
  | depth + 1 => SpellsOver (SpellsWithin depth)

/-- A text spells a value. -/
def Spells (text : List Char) (value : Json) : Prop := ∃ depth, SpellsWithin depth text value

/-- A text is a document: it spells a value up to the blanks around it. -/
def IsDocument (text : String) (value : Json) : Prop := Spaced Spells text.toList value

end Grammar

section Weakening

variable {text : List Char}

/-- The parts of a container spell the same in any way in which each of them does. -/
theorem Parts.mono {part other : List Char → α → Prop} {values : List α}
    (parts : Parts part text values)
    (weaker : ∀ text, ∀ value ∈ values, part text value → other text value) :
    Parts other text values := by
  induction parts with
  | last text value spelled => exact .last text value (weaker text value (by simp) spelled)
  | more text others value values spelled later inductionHypothesis =>
    refine .more text others value values (weaker text value (by simp) spelled) ?_
    exact inductionHypothesis fun text value member =>
      weaker text value (List.mem_cons_of_mem _ member)

/-- A container spells the same in any way in which each of its parts does. -/
theorem Enclosed.mono {container : Container} {part other : List Char → α → Prop}
    {values : List α} (enclosed : Enclosed container part text values)
    (weaker : ∀ text, ∀ value ∈ values, part text value → other text value) :
    Enclosed container other text values := by
  cases enclosed with
  | empty blanks blank => exact .empty blanks blank
  | parts text values inside => exact .parts text values (inside.mono weaker)

/-- A text with blanks around it spells the same in any way in which it does without them. -/
theorem Spaced.mono {spells other : List Char → α → Prop} {value : α}
    (spaced : Spaced spells text value) (weaker : ∀ text, spells text value → other text value) :
    Spaced other text value := by
  obtain ⟨before, text, after, value, blankBefore, spelled, blankAfter⟩ := spaced
  exact .spaced before text after value blankBefore (weaker text spelled) blankAfter

/-- A member spells the same in any way in which its value does. -/
theorem Member.mono {spells other : List Char → α → Prop} {member : String × α}
    (spelled : Member spells text member)
    (weaker : ∀ text, spells text member.2 → other text member.2) : Member other text member := by
  obtain ⟨before, key, chars, between, text, value, blankBefore, means, blankBetween, spaced⟩ :=
    spelled
  exact .member before key chars between text value blankBefore means blankBetween
    (spaced.mono weaker)

end Weakening

section Relating

open Relation

variable {text : List Char} {relates : α → β → Prop}

/-- Where lists are related one by one, what is in the one is related to something in the other. -/
theorem exists_related {values : List α} {results : List β}
    (related : List.Forall₂ relates values results) {value : α} (member : value ∈ values) :
    ∃ result ∈ results, relates value result := by
  induction related with
  | nil => cases member
  | @cons first result values results head later inductionHypothesis =>
    rcases List.mem_cons.mp member with rfl | behind
    · exact ⟨result, List.mem_cons_self, head⟩
    · obtain ⟨other, among, relatedOther⟩ := inductionHypothesis behind
      exact ⟨other, List.mem_cons_of_mem _ among, relatedOther⟩

/-- Values that are each related to something are related to as much, in their order. -/
theorem exists_all_related {values : List α}
    (each : ∀ value ∈ values, ∃ result, relates value result) :
    ∃ results, List.Forall₂ relates values results := by
  induction values with
  | nil => exact ⟨[], .nil⟩
  | cons value values inductionHypothesis =>
    obtain ⟨first, later⟩ := List.forall_mem_cons.mp each
    obtain ⟨result, head⟩ := first
    obtain ⟨results, related⟩ := inductionHypothesis later
    exact ⟨result :: results, .cons head related⟩

/-- A text with blanks around it spells what comes of a value exactly if the value comes of the text
without them. -/
theorem spaced_comp_iff {spells : List Char → α → Prop} {result : β} :
    Spaced (Comp spells relates) text result ↔ Comp (Spaced spells) relates text result := by
  constructor
  · rintro ⟨before, text, after, result, blankBefore, ⟨value, spelled, related⟩, blankAfter⟩
    exact ⟨value, .spaced before text after value blankBefore spelled blankAfter, related⟩
  · rintro ⟨value, ⟨before, text, after, _, blankBefore, spelled, blankAfter⟩, related⟩
    exact .spaced before text after result blankBefore ⟨value, spelled, related⟩ blankAfter

/-- Members of one key whose values are related. -/
def SameKey (relates : α → β → Prop) (member : String × α) (result : String × β) : Prop :=
  member.1 = result.1 ∧ relates member.2 result.2

/-- A member spells what comes of its value with its key. -/
theorem member_comp_iff {spells : List Char → α → Prop} {result : String × β} :
    Member (Comp spells relates) text result ↔
      Comp (Member spells) (SameKey relates) text result := by
  constructor
  · rintro ⟨before, key, chars, between, text, result, blankBefore, means, blankBetween, spaced⟩
    obtain ⟨value, spelled, related⟩ := spaced_comp_iff.mp spaced
    exact ⟨_, .member before key chars between text value blankBefore means blankBetween spelled,
      rfl, related⟩
  · obtain ⟨name, result⟩ := result
    rintro ⟨_, ⟨before, key, chars, between, text, value, blankBefore, means, blankBetween,
      spelled⟩, same, related⟩
    obtain rfl : String.ofList chars = name := same
    exact .member before key chars between text result blankBefore means blankBetween
      (spaced_comp_iff.mpr ⟨value, spelled, related⟩)

/-- Parts spell what comes of their values one by one. -/
theorem parts_comp_iff {part : List Char → α → Prop} {results : List β} :
    Parts (Comp part relates) text results ↔
      Comp (Parts part) (List.Forall₂ relates) text results := by
  constructor
  · intro parts
    induction parts with
    | last text result spelled =>
      obtain ⟨value, spelled, related⟩ := spelled
      exact ⟨[value], .last text value spelled, .cons related .nil⟩
    | more text others result results spelled later inductionHypothesis =>
      obtain ⟨value, spelled, related⟩ := spelled
      obtain ⟨values, later, others⟩ := inductionHypothesis
      exact ⟨value :: values, .more text _ value values spelled later, .cons related others⟩
  · rintro ⟨values, parts, related⟩
    induction parts generalizing results with
    | last text value spelled =>
      obtain _ | ⟨first, _ | _⟩ := related
      exact .last text _ ⟨value, spelled, first⟩
    | more text others value values spelled later inductionHypothesis =>
      obtain _ | ⟨first, rest⟩ := related
      exact .more text others _ _ ⟨value, spelled, first⟩ (inductionHypothesis rest)

/-- A container spells what comes of the values of its parts one by one. -/
theorem enclosed_comp_iff {container : Container} {part : List Char → α → Prop}
    {results : List β} :
    Enclosed container (Comp part relates) text results ↔
      Comp (Enclosed container part) (List.Forall₂ relates) text results := by
  constructor
  · intro enclosed
    cases enclosed with
    | empty blanks blank => exact ⟨[], .empty blanks blank, .nil⟩
    | parts text results inside =>
      obtain ⟨values, inside, related⟩ := parts_comp_iff.mp inside
      exact ⟨values, .parts text values inside, related⟩
  · rintro ⟨values, enclosed, related⟩
    cases enclosed with
    | empty blanks blank =>
      cases related
      exact .empty blanks blank
    | parts text values inside =>
      exact .parts text results (parts_comp_iff.mpr ⟨values, inside, related⟩)

end Relating

section Writing

variable {text : List Char}

/-- What spells a value with blanks around it is a part of a list. -/
theorem Spaced.written {spells : List Char → α → Prop} {value : α}
    (spaced : Spaced spells text value)
    (written : ∀ text value, spells text value → Writes .value text) :
    Writes (.part .list) text := by
  obtain ⟨before, text, after, value, blankBefore, spelled, blankAfter⟩ := spaced
  exact .item before text after blankBefore (written text value spelled) blankAfter

/-- What spells a member is a part of an object. -/
theorem Member.written {spells : List Char → α → Prop} {member : String × α}
    (spelled : Member spells text member)
    (written : ∀ text value, spells text value → Writes .value text) :
    Writes (.part .object) text := by
  obtain ⟨before, key, chars, between, text, value, blankBefore, means, blankBetween, spaced⟩ :=
    spelled
  exact .member before key between text blankBefore (content_of_means means) blankBetween
    (spaced.written written)

/-- What spells the values of parts is parts of the grammar. -/
theorem Parts.written {container : Container} {part : List Char → α → Prop} {values : List α}
    (parts : Parts part text values)
    (written : ∀ text value, part text value → Writes (.part container) text) :
    Writes (.parts container) text := by
  induction parts with
  | last text value spelled => exact .last container text (written text value spelled)
  | more text others value values spelled later inductionHypothesis =>
    exact .more container text others (written text value spelled) inductionHypothesis

/-- What spells the values of a container is a value of the grammar. -/
theorem Enclosed.written {container : Container} {part : List Char → α → Prop} {values : List α}
    (enclosed : Enclosed container part text values)
    (written : ∀ text value, part text value → Writes (.part container) text) :
    Writes .value text := by
  cases enclosed with
  | empty blanks blank => exact .empty container blanks blank
  | parts text values inside => exact .container container text (inside.written written)

/-- What spells a value without parts is a value of the grammar. -/
theorem SpellsPlain.written {value : Json} (spelled : SpellsPlain text value) :
    Writes .value text := by
  cases spelled with
  | null => exact .null
  | true => exact .true
  | false => exact .false
  | number text number isNumber read => exact .number text isNumber
  | string content chars means => exact .string content (content_of_means means)

/-- What spells a value within a depth is a value of the grammar. -/
theorem written_within {depth : Nat} {value : Json} (spelled : SpellsWithin depth text value) :
    Writes .value text := by
  induction depth generalizing text value with
  | zero => exact spelled.written
  | succ depth inductionHypothesis =>
    cases spelled with
    | plain value plain => exact plain.written
    | list items enclosed =>
      exact enclosed.written fun text value spaced =>
        spaced.written fun text value => inductionHypothesis
    | object members enclosed =>
      exact enclosed.written fun text member spelled =>
        spelled.written fun text value => inductionHypothesis

end Writing

section Depths

variable {text : List Char} {value : Json}

/-- What is spelled within a depth is spelled within the next one too. -/
theorem within_succ {depth : Nat} (spelled : SpellsWithin depth text value) :
    SpellsWithin (depth + 1) text value := by
  induction depth generalizing text value with
  | zero => exact .plain value spelled
  | succ depth inductionHypothesis =>
    cases spelled with
    | plain value plain => exact .plain value plain
    | list items enclosed =>
      refine .list items (enclosed.mono fun text value _ spaced => ?_)
      exact spaced.mono fun text => inductionHypothesis
    | object members enclosed =>
      refine .object members (enclosed.mono fun text member _ spelled => ?_)
      exact spelled.mono fun text => inductionHypothesis

/-- What is spelled within a depth is spelled within every greater one. -/
theorem within_mono {depth more : Nat} (deeper : depth ≤ more)
    (spelled : SpellsWithin depth text value) : SpellsWithin more text value := by
  induction deeper with
  | refl => exact spelled
  | step deeper inductionHypothesis => exact within_succ inductionHypothesis

end Depths

end RecordRules.JsonDocuments
