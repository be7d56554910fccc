import RecordRules.Proofs.Json.Accepting

/-!
# Records are flat objects

A record is read from a document that is an object of flat values: booleans, numbers, strings, and
lists of these. Every member must be flat, also one whose key comes again. The record then binds the
keys of the members, each of them to what its last member is, and a list has the items of its text
in their order.

Nothing else is read as a record. A word for nothing, an object or a list in a list is refused
wherever it stands in a member, and so is a string with a code unit that belongs to no character.
-/

namespace RecordRules.FlatObjects

open Json JsonSyntax JsonTaking JsonScalars JsonDocuments JsonReading JsonAccepting Relation

section Values

/-- A value of the grammar is a scalar. -/
inductive ScalarOf : Json → Scalar → Prop
  | boolean (value : Bool) : ScalarOf (.boolean value) (.boolean value)
  | number (value : Json.Numeral) : ScalarOf (.number value) (.number value.toBinary64)
  | text (content : String) : ScalarOf (.string content) (.text content)

/-- A value of the grammar is flat, and a value of a record: a scalar or a list of scalars. -/
inductive ValueOf : Json → Value → Prop
  | scalar (value : Json) (scalar : Scalar) (isScalar : ScalarOf value scalar) :
      ValueOf value (valueOf scalar)
  | list (items : List Json) (scalars : List Scalar)
      (each : List.Forall₂ ScalarOf items scalars) : ValueOf (.list items) (.list scalars)

/-- A value of the grammar is an object of flat values. -/
inductive ObjectOf : Json → List (String × Value) → Prop
  | object (members : List (String × Json)) (bindings : List (String × Value))
      (each : List.Forall₂ (SameKey ValueOf) members bindings) :
      ObjectOf (.object members) bindings

/-- A value is chosen as a scalar exactly if it is one. -/
theorem choose_scalar_iff {value : Json} {scalar : Scalar} :
    Scalar.ofJson? value = some scalar ↔ ScalarOf value scalar := by
  constructor
  · intro chosen
    cases value with
    | boolean value => exact Option.some.inj chosen ▸ .boolean value
    | number value => exact Option.some.inj chosen ▸ .number value
    | string content => exact Option.some.inj chosen ▸ .text content
    | null | list items | object members => cases chosen
  · intro isScalar
    cases isScalar with
    | boolean | number | text => rfl

/-- Items are chosen as scalars exactly if each of them is one. -/
theorem choose_scalars_iff {items : List Json} {scalars : List Scalar} :
    items.mapM Scalar.ofJson? = some scalars ↔ List.Forall₂ ScalarOf items scalars := by
  induction items generalizing scalars with
  | nil => simp [eq_comm]
  | cons item items inductionHypothesis =>
    have chosen : (item :: items).mapM Scalar.ofJson? = some scalars ↔
        ∃ first, ScalarOf item first ∧ ∃ rest, List.Forall₂ ScalarOf items rest ∧
          first :: rest = scalars := by
      simp [List.mapM_cons, Option.bind_eq_some_iff, choose_scalar_iff, inductionHypothesis]
    rw [chosen]
    constructor
    · rintro ⟨first, isScalar, rest, each, rfl⟩
      exact .cons isScalar each
    · rintro (_ | ⟨isScalar, each⟩)
      exact ⟨_, isScalar, _, each, rfl⟩

/-- A value is chosen for a record exactly if it is flat. -/
theorem choose_value_iff {json : Json} {value : Value} :
    Value.ofJson? json = some value ↔ ValueOf json value := by
  constructor
  · intro chosen
    cases json with
    | boolean value => exact Option.some.inj chosen ▸ .scalar _ _ (.boolean value)
    | number value => exact Option.some.inj chosen ▸ .scalar _ _ (.number value)
    | string content => exact Option.some.inj chosen ▸ .scalar _ _ (.text content)
    | list items =>
      obtain ⟨scalars, every, rfl⟩ := Option.map_eq_some_iff.mp chosen
      exact .list items scalars (choose_scalars_iff.mp every)
    | null | object members => cases chosen
  · intro isValue
    cases isValue with
    | scalar json scalar isScalar =>
      cases isScalar with
      | boolean | number | text => rfl
    | list items scalars each =>
      exact Option.map_eq_some_iff.mpr ⟨scalars, choose_scalars_iff.mpr each, rfl⟩

end Values

section Tables

/-- A record with one more binding. -/
def bindField (record : Record) (binding : String × Value) : Record :=
  record.insert binding.1 binding.2

variable {bindings : List (String × Value)} {name : String}

/-- A name is unbound after some bindings exactly if it was unbound before and none of them binds
it. -/
theorem foldl_unbound_iff (record : Record) :
    (bindings.foldl bindField record).get? name = none ↔
      name ∉ bindings.map Prod.fst ∧ record.get? name = none := by
  induction bindings generalizing record with
  | nil => simp
  | cons binding bindings inductionHypothesis =>
    rw [List.foldl_cons, inductionHypothesis, bindField, Table.get?_insert]
    by_cases same : name = binding.1
    · simp [same]
    · simp [same]

/-- A name that none of some bindings binds is bound as before. -/
theorem foldl_apart (apart : name ∉ bindings.map Prod.fst) (record : Record) :
    (bindings.foldl bindField record).get? name = record.get? name := by
  induction bindings generalizing record with
  | nil => rfl
  | cons binding bindings inductionHypothesis =>
    obtain ⟨other, later⟩ := not_or.mp (mt List.mem_cons.mpr apart)
    rw [List.foldl_cons, inductionHypothesis later, bindField, Table.get?_insert, if_neg other]

/-- A table of bindings is a record in which they were bound one after the other. -/
theorem of_list_eq_foldl (bindings : List (String × Value)) :
    Table.ofList bindings = bindings.foldl bindField .empty := rfl

/-- A name is bound to the last value that it has among the bindings. -/
theorem get?_last {before after : List (String × Value)} {value : Value}
    (last : name ∉ after.map Prod.fst) :
    (Table.ofList (before ++ (name, value) :: after)).get? name = some value := by
  rw [of_list_eq_foldl, List.foldl_append, List.foldl_cons, foldl_apart last, bindField,
    Table.get?_insert, if_pos rfl]

end Tables

section Records

variable (allowance : Nat)

/-- A text spells the value of a member of a record, within an allowance for nesting. -/
abbrev SpellsField : List Char → Value → Prop :=
  Comp (SpellsWithin allowance) fun json value => Value.ofJson? json = some value

/-- A text spells a record: an object whose members bind their keys one after the other. -/
abbrev SpellsRecord : List Char → Record → Prop :=
  Comp (Enclosed .object (Member (SpellsField allowance)))
    fun bindings record => Table.ofList bindings = record

/-- What does not have the required type is not taken. -/
theorem took_mismatch {α : Type} {holds : α → List Char → List Char → Prop} (expected : String)
    (text : List Char) : Took text holds (readMismatch expected text) := by
  have value : Took text (fun value front rest => Led (fun _ _ => True) value front rest)
      (readPlain (fun text => .ok (.list [], text)) (fun text => .ok (.object [], text)) text) :=
    took_plain (fun _ _ _ => trivial) (fun _ => took_nothing _ trivial)
      (fun _ => took_nothing _ trivial) text
  refine took_bind value fun value front rest _ => ?_
  exact .error _ (by simp [Failure.mismatched])

/-- A record is taken as a text that spells it. -/
theorem took_record (text : List Char) :
    Took text (fun record front rest => Led (SpellsRecord allowance) record front rest)
      (readRecord (allowance + 1) text) := by
  have members : ∀ (record : Record) (name : String) text, Took text (fun result front rest =>
      ∃ value, result = record.insert name value ∧ Valued (SpellsField allowance) value front rest)
      (readField allowance record name text) := by
    intro record name text
    refine took_colon fun rest => took_bind (took_variant "Value" Value.ofJson? allowance rest) ?_
    exact fun value front behind led => took_nothing _ ⟨value, rfl, by simpa using led⟩
  have object := took_object bindField members .empty
  unfold readRecord
  refine took_skip ?_
  split
  · rename_i rest shown
    rw [shown]
    refine took_behind ['\x7b'] (took_mono (object rest) ?_)
    rintro _ front behind ⟨bindings, rfl, spelled⟩
    exact ⟨_, _, blank_skipped text, rfl, fun _ => ⟨bindings, spelled, rfl⟩⟩
  · exact took_mismatch _ _

/-- Every text that spells a record is read as it. -/
theorem reads_record : Reads (readRecord (allowance + 1)) (SpellsRecord allowance) := by
  have adds : Adds (readField allowance) bindField (SpellsField allowance) :=
    adds_member (reads_variant "Value" Value.ofJson? allowance) bindField
  constructor
  · rintro text record ⟨bindings, enclosed, -⟩
    obtain ⟨inside, rfl⟩ := first_enclosed enclosed
    exact ⟨'\x7b', inside, rfl, by decide, by decide⟩
  · rintro blanks text record behind blank ⟨bindings, enclosed, rfl⟩ ends
    obtain ⟨inside, rfl⟩ := first_enclosed enclosed
    have shown : skipSpace (blanks ++ '\x7b' :: (inside ++ behind)) =
        '\x7b' :: (inside ++ behind) := skip_blank blank (by decide)
    rw [Container.opening, List.cons_append, readRecord, shown]
    exact read_object adds enclosed .empty behind

/-- A text is read as a record exactly if it spells it, up to the blanks around it. -/
theorem read_iff (text : String) (record : Record) :
    Record.read text = .ok record ↔
      Spaced (SpellsRecord (maximumNesting - 1)) text.toList record :=
  read_document_iff (took_record _) (reads_record _) text record

end Records

section Members

variable {chars : List Char} {depth : Nat} {json : Json}

/-- A scalar is spelled without brackets. -/
theorem plain_of_scalar {scalar : Scalar} (spelled : SpellsWithin depth chars json)
    (isScalar : ScalarOf json scalar) : SpellsPlain chars json := by
  cases depth with
  | zero => exact spelled
  | succ depth =>
    cases spelled with
    | plain json plain => exact plain
    | list items enclosed => cases isScalar
    | object members enclosed => cases isScalar

/-- A flat value is spelled with one pair of brackets at most, so it is within every allowance that
leaves room for one. -/
theorem flat_within {value : Value} (spelled : SpellsWithin depth chars json)
    (isValue : ValueOf json value) (allowance : Nat) :
    SpellsWithin (allowance + 1) chars json := by
  cases isValue with
  | scalar json scalar isScalar => exact .plain json (plain_of_scalar spelled isScalar)
  | list items scalars each =>
    cases depth with
    | zero => cases spelled
    | succ depth =>
      cases spelled with
      | plain json plain => cases plain
      | list items enclosed =>
        refine .list items (enclosed.mono fun chars item member spaced => ?_)
        obtain ⟨scalar, -, isScalar⟩ := exists_related each member
        refine spaced.mono fun chars spelled => ?_
        exact within_mono (Nat.zero_le allowance) (plain_of_scalar spelled isScalar)

/-- An object spells members of a record exactly if it spells an object of their values. -/
theorem spells_fields_iff (allowance : Nat) {bindings : List (String × Value)} :
    Enclosed .object (Member (SpellsField (allowance + 1))) chars bindings ↔
      Comp Spells ObjectOf chars bindings := by
  have fields : Member (SpellsField (allowance + 1)) =
      Comp (Member (SpellsWithin (allowance + 1))) (SameKey ValueOf) := by
    funext chars binding
    simp only [SpellsField, choose_value_iff]
    exact propext member_comp_iff
  rw [fields, enclosed_comp_iff]
  constructor
  · rintro ⟨members, enclosed, each⟩
    have within : SpellsWithin (allowance + 2) chars (.object members) := .object members enclosed
    exact ⟨.object members, ⟨_, within⟩, .object members bindings each⟩
  · rintro ⟨_, ⟨depth, spelled⟩, ⟨members, _, each⟩⟩
    refine ⟨members, ?_, each⟩
    cases depth with
    | zero => cases spelled
    | succ depth =>
      cases spelled with
      | plain json plain => cases plain
      | object members enclosed =>
        refine enclosed.mono fun chars member among spelled => ?_
        obtain ⟨binding, -, -, isValue⟩ := exists_related each among
        exact spelled.mono fun chars within => flat_within within isValue allowance

/-- A text is read as a record exactly if it is an object of flat values, which are bound one after
the other. -/
theorem read_flat_iff (text : String) (record : Record) :
    Record.read text = .ok record ↔ ∃ object bindings, IsDocument text object ∧
      ObjectOf object bindings ∧ Table.ofList bindings = record := by
  have fields : Enclosed .object (Member (SpellsField (maximumNesting - 1))) =
      Comp Spells ObjectOf := by
    funext chars bindings
    exact propext (spells_fields_iff (maximumNesting - 2))
  rw [read_iff, spaced_comp_iff, fields]
  constructor
  · rintro ⟨bindings, spaced, bound⟩
    obtain ⟨object, document, flat⟩ := spaced_comp_iff.mp spaced
    exact ⟨object, bindings, document, flat, bound⟩
  · rintro ⟨object, bindings, document, flat, bound⟩
    exact ⟨bindings, spaced_comp_iff.mpr ⟨object, document, flat⟩, bound⟩

end Members

section Bindings

variable {members : List (String × Json)} {bindings : List (String × Value)}

/-- Related members have the same keys. -/
theorem keys_eq {relates : Json → Value → Prop}
    (each : List.Forall₂ (SameKey relates) members bindings) :
    members.map Prod.fst = bindings.map Prod.fst := by
  induction each with
  | nil => rfl
  | @cons member binding members bindings head later inductionHypothesis =>
    rw [List.map_cons, List.map_cons, inductionHypothesis, head.1]

/-- A record binds exactly the keys of some members, each of them to what the last member of this
key is. -/
structure Binds (record : Record) (members : List (String × Json)) : Prop where
  unbound : ∀ name, record.get? name = none ↔ name ∉ members.map Prod.fst
  bound : ∀ before name json after, members = before ++ (name, json) :: after →
    name ∉ after.map Prod.fst → ∃ value, ValueOf json value ∧ record.get? name = some value

/-- A record of the values of some members binds their keys. -/
theorem binds_of_each (each : List.Forall₂ (SameKey ValueOf) members bindings) :
    Binds (Table.ofList bindings) members := by
  constructor
  · intro name
    rw [keys_eq each, of_list_eq_foldl, foldl_unbound_iff]
    simp
  · rintro before name json after rfl last
    have flipped : List.Forall₂ (flip (SameKey ValueOf)) bindings
        (before ++ (name, json) :: after) := List.Forall₂.flip each
    -- The bindings are split where the members are.
    obtain ⟨⟨key, value⟩, rest, ⟨same, isValue⟩, later, dropped⟩ :=
      List.forall₂_cons_right_iff.mp (List.forall₂_drop_append bindings before _ flipped)
    obtain rfl : name = key := same
    have split := List.take_append_drop before.length bindings
    rw [dropped] at split
    rw [keys_eq (List.Forall₂.flip later)] at last
    rw [← split]
    exact ⟨value, isValue, get?_last last⟩

end Bindings

/-- A text is read as a record exactly if it is an object whose members are all flat, those included
whose key comes again. A text is one document at most, so an object with any other member is refused
wherever that member stands. The record binds exactly the keys of the members as they are meant,
each of them to the value that its last member is. -/
theorem read_flat_exact (text : String) :
    ((∃ record, Record.read text = .ok record) ↔
      ∃ members, IsDocument text (.object members) ∧
        ∀ member ∈ members, ∃ value, ValueOf member.2 value) ∧
    ∀ record members, Record.read text = .ok record → IsDocument text (.object members) →
      (∀ member ∈ members, ∃ value, ValueOf member.2 value) ∧ Binds record members := by
  have flat_of_each : ∀ {members bindings}, List.Forall₂ (SameKey ValueOf) members bindings →
      ∀ member ∈ members, ∃ value, ValueOf member.2 value := by
    intro members bindings each member among
    obtain ⟨binding, -, -, isValue⟩ := exists_related each among
    exact ⟨binding.2, isValue⟩
  constructor
  · constructor
    · rintro ⟨record, read⟩
      obtain ⟨_, bindings, document, ⟨members, _, each⟩, -⟩ := (read_flat_iff text record).mp read
      exact ⟨members, document, flat_of_each each⟩
    · rintro ⟨members, document, flat⟩
      have values : ∀ member ∈ members, ∃ binding, SameKey ValueOf member binding := by
        intro member among
        obtain ⟨value, isValue⟩ := flat member among
        exact ⟨(member.1, value), rfl, isValue⟩
      obtain ⟨bindings, each⟩ := exists_all_related values
      exact ⟨Table.ofList bindings, (read_flat_iff text _).mpr
        ⟨.object members, bindings, document, .object members bindings each, rfl⟩⟩
  · intro record members read document
    obtain ⟨object, bindings, other, flat, rfl⟩ := (read_flat_iff text record).mp read
    obtain rfl := document_unique other document
    cases flat with
    | object members bindings each => exact ⟨flat_of_each each, binds_of_each each⟩

/-- An object with a key that is written in two ways, first with a string and then with a list. -/
def repeatedKey : String := " \x7b\"a\" : \"x\", \"\\u0061\": [0.5, \"y\" ], \"b\":true\x7d\n"

/-- The record of the object: the list, with its items in their order, and the other member. -/
def lastBindings : Record :=
  .ofList [("a", .list [.number (Number.Decimal.toBinary64 false ⟨5, -1⟩), .text "y"]),
    ("b", .boolean true)]

/-- The object is read as a record, which binds what is written last. -/
theorem repeated_key_bound :
    Record.read repeatedKey = .ok lastBindings ∧
      ∃ members, IsDocument repeatedKey (.object members) ∧ Binds lastBindings members := by
  have read : Record.read repeatedKey = .ok lastBindings := by decide +kernel
  obtain ⟨members, document, -⟩ := (read_flat_exact repeatedKey).1.mp ⟨lastBindings, read⟩
  obtain ⟨-, binds⟩ := (read_flat_exact repeatedKey).2 lastBindings members read document
  exact ⟨read, members, document, binds⟩

/-- A text is a string of the grammar, whether it means something or not. -/
def IsString (text string : List Char) : Prop :=
  string = text ∧ ∃ content, Content content ∧ text = '"' :: (content ++ ['"'])

/-- An object with a lone surrogate in a member whose key comes again. -/
def loneSurrogate : String := "\x7b\"a\":\"\\ud800\",\"a\":\"x\"\x7d"

/-- The members of the object are strings of the grammar, and it is not read as a record. -/
theorem lone_surrogate_overridden :
    Enclosed .object (Member IsString) loneSurrogate.toList
        [("a", "\"\\ud800\"".toList), ("a", "\"x\"".toList)] ∧
      Record.read loneSurrogate = .error ⟨.grammar .unexpectedEndOfEscape, some ⟨1, 13⟩⟩ := by
  have key : Means ['a'] ['a'] :=
    .plain 'a' [] [] (by decide) (by decide) (by decide) .finished
  have member : ∀ {content}, Content content → Member IsString
      ('"' :: 'a' :: '"' :: ':' :: '"' :: (content ++ ['"'])) ("a", '"' :: (content ++ ['"'])) := by
    intro content inside
    have item : Spaced IsString ('"' :: (content ++ ['"'])) ('"' :: (content ++ ['"'])) := by
      simpa using Spaced.spaced [] _ [] _ blank_nil ⟨rfl, content, inside, rfl⟩ blank_nil
    exact .member [] ['a'] ['a'] [] _ _ blank_nil key blank_nil item
  have surrogate : Content "\\ud800".toList :=
    .unit "d800".toList [] rfl (hex_of_values (by decide : hexValue? _ = some 0xd800)) .finished
  have letter : Content ['x'] := .plain 'x' [] (by decide) (by decide) (by decide) .finished
  constructor
  · exact .parts _ _ (.more _ _ _ _ (member surrogate) (.last _ _ (member letter)))
  · decide +kernel

end RecordRules.FlatObjects
