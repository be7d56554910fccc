import RecordRules.Number.Decimal
import RecordRules.Proofs.Condition.Meaning

/-!
# What evaluation sees of a record

A condition looks at the fields that it names, and it sees a value only through its canonical text.
So two records with the same texts at these fields are the same to it, down to the failure and its
cause, whatever kinds of values have the texts and whatever the other fields hold.

It sees no less than the text either. Where two records differ in the text of a field, or only one
of them has the field, a single comparison of that field tells them apart.
-/

namespace RecordRules.Visibility

open Meaning Number

/-- Two records look the same at a field: neither has it, or both have values of the same canonical
text, whatever their kinds. -/
inductive Alike (first second : Record) (name : String) : Prop
  | absent (one : first.get? name = none) (two : second.get? name = none)
  | present (left right : Value) (one : first.get? name = some left)
      (two : second.get? name = some right) (same : left.canonical = right.canonical)

/-- Records look the same at a field exactly if the same can be seen there. -/
theorem alike_iff (first second : Record) (name : String) :
    Alike first second name ↔
      (first.get? name).map Value.canonical = (second.get? name).map Value.canonical := by
  constructor
  · intro alike
    cases alike with
    | absent one two => rw [one, two]
    | present left right one two same => rw [one, two, Option.map_some, Option.map_some, same]
  · intro same
    cases one : first.get? name with
    | none =>
      rw [one, Option.map_none, eq_comm, Option.map_eq_none_iff] at same
      exact .absent one same
    | some left =>
      rw [one, Option.map_some, eq_comm, Option.map_eq_some_iff] at same
      obtain ⟨right, two, same⟩ := same
      exact .present left right one two same.symm

instance (first second : Record) (name : String) : Decidable (Alike first second name) :=
  decidable_of_iff _ (alike_iff first second name).symm

/-- The canonical text of a value has its characters. -/
@[simp] theorem toList_canonical (value : Value) : value.canonical.toList = value.chars :=
  String.toList_ofList

/-- A comparison comes to the same on records that look the same at its field. -/
theorem leaf_alike {first second : Record} (leaf : Comparison)
    (alike : Alike first second leaf.field.name) :
    leaf.evaluate first = leaf.evaluate second := by
  obtain ⟨field, test⟩ := leaf
  cases alike with
  | absent one two =>
    cases test <;> simp only [Comparison.evaluate, FieldReference.lookup, one, two]
  | present left right one two same =>
    have chars : left.chars = right.chars := by
      rw [← toList_canonical, same, toList_canonical]
    cases test <;> simp only [Comparison.evaluate, FieldReference.lookup, one, two, bind,
      Except.bind, chars]

/-- A condition comes to the same on records that look the same at its fields. -/
theorem evaluate_alike {first second : Record} (tree : Expression)
    (alike : ∀ name ∈ tree.fields, Alike first second name) :
    tree.evaluate first = tree.evaluate second := by
  induction tree with
  | comparison leaf =>
    rw [evaluate_comparison, evaluate_comparison]
    exact leaf_alike leaf (alike _ (List.mem_singleton_self _))
  | grouped inner inductionHypothesis =>
    rw [evaluate_grouped, evaluate_grouped]
    exact inductionHypothesis alike
  | joined connective left right leftHypothesis rightHypothesis =>
    have fields : (Expression.joined connective left right).fields = left.fields ++ right.fields :=
      List.map_append
    rw [fields] at alike
    have onLeft := leftHypothesis fun name member => alike name (List.mem_append_left _ member)
    have onRight := rightHypothesis fun name member => alike name (List.mem_append_right _ member)
    rw [evaluate_joined, evaluate_joined, onLeft, onRight]

/-- Records that agree at a field look the same there. -/
theorem alike_of_eq {first second : Record} {name : String}
    (same : first.get? name = second.get? name) : Alike first second name := by
  rw [alike_iff, same]

/-- The condition that a field has this text. -/
def hasText (name text : String) : Expression := .comparison ⟨⟨name, 0⟩, .text .equal text⟩

/-- Where a field is missing, asking for its text fails. -/
theorem has_text_absent {record : Record} {name : String} (text : String)
    (absent : record.get? name = none) :
    (hasText name text).evaluate record = .error (.fieldNotFound ⟨name, 0⟩) := by
  simp [hasText, Comparison.evaluate, FieldReference.lookup, absent, bind, Except.bind]

/-- Where a field is there, asking for its text compares the canonical text of its value. -/
theorem has_text_present {record : Record} {name : String} {value : Value} (text : String)
    (present : record.get? name = some value) :
    (hasText name text).evaluate record = .ok (decide (value.canonical = text)) := by
  simp [hasText, Comparison.evaluate, FieldReference.lookup, present, bind, Except.bind,
    TextOperator.holds, ← String.toList_inj]

/-- Two records that look different at a field are told apart by a condition on its text, namely
the text that the first record has there. -/
theorem exists_telling {first second : Record} {name : String}
    (different : ¬ Alike first second name) :
    ∃ tree : Expression, tree.fields = [name] ∧ tree.evaluate first ≠ tree.evaluate second := by
  cases one : first.get? name with
  | none =>
    cases two : second.get? name with
    | none => exact absurd (.absent one two) different
    | some right =>
      refine ⟨hasText name "", rfl, ?_⟩
      rw [has_text_absent "" one, has_text_present "" two]
      simp
  | some left =>
    refine ⟨hasText name left.canonical, rfl, ?_⟩
    rw [has_text_present left.canonical one]
    cases two : second.get? name with
    | none =>
      rw [has_text_absent left.canonical two]
      simp
    | some right =>
      have texts : right.canonical ≠ left.canonical := fun same =>
        different (.present left right one two same.symm)
      rw [has_text_present left.canonical two, decide_eq_true rfl, decide_eq_false texts]
      simp

/-- Records that look the same at the fields of a condition are the same to it: it has the same
value on both, or the same failure of the same field with the same cause. A field that it does not
name may be bound or unbound freely. And nothing coarser than the canonical text would do, since
records that look different at a field are told apart by a condition over that field alone. -/
theorem evaluate_sees (first second : Record) :
    (∀ tree : Expression, (∀ name ∈ tree.fields, Alike first second name) →
      tree.evaluate first = tree.evaluate second) ∧
    (∀ (tree : Expression) (name : String), name ∉ tree.fields →
      tree.evaluate (first.erase name) = tree.evaluate first ∧
        ∀ value, tree.evaluate (first.insert name value) = tree.evaluate first) ∧
    ∀ name, ¬ Alike first second name →
      ∃ tree : Expression, tree.fields = [name] ∧ tree.evaluate first ≠ tree.evaluate second := by
  refine ⟨fun tree => evaluate_alike tree, ?_, fun name => exists_telling⟩
  intro tree name unnamed
  have other : ∀ asked ∈ tree.fields, asked ≠ name := fun asked member same =>
    unnamed (same ▸ member)
  refine ⟨evaluate_alike tree fun asked member => alike_of_eq ?_, fun value =>
    evaluate_alike tree fun asked member => alike_of_eq ?_⟩
  · rw [Table.get?_erase, if_neg (other asked member)]
  · rw [Table.get?_insert, if_neg (other asked member)]

/-- A number, a list and a field that no condition below names. -/
def valueRecord : Record :=
  Table.ofList [("age", .number (Decimal.toBinary64 false ⟨30, 0⟩)),
    ("tags", .list [.text "a", .number (Decimal.toBinary64 false ⟨1, 0⟩)]), ("x", .boolean true)]

/-- The texts of the number and of the list, and another field. -/
def textRecord : Record := Table.ofList [("age", .text "30"), ("tags", .text "[a 1]")]

/-- Comparisons of every kind, of fields that look the same in both records and of one that neither
record has. -/
def everyKind : Expression :=
  .joined .and
    (.joined .or (.comparison ⟨⟨"age", 0⟩, .numeric .greater (Decimal.toBinary64 false ⟨18, 0⟩)⟩)
      (.comparison ⟨⟨"age", 9⟩, .list .among "[\"30\"]"⟩))
    (.grouped (.joined .or (.comparison ⟨⟨"tags", 20⟩, .text .equal "[a 1]"⟩)
      (.comparison ⟨⟨"y", 30⟩, .list .notAmong "[]"⟩)))

/-- Values and their texts are the same to a condition. -/
theorem evaluate_every_kind :
    (∀ name ∈ everyKind.fields, Alike valueRecord textRecord name) ∧
      everyKind.evaluate valueRecord = everyKind.evaluate textRecord ∧
      everyKind.evaluate (valueRecord.erase "x") = everyKind.evaluate valueRecord ∧
      ∃ tree : Expression, tree.fields = ["x"] ∧
        tree.evaluate valueRecord ≠ tree.evaluate textRecord := by
  have alike : ∀ name ∈ everyKind.fields, Alike valueRecord textRecord name := by decide +kernel
  have unlike : ¬ Alike valueRecord textRecord "x" := by decide +kernel
  obtain ⟨same, unnamed, telling⟩ := evaluate_sees valueRecord textRecord
  exact ⟨alike, same everyKind alike, (unnamed everyKind "x" (by decide)).1, telling "x" unlike⟩

end RecordRules.Visibility
