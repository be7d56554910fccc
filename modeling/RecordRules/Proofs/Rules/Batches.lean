import Mathlib.Data.List.Nodup
import RecordRules.Proofs.Rules.Steps

/-!
# Rules evaluated all at once

Evaluating everything in a registry reports each name once, in ascending order, with what comes of
its condition. After a rule set was loaded, its names are reported as the rule set itself reports
them, and all other names as they were reported before. This rests on the names of the rule set
being different: otherwise the last rule of a name would be loaded, but the first one found.
-/

namespace RecordRules.Batches

open Compilation Steps

/-- If the keys of entries are different, the one that is found by its key is the one that has
it. -/
theorem find?_keyed {Entry : Type} {key : Entry → String} {entries : List Entry}
    (distinct : (entries.map key).Nodup) {entry : Entry} (member : entry ∈ entries) :
    entries.find? (fun other => key other == key entry) = some entry := by
  obtain ⟨found, first⟩ : ∃ found,
      entries.find? (fun other => key other == key entry) = some found := by
    rw [← Option.isSome_iff_exists, List.find?_isSome]
    exact ⟨entry, member, beq_self_eq_true _⟩
  have keyed : key found = key entry := by simpa using List.find?_some first
  have same : found = entry :=
    List.inj_on_of_nodup_map distinct (List.mem_of_find?_eq_some first) member keyed
  rw [first, same]

/-- An entry of a table is what its name is bound to. -/
theorem mem_entries_iff {Value : Type} (table : Table Value) (name : String) (value : Value) :
    (name, value) ∈ table.entries ↔ table.get? name = some value := by
  have distinct : (table.entries.map Prod.fst).Nodup := table.pairwise_names.imp String.ne_of_lt
  constructor
  · intro member
    rw [Table.get?, find?_keyed distinct member]
    rfl
  · intro bound
    obtain ⟨entry, first, rfl⟩ := Option.map_eq_some_iff.mp bound
    have named : entry.1 = name := by simpa using List.find?_some first
    exact named ▸ List.mem_of_find?_eq_some first

section Registry

variable (registry : Registry) (record : Record)

/-- The names that are reported are the registered ones, in their order. -/
theorem batch_names : (registry.evaluateAll record).map RuleOutcome.rule = registry.names := by
  rw [Registry.evaluateAll, Table.names, List.map_map]
  rfl

/-- What is reported under a name is what comes of the condition that the name is bound to. -/
theorem reported_iff (name : String) (result : Outcome) :
    ⟨name, result⟩ ∈ registry.evaluateAll record ↔
      ∃ condition, registry.get? name = some condition ∧ condition.evaluate record = result := by
  rw [Registry.evaluateAll, List.mem_map]
  constructor
  · rintro ⟨⟨bound, condition⟩, member, same⟩
    obtain ⟨rfl, rfl⟩ := RuleOutcome.mk.inj same
    exact ⟨condition, (mem_entries_iff registry _ _).mp member, rfl⟩
  · rintro ⟨condition, bound, rfl⟩
    exact ⟨(name, condition), (mem_entries_iff registry _ _).mpr bound, rfl⟩

end Registry

section RuleSet

variable {set : RuleSet}

/-- No rule has a name that is not among the names. -/
theorem others_of_not_mem {name : String} (absent : name ∉ set.names) :
    ∀ rule ∈ set.rules, rule.name ≠ name := by
  rintro rule member rfl
  exact absent (List.mem_map_of_mem member)

/-- Behind loading, the names are those of the rule set and those that were there. -/
theorem mem_names_load (distinct : set.names.Nodup) (registry : Registry) (name : String) :
    name ∈ (registry.load set).names ↔ name ∈ set.names ∨ name ∈ registry.names := by
  rw [Table.mem_names_iff, Table.mem_names_iff]
  by_cases inside : name ∈ set.names
  · obtain ⟨rule, member, rfl⟩ := List.mem_map.mp inside
    simp [get?_loaded distinct member, inside]
  · simp [get?_loaded_other (others_of_not_mem inside), inside]

/-- If names are different, there is one rule of a name, and it is the one that is found. -/
theorem get?_of_mem (distinct : set.names.Nodup) {rule : Rule} (member : rule ∈ set.rules) :
    set.get? rule.name = some rule ∧
      ∀ other ∈ set.rules, other.name = rule.name → other = rule :=
  ⟨find?_keyed distinct member,
    fun _ among same => List.inj_on_of_nodup_map distinct among member same⟩

/-- A rule set reports for the name of a rule what comes of the rule. -/
theorem reported_by_set (distinct : set.names.Nodup) {rule : Rule} (member : rule ∈ set.rules)
    (record : Record) (result : Outcome) :
    ⟨rule.name, result⟩ ∈ set.evaluate record ↔ rule.condition.evaluate record = result := by
  simp only [RuleSet.evaluate, List.mem_map, RuleOutcome.mk.injEq]
  constructor
  · rintro ⟨other, among, same, rfl⟩
    rw [(get?_of_mem distinct member).2 other among same]
  · intro comes
    exact ⟨rule, member, rfl, comes⟩

/-- The names that match are a part of all names, in their order. -/
theorem matching_sublist (set : RuleSet) (record : Record) :
    (set.matching record).Sublist set.names := by
  obtain ⟨title, rules⟩ := set
  induction rules with
  | nil => exact List.Sublist.slnil
  | cons rule rules inductionHypothesis =>
    simp only [RuleSet.matching, RuleSet.evaluate, RuleSet.names, List.map_cons,
      List.filterMap_cons] at inductionHypothesis ⊢
    split
    · exact inductionHypothesis.cons _
    · rename_i name shown
      have same : name = rule.name := by
        split at shown <;> simp_all
      exact same ▸ inductionHypothesis.cons_cons _

/-- The names that match are those with a rule that is reported to hold. -/
theorem mem_matching_iff (set : RuleSet) (record : Record) (name : String) :
    name ∈ set.matching record ↔ ⟨name, .ok true⟩ ∈ set.evaluate record := by
  rw [RuleSet.matching, List.mem_filterMap]
  constructor
  · rintro ⟨⟨rule, result⟩, member, shown⟩
    split at shown
    · rename_i holds
      obtain rfl : rule = name := Option.some.inj shown
      exact holds ▸ member
    · cases shown
  · intro member
    exact ⟨⟨name, .ok true⟩, member, rfl⟩

end RuleSet

/-- A rule set that was compiled is loaded into a registry, and everything is evaluated on a record.
Then each name is reported once, in ascending order, and the names are those of the rule set and
those that were registered before. Under a name of the rule set the outcome is the one that the rule
set reports, which is the outcome of the one rule that is found by the name; under any other name it
is the one that was reported before. What matches a record is the part of the names, in the order of
the rule set, that are reported to hold. -/
theorem loaded_agrees {definition : RuleSetDefinition} {set : RuleSet}
    (compiled : RuleSet.compile definition = .ok set) (registry : Registry) (record : Record) :
    (((registry.load set).evaluateAll record).map RuleOutcome.rule).Pairwise (· < ·) ∧
    (∀ name, name ∈ ((registry.load set).evaluateAll record).map RuleOutcome.rule ↔
      name ∈ set.names ∨ name ∈ registry.names) ∧
    (∀ name ∈ set.names, ∀ result, ⟨name, result⟩ ∈ (registry.load set).evaluateAll record ↔
      ⟨name, result⟩ ∈ set.evaluate record) ∧
    (∀ name ∉ set.names, ∀ result, ⟨name, result⟩ ∈ (registry.load set).evaluateAll record ↔
      ⟨name, result⟩ ∈ registry.evaluateAll record) ∧
    ((set.matching record).Sublist set.names ∧ ∀ name ∈ set.names,
      (name ∈ set.matching record ↔
        ⟨name, .ok true⟩ ∈ (registry.load set).evaluateAll record)) ∧
    ∀ name ∈ set.names, ∃ rule, set.get? name = some rule ∧ rule.name = name ∧
      (∀ other ∈ set.rules, other.name = name → other = rule) ∧
      ⟨name, rule.condition.evaluate record⟩ ∈ (registry.load set).evaluateAll record := by
  have distinct : set.names.Nodup := distinct_of_compile compiled
  have loaded : ∀ name ∈ set.names, ∀ result,
      ⟨name, result⟩ ∈ (registry.load set).evaluateAll record ↔
        ⟨name, result⟩ ∈ set.evaluate record := by
    intro name inside result
    obtain ⟨rule, member, rfl⟩ := List.mem_map.mp inside
    rw [reported_iff, get?_loaded distinct member, reported_by_set distinct member]
    simp
  refine ⟨?_, ?_, loaded, ?_, ⟨matching_sublist set record, ?_⟩, ?_⟩
  · rw [batch_names]
    exact (registry.load set).pairwise_names
  · intro name
    rw [batch_names]
    exact mem_names_load distinct registry name
  · intro name outside result
    rw [reported_iff, reported_iff, get?_loaded_other (others_of_not_mem outside)]
  · intro name inside
    rw [mem_matching_iff, loaded name inside]
  · intro name inside
    obtain ⟨rule, member, rfl⟩ := List.mem_map.mp inside
    obtain ⟨found, unique⟩ := get?_of_mem distinct member
    refine ⟨rule, found, rfl, unique, ?_⟩
    rw [loaded _ inside, reported_by_set distinct member]

/-- A rule of a name that holds of a record exactly if its field is listed, or is not. -/
def listedRule (name source : String) (operator : ListOperator) : Rule :=
  ⟨name, "", source, .comparison ⟨⟨"x", 0⟩, .list operator "[1]"⟩⟩

/-- A rule set is loaded into a registry that has one of its names and another. Its rules are not in
the order of their names, and they say the opposite of what the registry said before. -/
theorem descending_loaded :
    let definition : RuleSetDefinition :=
      ⟨"s", "", [⟨"b", "", "x in [1]"⟩, ⟨"a", "", "x not in [1]"⟩]⟩
    let first := listedRule "b" "x in [1]" .among
    let second := listedRule "a" "x not in [1]" .notAmong
    let set : RuleSet := ⟨"s", [first, second]⟩
    let registry : Registry := .ofList [("a", first.condition), ("c", first.condition)]
    let record : Record := .ofList [("x", .text "1")]
    RuleSet.compile definition = .ok set ∧
      ⟨"a", .ok true⟩ ∈ registry.evaluateAll record ∧
      ⟨"a", .ok false⟩ ∈ (registry.load set).evaluateAll record ∧
      ⟨"b", .ok true⟩ ∈ (registry.load set).evaluateAll record ∧
      ⟨"c", .ok true⟩ ∈ (registry.load set).evaluateAll record ∧
      set.matching record = ["b"] := by
  intro definition first second set registry record
  have compiled : RuleSet.compile definition = .ok set := by decide +kernel
  have holds : first.condition.evaluate record = .ok true := by decide +kernel
  have fails : second.condition.evaluate record = .ok false := by decide +kernel
  have before (name : String) (bound : registry.get? name = some first.condition) :
      ⟨name, .ok true⟩ ∈ registry.evaluateAll record :=
    (reported_iff registry record name _).mpr ⟨first.condition, bound, holds⟩
  obtain ⟨-, -, loaded, kept, -, -⟩ := loaded_agrees compiled registry record
  refine ⟨compiled, before "a" (by decide +kernel), ?_, ?_, ?_, by decide +kernel⟩
  · rw [loaded "a" (by decide +kernel), RuleSet.evaluate]
    exact List.mem_map.mpr ⟨second, by simp [set], by rw [fails]; rfl⟩
  · rw [loaded "b" (by decide +kernel), RuleSet.evaluate]
    exact List.mem_map.mpr ⟨first, by simp [set], by rw [holds]; rfl⟩
  · rw [kept "c" (by decide +kernel)]
    exact before "c" (by decide +kernel)

end RecordRules.Batches
