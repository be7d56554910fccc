import Mathlib.Data.List.Forall2
import RecordRules.Rules.RuleSet

/-!
# Compiled rules

The rules of a definition are compiled exactly if all of their names are different and all of their
conditions are compiled. Then there is a rule for each of them, in their order.
-/

namespace RecordRules.Compilation

/-- A rule is what a definition is compiled to. -/
structure CompiledTo (definition : RuleDefinition) (rule : Rule) : Prop where
  name : rule.name = definition.name
  description : rule.description = definition.description
  condition : Condition.compile definition.condition = .ok rule.condition

/-- A first rule is compiled if its name was not seen before and its condition is compiled, and the
others if they are compiled with its name seen. -/
theorem compile_rules_cons (seen : List String) (definition : RuleDefinition)
    (definitions : List RuleDefinition) (rules : List Rule) :
    RuleSet.compileRules seen (definition :: definitions) = .ok rules ↔
      definition.name ∉ seen ∧ ∃ rule later, CompiledTo definition rule ∧
        RuleSet.compileRules (definition.name :: seen) definitions = .ok later ∧
        rules = rule :: later := by
  rw [RuleSet.compileRules]
  constructor
  · intro compiled
    split at compiled
    · cases compiled
    · rename_i unseen
      refine ⟨unseen, ?_⟩
      cases condition : Condition.compile definition.condition with
      | error errors =>
        rw [condition] at compiled
        cases compiled
      | ok condition' =>
        cases others : RuleSet.compileRules (definition.name :: seen) definitions with
        | error error =>
          rw [condition, others] at compiled
          cases compiled
        | ok later =>
          rw [condition, others] at compiled
          cases compiled
          exact ⟨_, later, ⟨rfl, rfl, condition⟩, rfl, rfl⟩
  · rintro ⟨unseen, rule, later, first, others, rfl⟩
    rw [if_neg unseen, first.condition, others]
    obtain ⟨name, description, condition⟩ := rule
    obtain ⟨rfl, rfl, _⟩ := first
    rfl

/-- Rules are compiled exactly if their names are different from each other and from those seen
before, and their conditions are compiled. -/
theorem compile_rules_iff (seen : List String) (definitions : List RuleDefinition)
    (rules : List Rule) :
    RuleSet.compileRules seen definitions = .ok rules ↔
      (definitions.map RuleDefinition.name).Nodup ∧
        (∀ definition ∈ definitions, definition.name ∉ seen) ∧
        List.Forall₂ CompiledTo definitions rules := by
  induction definitions generalizing seen rules with
  | nil =>
    rw [RuleSet.compileRules, List.forall₂_nil_left_iff]
    simp [eq_comm]
  | cons definition definitions inductionHypothesis =>
    rw [compile_rules_cons, List.map_cons, List.nodup_cons, List.forall_mem_cons,
      List.forall₂_cons_left_iff]
    simp only [inductionHypothesis, List.mem_cons, not_or]
    constructor
    · rintro ⟨unseen, rule, later, first, ⟨distinct, apart, others⟩, rfl⟩
      have fresh : definition.name ∉ definitions.map RuleDefinition.name := by
        intro member
        obtain ⟨other, among, same⟩ := List.mem_map.mp member
        exact (apart other among).1 same
      exact ⟨⟨fresh, distinct⟩, ⟨unseen, fun other among => (apart other among).2⟩, rule, later,
        first, others, rfl⟩
    · rintro ⟨⟨fresh, distinct⟩, ⟨unseen, apart⟩, rule, later, first, others, rfl⟩
      refine ⟨unseen, rule, later, first, ⟨distinct, ?_, others⟩, rfl⟩
      intro other among
      exact ⟨fun same => fresh (List.mem_map.mpr ⟨other, among, same⟩), apart other among⟩

/-- A definition is compiled to a rule set of its name, with the rules that its own are compiled to,
exactly if the names of those are all different. -/
theorem compile_iff (definition : RuleSetDefinition) (set : RuleSet) :
    RuleSet.compile definition = .ok set ↔
      (definition.rules.map RuleDefinition.name).Nodup ∧ set.name = definition.name ∧
        List.Forall₂ CompiledTo definition.rules set.rules := by
  have parts : RuleSet.compile definition = .ok set ↔
      set.name = definition.name ∧ RuleSet.compileRules [] definition.rules = .ok set.rules := by
    rw [RuleSet.compile]
    cases RuleSet.compileRules [] definition.rules with
    | error error => simp [bind, Except.bind]
    | ok rules =>
      obtain ⟨name, rules'⟩ := set
      simp [bind, Except.bind, pure, Except.pure, eq_comm]
  rw [parts, compile_rules_iff]
  simp [and_left_comm]

/-- The names of a rule set that was compiled are all different. -/
theorem distinct_of_compile {definition : RuleSetDefinition} {set : RuleSet}
    (compiled : RuleSet.compile definition = .ok set) : set.names.Nodup := by
  obtain ⟨distinct, -, rules⟩ := (compile_iff definition set).mp compiled
  have named : List.Forall₂ (fun first second => first = second)
      (definition.rules.map RuleDefinition.name) (set.rules.map Rule.name) := by
    rw [List.forall₂_map_left_iff, List.forall₂_map_right_iff]
    exact rules.imp fun _ _ compiledTo => compiledTo.name.symm
  have same : definition.rules.map RuleDefinition.name = set.names := by
    rwa [List.forall₂_eq_eq_eq] at named
  exact same ▸ distinct

/-- Definitions are compiled to rules exactly if their conditions are compiled. -/
theorem exists_compiled_iff (definitions : List RuleDefinition) :
    (∃ rules, List.Forall₂ CompiledTo definitions rules) ↔
      ∀ definition ∈ definitions, ∃ condition,
        Condition.compile definition.condition = .ok condition := by
  induction definitions with
  | nil => simp
  | cons definition definitions inductionHypothesis =>
    rw [List.forall_mem_cons, ← inductionHypothesis]
    constructor
    · rintro ⟨rules, compiled⟩
      obtain ⟨rule, later, first, others, rfl⟩ := List.forall₂_cons_left_iff.mp compiled
      exact ⟨⟨rule.condition, first.condition⟩, later, others⟩
    · rintro ⟨⟨condition, first⟩, later, others⟩
      exact ⟨⟨definition.name, definition.description, condition⟩ :: later,
        .cons ⟨rfl, rfl, first⟩ others⟩

/-- A definition is compiled exactly if the names of its rules are all different and all of their
conditions are compiled. -/
theorem exists_compile_iff (definition : RuleSetDefinition) :
    (∃ set, RuleSet.compile definition = .ok set) ↔
      (definition.rules.map RuleDefinition.name).Nodup ∧
        ∀ rule ∈ definition.rules, ∃ condition,
          Condition.compile rule.condition = .ok condition := by
  rw [← exists_compiled_iff]
  constructor
  · rintro ⟨set, compiled⟩
    obtain ⟨distinct, -, rules⟩ := (compile_iff definition set).mp compiled
    exact ⟨distinct, set.rules, rules⟩
  · rintro ⟨distinct, rules, compiled⟩
    exact ⟨⟨definition.name, rules⟩, (compile_iff definition _).mpr ⟨distinct, rfl, compiled⟩⟩

/-- A result is an error exactly if it is no success. -/
theorem error_iff {Error Value : Type} (result : Except Error Value) :
    (∃ error, result = .error error) ↔ ¬ ∃ value, result = .ok value := by
  cases result <;> simp

/-- A definition is refused exactly if its rules have a name twice or a condition that is broken. -/
theorem compile_error_iff (definition : RuleSetDefinition) :
    (∃ error, RuleSet.compile definition = .error error) ↔
      ¬ (definition.rules.map RuleDefinition.name).Nodup ∨
        ∃ rule ∈ definition.rules, ∃ errors, Condition.compile rule.condition = .error errors := by
  rw [error_iff, exists_compile_iff, not_and_or]
  simp only [error_iff, not_forall, exists_prop]

end RecordRules.Compilation
