import RecordRules.Proofs.Condition.NormalText
import RecordRules.Proofs.Rules.Compilation

/-!
# The rule that stops a compilation

The rules of a definition are compiled in their order, and the first of them that repeats a name or
has a broken condition stops the compilation with its error. Whether a rule offends is said of the
rules before it, without the names that the compilation has gathered on its way. A rule that does
both repeats a name, and whatever stands behind an offending rule is never looked at.
-/

namespace RecordRules.Offences

open Compilation

/-- What is wrong with a rule behind earlier ones: it has the name of one of them, or its condition
is broken. -/
inductive Offends (earlier : List RuleDefinition) (rule : RuleDefinition) : RuleSetError → Prop
  | repeated (other : RuleDefinition) (member : other ∈ earlier) (same : other.name = rule.name) :
      Offends earlier rule (.duplicateRule rule.name)
  | broken (errors : List SyntaxError) (fresh : ∀ other ∈ earlier, other.name ≠ rule.name)
      (broken : Condition.compile rule.condition = .error errors) :
      Offends earlier rule (.compile rule.name errors)

/-- The rule at an index offends behind those before it. -/
def OffendsAt (rules : List RuleDefinition) (index : Nat) (error : RuleSetError) : Prop :=
  ∃ rule, rules[index]? = some rule ∧ Offends (rules.take index) rule error

/-- The rule at an index offends, and none before it does. -/
structure FirstOffence (rules : List RuleDefinition) (index : Nat) (error : RuleSetError) :
    Prop where
  offends : OffendsAt rules index error
  first : ∀ before < index, ∀ other, ¬ OffendsAt rules before other

/-- A rule offends in one way only. -/
theorem offends_unique {earlier : List RuleDefinition} {rule : RuleDefinition}
    {first second : RuleSetError} (one : Offends earlier rule first)
    (two : Offends earlier rule second) : first = second := by
  cases one with
  | repeated other member same =>
    cases two with
    | repeated => rfl
    | broken errors fresh => exact absurd same (fresh other member)
  | broken errors fresh broken =>
    cases two with
    | repeated other member same => exact absurd same (fresh other member)
    | broken others _ again =>
      obtain rfl : errors = others := Except.error.inj (broken.symm.trans again)
      rfl

/-- Only the rules up to an index decide whether the one there offends. -/
theorem offends_at_congr {rules others : List RuleDefinition} {last : Nat}
    (same : others.take (last + 1) = rules.take (last + 1)) {index : Nat} (within : index ≤ last)
    (error : RuleSetError) : OffendsAt others index error ↔ OffendsAt rules index error := by
  have front : ∀ list : List RuleDefinition,
      (list.take (last + 1)).take index = list.take index ∧
        (list.take (last + 1))[index]? = list[index]? := by
    intro list
    constructor
    · rw [List.take_take, Nat.min_eq_left (by omega)]
    · exact List.getElem?_take_of_lt (by omega)
  unfold OffendsAt
  rw [← (front others).1, ← (front others).2, same, (front rules).1, (front rules).2]

/-- The first offence is one, and it is of one kind. -/
theorem first_offence_unique {rules : List RuleDefinition} {index other : Nat}
    {error failure : RuleSetError} (one : FirstOffence rules index error)
    (two : FirstOffence rules other failure) : error = failure := by
  obtain below | rfl | above := Nat.lt_trichotomy index other
  · exact absurd one.offends (two.first index below error)
  · obtain ⟨rule, stands, offends⟩ := one.offends
    obtain ⟨again, standsAgain, offendsAgain⟩ := two.offends
    obtain rfl : rule = again := Option.some.inj (stands.symm.trans standsAgain)
    exact offends_unique offends offendsAgain
  · exact absurd two.offends (one.first other above failure)

/-- What is made of a result does not change its error. -/
theorem bind_error_iff {Error First Second : Type} (result : Except Error First)
    (next : First → Second) (error : Error) :
    (do let value ← result; return next value) = .error error ↔ result = .error error := by
  cases result with
  | error failure => simp [bind, Except.bind]
  | ok value => simp [bind, Except.bind, pure, Except.pure]

section Steps

variable {passed : List RuleDefinition} {rule : RuleDefinition} {seen : List String}

/-- The names seen are those of the rules that were passed. -/
def Saw (seen : List String) (passed : List RuleDefinition) : Prop :=
  ∀ name, name ∈ seen ↔ ∃ other ∈ passed, other.name = name

/-- Behind a rule its name is seen too. -/
theorem saw_snoc (saw : Saw seen passed) : Saw (rule.name :: seen) (passed ++ [rule]) := by
  intro name
  rw [List.mem_cons, saw name]
  simp only [List.mem_append, List.mem_singleton, or_and_right, exists_or, exists_eq_left]
  rw [or_comm, eq_comm]

/-- A rule that offends stops the compilation. -/
theorem compile_offending (saw : Saw seen passed) {error : RuleSetError}
    (offends : Offends passed rule error) (rest : List RuleDefinition) :
    RuleSet.compileRules seen (rule :: rest) = .error error := by
  cases offends with
  | repeated other member same =>
    rw [RuleSet.compileRules, if_pos ((saw _).mpr ⟨other, member, same⟩)]
  | broken errors fresh broken =>
    have unseen : rule.name ∉ seen := by
      intro inside
      obtain ⟨other, member, same⟩ := (saw _).mp inside
      exact fresh other member same
    rw [RuleSet.compileRules, if_neg unseen, broken]

/-- A rule that does not offend leaves the result to those behind it. -/
theorem compile_passing (saw : Saw seen passed) (innocent : ∀ error, ¬ Offends passed rule error)
    (rest : List RuleDefinition) (error : RuleSetError) :
    RuleSet.compileRules seen (rule :: rest) = .error error ↔
      RuleSet.compileRules (rule.name :: seen) rest = .error error := by
  have unseen : rule.name ∉ seen := by
    intro inside
    obtain ⟨other, member, same⟩ := (saw _).mp inside
    exact innocent _ (.repeated other member same)
  have fresh : ∀ other ∈ passed, other.name ≠ rule.name := fun other member same =>
    unseen ((saw _).mpr ⟨other, member, same⟩)
  rw [RuleSet.compileRules, if_neg unseen]
  cases compiled : Condition.compile rule.condition with
  | error errors => exact absurd (.broken errors fresh compiled) (innocent _)
  | ok condition => exact bind_error_iff _ _ error

/-- Behind rules of which none offends, the compilation stops with the error of the first rule that
does. The induction passes one rule after the other, and the names seen stay those of the rules that
were passed. -/
theorem compile_rules_error (saw : Saw seen passed)
    (innocent : ∀ index error, ¬ OffendsAt passed index error) (rest : List RuleDefinition)
    (error : RuleSetError) :
    RuleSet.compileRules seen rest = .error error ↔
      ∃ index, FirstOffence (passed ++ rest) index error := by
  induction rest generalizing seen passed with
  | nil =>
    rw [RuleSet.compileRules, List.append_nil]
    constructor
    · intro refused
      cases refused
    · rintro ⟨index, first⟩
      exact absurd first.offends (innocent index error)
  | cons rule rest inductionHypothesis =>
    have here : (passed ++ rule :: rest)[passed.length]? = some rule := by simp
    have before : (passed ++ rule :: rest).take passed.length = passed := List.take_left
    have earlier : ∀ index < passed.length, ∀ behind error,
        ¬ OffendsAt (passed ++ behind) index error := by
      intro index inside behind error offends
      have front : passed.take (index + 1) = (passed ++ behind).take (index + 1) :=
        (List.take_append_of_le_length inside).symm
      exact innocent index error ((offends_at_congr front (Nat.le_refl _) error).mpr offends)
    by_cases offending : ∃ failure, Offends passed rule failure
    · obtain ⟨failure, offends⟩ := offending
      have first : FirstOffence (passed ++ rule :: rest) passed.length failure :=
        ⟨⟨rule, here, before.symm ▸ offends⟩, fun index inside => earlier index inside _⟩
      rw [compile_offending saw offends]
      constructor
      · intro same
        exact ⟨passed.length, Except.error.inj same ▸ first⟩
      · rintro ⟨index, other⟩
        rw [first_offence_unique first other]
    · rw [not_exists] at offending
      rw [compile_passing saw offending, List.append_cons]
      refine inductionHypothesis (saw_snoc saw) ?_
      intro index error offends
      obtain below | rfl | above := Nat.lt_trichotomy index passed.length
      · exact earlier index below _ error offends
      · obtain ⟨other, stands, offends⟩ := offends
        obtain rfl : rule = other := by simpa using stands
        rw [List.take_left] at offends
        exact offending error offends
      · obtain ⟨other, stands, -⟩ := offends
        rw [List.getElem?_eq_none (by simpa using Nat.succ_le_of_lt above)] at stands
        cases stands

end Steps

/-- A definition is refused with the error of its first rule that offends. -/
theorem compile_error_exact (definition : RuleSetDefinition) (error : RuleSetError) :
    RuleSet.compile definition = .error error ↔
      ∃ index, FirstOffence definition.rules index error := by
  have nothing : ∀ index error, ¬ OffendsAt [] index error := by
    rintro index error ⟨rule, stands, -⟩
    cases stands
  rw [RuleSet.compile, bind_error_iff]
  exact compile_rules_error (by simp [Saw]) nothing definition.rules error

/-- A rule carries what its definition says, and the parse of the definition's condition. -/
structure Carries (definition : RuleDefinition) (rule : Rule) : Prop where
  name : rule.name = definition.name
  description : rule.description = definition.description
  source : rule.condition.source = definition.condition
  root : Expression.parse definition.condition = .ok rule.condition.root

/-- A definition is compiled exactly if the names of its rules are all different and each of their
conditions is compiled. The rule set has the name of the definition and, in its order, a rule for
each of its own, with the same name and description and with the text and the parse of the
condition. In every other case there is a first rule that has the name of an earlier one or a broken
condition. It decides the error: the repeated name, whether or not the condition is broken as well,
and otherwise all errors of its condition. Any other definition that begins with the same rules, up
to that one, is refused with the same error. -/
theorem compile_decided (definition : RuleSetDefinition) :
    ((∃ set, RuleSet.compile definition = .ok set) ↔
      (definition.rules.map RuleDefinition.name).Nodup ∧
        ∀ rule ∈ definition.rules, ∃ condition,
          Condition.compile rule.condition = .ok condition) ∧
    (∀ set, RuleSet.compile definition = .ok set →
      set.name = definition.name ∧ List.Forall₂ Carries definition.rules set.rules) ∧
    (∀ error, RuleSet.compile definition = .error error ↔
      ∃ index, FirstOffence definition.rules index error) ∧
    ∀ index error, FirstOffence definition.rules index error →
      ∀ other : RuleSetDefinition,
        other.rules.take (index + 1) = definition.rules.take (index + 1) →
          RuleSet.compile other = .error error := by
  refine ⟨exists_compile_iff definition, ?_, compile_error_exact definition, ?_⟩
  · intro set compiled
    obtain ⟨-, named, rules⟩ := (compile_iff definition set).mp compiled
    refine ⟨named, rules.imp fun written rule compiledTo => ?_⟩
    obtain ⟨source, root⟩ := (NormalText.compile_iff _ _).mp compiledTo.condition
    exact ⟨compiledTo.name, compiledTo.description, source, root⟩
  · intro index error first other same
    have agrees {before : Nat} (within : before ≤ index) (failure : RuleSetError) :=
      offends_at_congr same within failure
    refine (compile_error_exact other error).mpr ⟨index, ?_, ?_⟩
    · exact (agrees (Nat.le_refl index) error).mpr first.offends
    · intro before below failure offends
      exact first.first before below failure
        ((agrees (Nat.le_of_lt below) failure).mp offends)

/-- A rule, another of its name with a broken condition, and a third that is broken too. -/
def brokenTwice : List RuleDefinition :=
  [⟨"a", "", "x in [1]"⟩, ⟨"a", "", "x in"⟩, ⟨"b", "", "("⟩]

/-- The second rule offends first, and by its name: that its condition is broken does not count, and
neither does the third rule. -/
theorem compile_broken_twice :
    FirstOffence brokenTwice 1 (.duplicateRule "a") ∧
      (∃ errors, Condition.compile "x in" = .error errors) ∧
      RuleSet.compile ⟨"s", "", brokenTwice⟩ = .error (.duplicateRule "a") ∧
      RuleSet.compile ⟨"t", "all is well", brokenTwice.take 2⟩ = .error (.duplicateRule "a") := by
  have compiles : ∀ errors, Condition.compile "x in [1]" ≠ .error errors := by
    intro errors
    have root : Condition.compile "x in [1]" = .ok ⟨"x in [1]",
        .comparison ⟨⟨"x", 0⟩, .list .among "[1]"⟩⟩ := by decide +kernel
    rw [root]
    simp
  have first : FirstOffence brokenTwice 1 (.duplicateRule "a") := by
    refine ⟨⟨_, rfl, .repeated ⟨"a", "", "x in [1]"⟩ (by simp [brokenTwice]) rfl⟩, ?_⟩
    intro before below other offends
    obtain rfl : before = 0 := by omega
    obtain ⟨rule, stands, offends⟩ := offends
    obtain rfl : _ = rule := Option.some.inj stands
    cases offends with
    | repeated other member => cases member
    | broken errors fresh broken => exact compiles errors broken
  obtain ⟨-, -, refused, alike⟩ := compile_decided ⟨"s", "", brokenTwice⟩
  refine ⟨first, ⟨[⟨.mismatched .endOfText .list, ⟨1, 4⟩⟩], by decide +kernel⟩,
    (refused _).mpr ⟨1, first⟩, alike 1 _ first _ ?_⟩
  exact List.take_take

end RecordRules.Offences
