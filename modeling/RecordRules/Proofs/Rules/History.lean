import Mathlib.Data.List.Induction
import RecordRules.Proofs.Rules.Steps
import RecordRules.Proofs.Text.Utf8

/-!
# Histories of a registry

A registry is no more than what was written into it: a name has the condition that was written last
under it, unless the name was removed since. A command writes all of its rules or none. It fails for
the reasons given here only, and then the registry is as it was, as it is when it is only read.
-/

namespace RecordRules.History

open Registry Text Compilation Steps

/-- A command writes a condition under a name: it registers it, or a text that is compiled to it, or
loads a rule set that has it as the rule of the name. -/
inductive Writes (name : String) (condition : Condition) : Command → Prop
  | register : Writes name condition (.register name condition)
  | compile (source : String) (compiled : Condition.compile source = .ok condition) :
      Writes name condition (.compile name source)
  | load (format : Notation) (text : String) (definition : RuleSetDefinition) (set : RuleSet)
      (rule : Rule) (read : RuleSetDefinition.read format text = .ok definition)
      (compiled : RuleSet.compile definition = .ok set) (member : rule ∈ set.rules)
      (named : rule.name = name) (same : rule.condition = condition) :
      Writes name condition (.load format text)

/-- A condition stands under a name behind some commands: the last command that wrote under the name
wrote this condition, and the name was not removed since. -/
def Stands (name : String) (condition : Condition) (commands : List Command) : Prop :=
  ∃ earlier command later, commands = earlier ++ command :: later ∧
    Writes name condition command ∧
    (∀ other ∈ later, ∀ written, ¬ Writes name written other) ∧ .remove name ∉ later

/-- The registry behind some commands, of which the first is carried out on an empty one. -/
def registryAfter (commands : List Command) : Registry := Registry.run .empty commands

/-- The reply to a command behind others. -/
def replyAfter (commands : List Command) (command : Command) : Reply :=
  ((registryAfter commands).step command).1

/-- Why a command fails behind others: a text is not compiled or is no definition, a definition has
a name twice or a rule that is not compiled, a name has no condition, or its condition fails on the
record. -/
inductive Fails (commands : List Command) : Command → Prop
  | source (name source : String) (errors : List SyntaxError)
      (broken : Condition.compile source = .error errors) : Fails commands (.compile name source)
  | document (format : Notation) (text : String) (error : DefinitionError)
      (unread : RuleSetDefinition.read format text = .error error) :
      Fails commands (.load format text)
  | repeated (format : Notation) (text : String) (definition : RuleSetDefinition)
      (read : RuleSetDefinition.read format text = .ok definition)
      (twice : ¬ (definition.rules.map RuleDefinition.name).Nodup) :
      Fails commands (.load format text)
  | rule (format : Notation) (text : String) (definition : RuleSetDefinition)
      (rule : RuleDefinition) (errors : List SyntaxError)
      (read : RuleSetDefinition.read format text = .ok definition)
      (member : rule ∈ definition.rules)
      (broken : Condition.compile rule.condition = .error errors) :
      Fails commands (.load format text)
  | unknown (name : String) (record : Record)
      (absent : ∀ condition, ¬ Stands name condition commands) :
      Fails commands (.evaluate name record)
  | evaluation (name : String) (record : Record) (condition : Condition)
      (failure : EvaluationError) (stands : Stands name condition commands)
      (failed : condition.evaluate record = .error failure) :
      Fails commands (.evaluate name record)

/-- A name has the condition just written under it. -/
theorem get?_step_written {name : String} {condition : Condition} {command : Command}
    (writes : Writes name condition command) (registry : Registry) :
    (registry.step command).2.get? name = some condition := by
  cases writes with
  | register => rw [step, Table.get?_insert, if_pos rfl]
  | compile source compiled => rw [step_compiled name compiled, Table.get?_insert, if_pos rfl]
  | load format text definition set rule read compiled member named same =>
    rw [step_loaded read compiled, ← named, ← same]
    exact get?_loaded (distinct_of_compile compiled) member registry

/-- A name that is neither written nor removed has what it had. -/
theorem get?_step_other {name : String} {command : Command}
    (unwritten : ∀ condition, ¬ Writes name condition command) (kept : command ≠ .remove name)
    (registry : Registry) : (registry.step command).2.get? name = registry.get? name := by
  have carried : Carried registry command _ _ := step_carried command
  generalize (registry.step command).1 = reply, (registry.step command).2 = next at carried ⊢
  cases carried with
  | registered other condition =>
    rw [Table.get?_insert, if_neg]
    rintro rfl
    exact unwritten condition .register
  | compiled other source condition compiled =>
    rw [Table.get?_insert, if_neg]
    rintro rfl
    exact unwritten condition (.compile source compiled)
  | loaded format text definition set read compiled =>
    refine get?_loaded_other ?_ registry
    intro rule member named
    exact unwritten rule.condition
      (.load format text definition set rule read compiled member named rfl)
  | removed other =>
    rw [Table.get?_erase, if_neg]
    rintro rfl
    exact kept rfl
  | broken | unread | refused | got | listed | unknown | evaluated | evaluatedAll => rfl

/-- A condition stands behind one more command if this one writes it, or if it stood before and the
command neither writes under the name nor removes it. -/
theorem stands_snoc (name : String) (condition : Condition) (commands : List Command)
    (command : Command) :
    Stands name condition (commands ++ [command]) ↔
      Writes name condition command ∨ Stands name condition commands ∧
        (∀ written, ¬ Writes name written command) ∧ command ≠ .remove name := by
  constructor
  · rintro ⟨earlier, last, later, parts, writes, unwritten, kept⟩
    rcases List.eq_nil_or_concat' later with rfl | ⟨between, final, rfl⟩
    · obtain ⟨rfl, same⟩ := List.append_inj' parts rfl
      obtain rfl := List.singleton_inj.mp same
      exact .inl writes
    · rw [← List.cons_append, ← List.append_assoc] at parts
      obtain ⟨rfl, same⟩ := List.append_inj' parts rfl
      obtain rfl := List.singleton_inj.mp same
      simp only [List.mem_append, List.mem_singleton, not_or] at unwritten kept
      exact .inr ⟨⟨earlier, last, between, rfl, writes,
        fun other member => unwritten other (.inl member), kept.1⟩,
        unwritten command (.inr rfl), Ne.symm kept.2⟩
  · rintro (writes | ⟨⟨earlier, last, later, rfl, writes, unwritten, kept⟩, other, remains⟩)
    · exact ⟨commands, command, [], rfl, writes, by simp, by simp⟩
    · refine ⟨earlier, last, later ++ [command], by simp, writes, ?_, ?_⟩
      · intro next member
        rcases List.mem_append.mp member with before | final
        · exact unwritten next before
        · exact List.mem_singleton.mp final ▸ other
      · simp [kept, Ne.symm remains]

/-- One more command is carried out on the registry behind the others. -/
theorem registry_after_snoc (commands : List Command) (command : Command) :
    registryAfter (commands ++ [command]) = ((registryAfter commands).step command).2 := by
  simp [registryAfter, run]

/-- A name has the condition that stands under it, and none if none does. -/
theorem get?_registry_after (commands : List Command) (name : String) (condition : Condition) :
    (registryAfter commands).get? name = some condition ↔ Stands name condition commands := by
  induction commands using List.reverseRecOn generalizing condition with
  | nil => simp [registryAfter, run, Stands]
  | append_singleton commands command inductionHypothesis =>
    rw [registry_after_snoc, stands_snoc]
    by_cases written : ∃ written, Writes name written command
    · obtain ⟨last, writes⟩ := written
      rw [get?_step_written writes]
      constructor
      · intro same
        obtain rfl := Option.some.inj same
        exact .inl writes
      · rintro (again | ⟨-, unwritten, -⟩)
        · rw [← get?_step_written writes (registryAfter commands), get?_step_written again]
        · exact absurd writes (unwritten last)
    · have unwritten : ∀ condition, ¬ Writes name condition command := not_exists.mp written
      by_cases removed : command = .remove name
      · subst removed
        simp [step, Table.get?_erase, unwritten]
      · rw [get?_step_other unwritten removed, inductionHypothesis]
        simp [unwritten, removed]

/-- A name has no condition exactly if none stands under it. -/
theorem get?_registry_after_none (commands : List Command) (name : String) :
    (registryAfter commands).get? name = none ↔
      ∀ condition, ¬ Stands name condition commands := by
  rw [Option.eq_none_iff_forall_ne_some]
  simp only [ne_eq, get?_registry_after]

/-- A command fails for the reasons given and for no other. -/
theorem error_iff_fails (commands : List Command) (command : Command) :
    isError (replyAfter commands command) = true ↔ Fails commands command := by
  rw [replyAfter]
  constructor
  · intro failed
    have carried : Carried (registryAfter commands) command _ _ := step_carried command
    generalize ((registryAfter commands).step command).1 = reply,
      ((registryAfter commands).step command).2 = next at carried failed
    cases carried with
    | broken name source errors broken => exact .source name source errors broken
    | unread format text error unread => exact .document format text error unread
    | refused format text definition error read refused =>
      rcases (compile_error_iff definition).mp ⟨error, refused⟩ with
        twice | ⟨rule, member, errors, broken⟩
      · exact .repeated format text definition read twice
      · exact .rule format text definition rule errors read member broken
    | unknown name record absent =>
      exact .unknown name record ((get?_registry_after_none commands name).mp absent)
    | evaluated name record condition found =>
      have stands := (get?_registry_after commands name condition).mp found
      cases outcome : condition.evaluate record with
      | error failure => exact .evaluation name record condition failure stands outcome
      | ok value =>
        rw [outcome] at failed
        cases failed
    | registered | compiled | loaded | removed | got | listed | evaluatedAll => cases failed
  · intro fails
    cases fails with
    | source name source errors broken =>
      rw [step_broken name broken]
      rfl
    | document format text error unread =>
      rw [step_unread unread]
      rfl
    | repeated format text definition read twice =>
      obtain ⟨error, refused⟩ := (compile_error_iff definition).mpr (.inl twice)
      rw [step_refused read refused]
      rfl
    | rule format text definition rule errors read member broken =>
      obtain ⟨error, refused⟩ :=
        (compile_error_iff definition).mpr (.inr ⟨rule, member, errors, broken⟩)
      rw [step_refused read refused]
      rfl
    | unknown name record absent =>
      rw [step_unknown record ((get?_registry_after_none commands name).mpr absent)]
      rfl
    | evaluation name record condition failure stands failed =>
      rw [step_evaluated record ((get?_registry_after commands name condition).mpr stands), failed]
      rfl

/-- Behind any commands, the replies to getting a name and to removing it are the condition that
stands under it, the names are those of the conditions that stand, in ascending order of their
bytes, and a command that fails, for one of the reasons given, or only reads leaves the registry as
it was. -/
theorem run_exact (commands : List Command) :
    (∀ name, ∃ found, replyAfter commands (.get name) = .condition found ∧
      replyAfter commands (.remove name) = .condition found ∧
      ∀ condition, found = some condition ↔ Stands name condition commands) ∧
    (∃ names, replyAfter commands .names = .names names ∧
      (names.Pairwise fun left right => Utf8.bytes left < Utf8.bytes right) ∧
      ∀ name, name ∈ names ↔ replyAfter commands (.get name) ≠ .condition none) ∧
    (∀ command, isError (replyAfter commands command) = true ↔ Fails commands command) ∧
    ∀ command, Fails commands command ∨ isRead command = true →
      registryAfter (commands ++ [command]) = registryAfter commands := by
  refine ⟨?_, ?_, error_iff_fails commands, ?_⟩
  · intro name
    exact ⟨(registryAfter commands).get? name, rfl, rfl, get?_registry_after commands name⟩
  · refine ⟨(registryAfter commands).names, rfl, ?_, ?_⟩
    · exact (Table.pairwise_names _).imp Utf8.bytes_lt
    · intro name
      rw [Table.mem_names_iff, Option.isSome_iff_ne_none]
      exact not_congr ⟨congrArg Reply.condition, Reply.condition.inj⟩
  · intro command idle
    rw [registry_after_snoc]
    rw [← error_iff_fails] at idle
    exact step_unchanged idle

-- Loading replaces a rule, but a set that has its name twice changes nothing.
example :
    let rules := "name: s\nrules:\n- name: a\n  when: x in []\n- name: "
    let commands : List Command :=
      [.compile "a" "x > 1", .load .yaml (rules ++ "b\n  when: y in []\n"), .remove "b",
        .load .yaml (rules ++ "a\n  when: z in []\n")]
    (registryAfter commands).names = ["a"] ∧
      ((registryAfter commands).get? "a").map Condition.source = some "x in []" := by
  decide +kernel

end RecordRules.History
