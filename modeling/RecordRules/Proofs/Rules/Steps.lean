import RecordRules.Proofs.Rules.Compilation
import RecordRules.Rules.Transaction

/-!
# Steps of a registry

Each command is carried out in one way for each of its outcomes. What a step can do is said here
once, and so is what loading a rule set does to a name. Only what is done without an error can move
the registry.
-/

namespace RecordRules.Steps

open Registry

/-- What carrying out a command comes to: the reply, and the registry after it. -/
inductive Carried (registry : Registry) : Command → Reply → Registry → Prop
  | registered (name : String) (condition : Condition) :
      Carried registry (.register name condition) .done (registry.insert name condition)
  | compiled (name source : String) (condition : Condition)
      (compiled : Condition.compile source = .ok condition) :
      Carried registry (.compile name source) .done (registry.insert name condition)
  | broken (name source : String) (errors : List SyntaxError)
      (broken : Condition.compile source = .error errors) :
      Carried registry (.compile name source) (.broken errors) registry
  | loaded (format : Notation) (text : String) (definition : RuleSetDefinition) (set : RuleSet)
      (read : RuleSetDefinition.read format text = .ok definition)
      (compiled : RuleSet.compile definition = .ok set) :
      Carried registry (.load format text) .done (registry.load set)
  | unread (format : Notation) (text : String) (error : DefinitionError)
      (unread : RuleSetDefinition.read format text = .error error) :
      Carried registry (.load format text) (.noDefinition error) registry
  | refused (format : Notation) (text : String) (definition : RuleSetDefinition)
      (error : RuleSetError) (read : RuleSetDefinition.read format text = .ok definition)
      (refused : RuleSet.compile definition = .error error) :
      Carried registry (.load format text) (.noRuleSet error) registry
  | removed (name : String) :
      Carried registry (.remove name) (.condition (registry.get? name)) (registry.erase name)
  | got (name : String) : Carried registry (.get name) (.condition (registry.get? name)) registry
  | listed : Carried registry .names (.names (Table.names registry)) registry
  | unknown (name : String) (record : Record) (absent : registry.get? name = none) :
      Carried registry (.evaluate name record) (.outcome (.error (.unknownRule name))) registry
  | evaluated (name : String) (record : Record) (condition : Condition)
      (found : registry.get? name = some condition) :
      Carried registry (.evaluate name record)
        (.outcome ((condition.evaluate record).mapError .evaluation)) registry
  | evaluatedAll (record : Record) :
      Carried registry (.evaluateAll record) (.outcomes (registry.evaluateAll record)) registry

section Steps

variable {registry : Registry}

theorem step_compiled {source : String} {condition : Condition} (name : String)
    (compiled : Condition.compile source = .ok condition) :
    registry.step (.compile name source) = (.done, registry.insert name condition) := by
  rw [step, compileAndRegister, compiled]
  rfl

theorem step_broken {source : String} {errors : List SyntaxError} (name : String)
    (broken : Condition.compile source = .error errors) :
    registry.step (.compile name source) = (.broken errors, registry) := by
  rw [step, compileAndRegister, broken]
  rfl

theorem step_loaded {format : Notation} {text : String} {definition : RuleSetDefinition}
    {set : RuleSet} (read : RuleSetDefinition.read format text = .ok definition)
    (compiled : RuleSet.compile definition = .ok set) :
    registry.step (.load format text) = (.done, registry.load set) := by
  simp only [step, read, compiled]

theorem step_unread {format : Notation} {text : String} {error : DefinitionError}
    (unread : RuleSetDefinition.read format text = .error error) :
    registry.step (.load format text) = (.noDefinition error, registry) := by
  simp only [step, unread]

theorem step_refused {format : Notation} {text : String} {definition : RuleSetDefinition}
    {error : RuleSetError} (read : RuleSetDefinition.read format text = .ok definition)
    (refused : RuleSet.compile definition = .error error) :
    registry.step (.load format text) = (.noRuleSet error, registry) := by
  simp only [step, read, refused]

theorem step_unknown {name : String} (record : Record) (absent : registry.get? name = none) :
    registry.step (.evaluate name record) =
      (.outcome (.error (.unknownRule name)), registry) := by
  simp only [step, evaluate, absent]

theorem step_evaluated {name : String} {condition : Condition} (record : Record)
    (found : registry.get? name = some condition) :
    registry.step (.evaluate name record) =
      (.outcome ((condition.evaluate record).mapError .evaluation), registry) := by
  simp only [step, evaluate, found]

/-- Every command is carried out in one of these ways. -/
theorem step_carried (command : Command) :
    Carried registry command (registry.step command).1 (registry.step command).2 := by
  cases command with
  | register name condition => exact .registered name condition
  | compile name source =>
    cases compiled : Condition.compile source with
    | ok condition =>
      rw [step_compiled name compiled]
      exact .compiled name source condition compiled
    | error errors =>
      rw [step_broken name compiled]
      exact .broken name source errors compiled
  | load format text =>
    cases read : RuleSetDefinition.read format text with
    | error error =>
      rw [step_unread read]
      exact .unread format text error read
    | ok definition =>
      cases compiled : RuleSet.compile definition with
      | ok set =>
        rw [step_loaded read compiled]
        exact .loaded format text definition set read compiled
      | error error =>
        rw [step_refused read compiled]
        exact .refused format text definition error read compiled
  | remove name => exact .removed name
  | get name => exact .got name
  | names => exact .listed
  | evaluate name record =>
    cases found : registry.get? name with
    | none =>
      rw [step_unknown record found]
      exact .unknown name record found
    | some condition =>
      rw [step_evaluated record found]
      exact .evaluated name record condition found
  | evaluateAll record => exact .evaluatedAll record

end Steps

/-- The rules behind the first are loaded as a set of their own. -/
theorem load_cons (registry : Registry) (name : String) (rule : Rule) (rules : List Rule) :
    registry.load ⟨name, rule :: rules⟩ =
      Registry.load (registry.insert rule.name rule.condition) ⟨name, rules⟩ := rfl

/-- Loading rules of other names leaves a name as it was. -/
theorem get?_loaded_other {set : RuleSet} {name : String}
    (others : ∀ rule ∈ set.rules, rule.name ≠ name) (registry : Registry) :
    (registry.load set).get? name = registry.get? name := by
  obtain ⟨title, rules⟩ := set
  induction rules generalizing registry with
  | nil => rfl
  | cons rule rules inductionHypothesis =>
    obtain ⟨other, later⟩ := List.forall_mem_cons.mp others
    rw [load_cons, inductionHypothesis _ later, Table.get?_insert, if_neg other.symm]

/-- Loading rules of different names gives each name its rule. -/
theorem get?_loaded {set : RuleSet} (distinct : set.names.Nodup) {rule : Rule}
    (member : rule ∈ set.rules) (registry : Registry) :
    (registry.load set).get? rule.name = some rule.condition := by
  obtain ⟨title, rules⟩ := set
  induction rules generalizing registry with
  | nil => cases member
  | cons first rules inductionHypothesis =>
    obtain ⟨fresh, later⟩ := List.nodup_cons.mp distinct
    rw [load_cons]
    rcases List.mem_cons.mp member with rfl | behind
    · have others : ∀ other ∈ rules, other.name ≠ rule.name := by
        intro other among same
        exact fresh (List.mem_map.mpr ⟨other, among, same⟩)
      rw [get?_loaded_other others, Table.get?_insert, if_pos rfl]
    · exact inductionHypothesis _ later behind

/-- Whether a reply tells of an error. -/
def isError : Reply → Bool
  | .broken _ => true
  | .noDefinition _ => true
  | .noRuleSet _ => true
  | .outcome (.error _) => true
  | _ => false

/-- Whether a command only reads. -/
def isRead : Command → Bool
  | .get _ => true
  | .names => true
  | .evaluate _ _ => true
  | .evaluateAll _ => true
  | _ => false

/-- A command that fails or only reads leaves the registry as it was. -/
theorem step_unchanged {registry : Registry} {command : Command}
    (idle : isError (registry.step command).1 = true ∨ isRead command = true) :
    (registry.step command).2 = registry := by
  have carried : Carried registry command _ _ := step_carried command
  generalize (registry.step command).1 = reply, (registry.step command).2 = next at carried idle ⊢
  cases carried with
  | registered | compiled | loaded | removed => rcases idle with failed | read <;> contradiction
  | broken | unread | refused | got | listed | unknown | evaluated | evaluatedAll => rfl

end RecordRules.Steps
