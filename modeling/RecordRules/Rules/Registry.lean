import RecordRules.Rules.RuleSet

/-!
# Registries

A registry binds names to conditions. A rule set is loaded by registering its rules in order.
Whatever fails leaves the registry as it was: compiling comes before registering, and reading a
registry does not change it.
-/

namespace RecordRules

/-- Conditions by name. -/
abbrev Registry := Table Condition

/-- Why a registered rule has no value on a record. -/
inductive RegistryError
  | unknownRule (name : String)
  | evaluation (error : EvaluationError)
  deriving DecidableEq

/-- The wording of an error. -/
def RegistryError.message : RegistryError → String
  | unknownRule name => "Rule '" ++ name ++ "' not found"
  | evaluation error => error.message

namespace Registry

/-- Registers what a text compiles to. -/
def compileAndRegister (registry : Registry) (name source : String) :
    Except (List SyntaxError) Registry := do
  return registry.insert name (← Condition.compile source)

/-- Registers every rule of a rule set. -/
def load (registry : Registry) (set : RuleSet) : Registry :=
  set.rules.foldl (fun registry rule => registry.insert rule.name rule.condition) registry

/-- Evaluates a registered rule on a record. -/
def evaluate (registry : Registry) (name : String) (record : Record) :
    Except RegistryError Bool :=
  match registry.get? name with
  | none => .error (.unknownRule name)
  | some condition => (condition.evaluate record).mapError .evaluation

/-- Evaluates every registered rule on a record, in ascending order of the names. -/
def evaluateAll (registry : Registry) (record : Record) : List RuleOutcome :=
  registry.entries.map fun (name, condition) => ⟨name, condition.evaluate record⟩

end Registry

end RecordRules
