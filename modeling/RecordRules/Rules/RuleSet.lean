import RecordRules.Condition.Basic
import RecordRules.Rules.Definition

/-!
# Rule sets

A rule set holds the compiled rules of a definition in its order. It is compiled rule by rule, and
the first rule that repeats a name or has a broken condition decides the error; a repeated name is
noticed first. So all names of a rule set are different.
-/

namespace RecordRules

/-- A named condition. -/
structure Rule where
  name : String
  description : String
  condition : Condition
  deriving DecidableEq

/-- Compiled rules in the order of their definition. -/
structure RuleSet where
  name : String
  rules : List Rule
  deriving DecidableEq

/-- Why a definition is no rule set. -/
inductive RuleSetError
  | duplicateRule (name : String)
  | compile (rule : String) (errors : List SyntaxError)
  deriving DecidableEq

/-- The wording of an error. -/
def RuleSetError.message : RuleSetError → String
  | duplicateRule name => "Duplicate rule '" ++ name ++ "'"
  | compile rule errors =>
    "Rule '" ++ rule ++ "' failed to compile: " ++ SyntaxError.summary errors

/-- What comes of one rule on a record. -/
structure RuleOutcome where
  rule : String
  result : Outcome

namespace RuleSet

/-- Compiles rules of which none may have a name that was seen before. -/
def compileRules (seen : List String) : List RuleDefinition → Except RuleSetError (List Rule)
  | [] => .ok []
  | definition :: definitions =>
    if definition.name ∈ seen then .error (.duplicateRule definition.name)
    else
      match Condition.compile definition.condition with
      | .error errors => .error (.compile definition.name errors)
      | .ok condition => do
        let rules ← compileRules (definition.name :: seen) definitions
        return ⟨definition.name, definition.description, condition⟩ :: rules

/-- Compiles a definition. -/
def compile (definition : RuleSetDefinition) : Except RuleSetError RuleSet := do
  return ⟨definition.name, ← compileRules [] definition.rules⟩

/-- The names of the rules, in order. -/
def names (set : RuleSet) : List String := set.rules.map Rule.name

/-- The rule of a name. -/
def get? (set : RuleSet) (name : String) : Option Rule :=
  set.rules.find? fun rule => rule.name == name

/-- Evaluates every rule on a record, in order. -/
def evaluate (set : RuleSet) (record : Record) : List RuleOutcome :=
  set.rules.map fun rule => ⟨rule.name, rule.condition.evaluate record⟩

/-- The names of the rules that hold of a record; rules that fail do not. -/
def matching (set : RuleSet) (record : Record) : List String :=
  (set.evaluate record).filterMap fun outcome =>
    match outcome.result with
    | .ok true => some outcome.rule
    | _ => none

end RuleSet

end RecordRules
