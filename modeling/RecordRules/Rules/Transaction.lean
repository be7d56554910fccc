import RecordRules.Rules.Loading
import RecordRules.Rules.Registry

/-!
# Transactions on a registry

Everything that can be asked of a registry is a command. Carrying out a command gives a reply and
the registry after it, so a sequence of commands is a run of the registry.
-/

namespace RecordRules

namespace Registry

/-- What can be asked of a registry. -/
inductive Command
  | register (name : String) (condition : Condition)
  | compile (name source : String)
  | load (format : Notation) (text : String)
  | get (name : String)
  | remove (name : String)
  | names
  | evaluate (name : String) (record : Record)
  | evaluateAll (record : Record)

/-- What a registry replies. -/
inductive Reply
  | done
  | broken (errors : List SyntaxError)
  | noDefinition (error : DefinitionError)
  | noRuleSet (error : RuleSetError)
  | condition (found : Option Condition)
  | names (names : List String)
  | outcome (result : Except RegistryError Bool)
  | outcomes (results : List RuleOutcome)

/-- Carries out a command. -/
def step (registry : Registry) : Command → Reply × Registry
  | .register name condition => (.done, registry.insert name condition)
  | .compile name source =>
    match registry.compileAndRegister name source with
    | .ok registry => (.done, registry)
    | .error errors => (.broken errors, registry)
  | .load format text =>
    match RuleSetDefinition.read format text with
    | .error error => (.noDefinition error, registry)
    | .ok definition =>
      match RuleSet.compile definition with
      | .error error => (.noRuleSet error, registry)
      | .ok set => (.done, registry.load set)
  | .get name => (.condition (registry.get? name), registry)
  | .remove name => (.condition (registry.get? name), registry.erase name)
  | .names => (.names (Table.names registry), registry)
  | .evaluate name record => (.outcome (registry.evaluate name record), registry)
  | .evaluateAll record => (.outcomes (registry.evaluateAll record), registry)

/-- The registry after a sequence of commands. -/
def run (registry : Registry) (commands : List Command) : Registry :=
  commands.foldl (fun registry command => (registry.step command).2) registry

end Registry

end RecordRules
