import RecordRules.Files.Tree
import RecordRules.Rules.DefinitionYaml
import RecordRules.Rules.RuleSet

/-!
# Loading of rule sets

A rule file is read as JSON if its extension says so, and as YAML otherwise. A definition that is
read need not compile, so there are two steps with errors of their own.
-/

namespace RecordRules

/-- A notation for definitions. -/
inductive Notation
  | json
  | yaml
  deriving DecidableEq

/-- The notation of a file. -/
def Notation.ofPath (path : String) : Notation :=
  if Path.extension? path = some "json" then json else yaml

/-- Why there is no definition. -/
inductive DefinitionError
  | file (fault : FileFault)
  | json (fault : Json.Fault)
  | yaml
  deriving DecidableEq

/-- The wording of an error. -/
def DefinitionError.message : DefinitionError → String
  | file fault => fault.message
  | json fault => fault.message
  | yaml => "malformed rule set"

example : Notation.ofPath ".json" = .yaml ∧ Notation.ofPath "a.b/r.json" = .json := by
  decide +kernel

namespace RuleSetDefinition

/-- The definition written by a text. -/
def read (format : Notation) (text : String) : Except DefinitionError RuleSetDefinition :=
  match format with
  | .json => (readJson text).mapError .json
  | .yaml =>
    match readYaml? text with
    | some definition => .ok definition
    | none => .error .yaml

/-- The definition in a file. -/
def load (files : Files) (path : String) : Except DefinitionError RuleSetDefinition :=
  match Files.readText files path with
  | .ok text => read (.ofPath path) text
  | .error fault => .error (.file fault)

end RuleSetDefinition

end RecordRules
