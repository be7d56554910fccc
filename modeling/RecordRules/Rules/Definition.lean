import RecordRules.Json.Structure

/-!
# Definitions of rule sets

A rule set is defined by a document: its name, a description, and rules, each of which has a name,
a description and the text of its condition. Nothing is compiled here, so any texts will do.
-/

namespace RecordRules

open Json

/-- A rule as it is written down. -/
structure RuleDefinition where
  name : String
  description : String
  condition : String
  deriving DecidableEq

/-- A rule set as it is written down. -/
structure RuleSetDefinition where
  name : String
  description : String
  rules : List RuleDefinition
  deriving DecidableEq

/-- The fields of a rule that have been read. -/
structure PartialRule where
  name : Option String
  description : Option String
  condition : Option String

/-- The fields of a rule set that have been read. -/
structure PartialRuleSet where
  name : Option String
  description : Option String
  rules : Option (List RuleDefinition)

/-- How a rule is written: its name and its condition, under the key `when`, must be there. -/
def RuleDefinition.shape : Shape PartialRule RuleDefinition where
  name := "RuleDefinition"
  fields :=
    [.make "name" true PartialRule.name (fun rule name => { rule with name := some name })
      (fun _ => readText),
     .make "description" false PartialRule.description
      (fun rule description => { rule with description := some description }) (fun _ => readText),
     .make "when" true PartialRule.condition
      (fun rule condition => { rule with condition := some condition }) (fun _ => readText)]
  start := ⟨none, none, none⟩
  build rule :=
    ⟨rule.name.getD "", rule.description.getD "", rule.condition.getD ""⟩

/-- How a rule set is written: only its name must be there. -/
def RuleSetDefinition.shape : Shape PartialRuleSet RuleSetDefinition where
  name := "RuleSetDefinition"
  fields :=
    [.make "name" true PartialRuleSet.name (fun set name => { set with name := some name })
      (fun _ => readText),
     .make "description" false PartialRuleSet.description
      (fun set description => { set with description := some description }) (fun _ => readText),
     .make "rules" false PartialRuleSet.rules (fun set rules => { set with rules := some rules })
      (readListOf RuleDefinition.shape.read)]
  start := ⟨none, none, none⟩
  build set := ⟨set.name.getD "", set.description.getD "", set.rules.getD []⟩

/-- The definition written by a text in the notation of JSON. -/
def RuleSetDefinition.readJson (text : String) : Except Fault RuleSetDefinition :=
  readDocument (RuleSetDefinition.shape.read maximumNesting) text

end RecordRules
