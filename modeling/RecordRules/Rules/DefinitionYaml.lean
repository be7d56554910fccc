import RecordRules.Rules.Definition
import RecordRules.Yaml.Node

/-!
# Definitions of rule sets in YAML

In this notation a structure is a mapping only. Every scalar is a text, as it is written, and an
empty plain scalar is an empty list or mapping as well. As in the other notation, keys that name no
field are passed over and no field may be given twice.
-/

namespace RecordRules

open Yaml

namespace Yaml.Node

/-- The text of a scalar. -/
def text? : Node → Option String
  | scalar text _ => some text
  | _ => none

/-- The items of a sequence. -/
def items? : Node → Option (List Node)
  | sequence items => some items
  | scalar "" true => some []
  | _ => none

/-- The entries of a mapping. -/
def entries? : Node → Option (List (Node × Node))
  | mapping entries => some entries
  | scalar "" true => some []
  | _ => none

/-- Takes the value of a field that is not set yet. -/
def setOnce (read : Node → Option α) (field : Option α) (node : Node) : Option (Option α) :=
  match field with
  | some _ => none
  | none => (read node).map some

/-- Gathers the fields of a structure from the entries of a mapping. -/
def gather (set : σ → String → Node → Option σ) (start : σ) (node : Node) : Option σ := do
  (← node.entries?).foldlM (fun gathered entry => do set gathered (← entry.1.text?) entry.2) start

end Yaml.Node

/-- Sets the field of a rule that a key names. -/
def PartialRule.setNode (rule : PartialRule) (key : String) (node : Node) : Option PartialRule :=
  match key with
  | "name" => do return { rule with name := ← Node.setOnce Node.text? rule.name node }
  | "description" => do
    return { rule with description := ← Node.setOnce Node.text? rule.description node }
  | "when" => do return { rule with condition := ← Node.setOnce Node.text? rule.condition node }
  | _ => some rule

/-- The rule that a node is. -/
def RuleDefinition.ofNode? (node : Node) : Option RuleDefinition := do
  let rule ← node.gather PartialRule.setNode ⟨none, none, none⟩
  return ⟨← rule.name, rule.description.getD "", ← rule.condition⟩

/-- Sets the field of a rule set that a key names. -/
def PartialRuleSet.setNode (set : PartialRuleSet) (key : String) (node : Node) :
    Option PartialRuleSet :=
  match key with
  | "name" => do return { set with name := ← Node.setOnce Node.text? set.name node }
  | "description" => do
    return { set with description := ← Node.setOnce Node.text? set.description node }
  | "rules" => do
    let rules (node : Node) : Option (List RuleDefinition) := do
      (← node.items?).mapM RuleDefinition.ofNode?
    return { set with rules := ← Node.setOnce rules set.rules node }
  | _ => some set

/-- The definition that a node is. -/
def RuleSetDefinition.ofNode? (node : Node) : Option RuleSetDefinition := do
  let set ← node.gather PartialRuleSet.setNode ⟨none, none, none⟩
  return ⟨← set.name, set.description.getD "", set.rules.getD []⟩

/-- The definition written by a text in the notation of YAML. -/
def RuleSetDefinition.readYaml? (text : String) : Option RuleSetDefinition := do
  RuleSetDefinition.ofNode? (← Node.ofText? text)

end RecordRules
