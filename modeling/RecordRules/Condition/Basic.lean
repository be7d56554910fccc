import RecordRules.Condition.Evaluation
import RecordRules.Condition.Parsing
import RecordRules.Condition.Printing

/-!
# Conditions

A condition is a tree together with the text it came from. It is made by compiling a text, or
from a tree, whose normal text is then its source.
-/

namespace RecordRules

/-- A condition with its source text. -/
structure Condition where
  source : String
  root : Expression
  deriving DecidableEq

namespace Condition

/-- Compiles a text, or tells every error in it. -/
def compile (source : String) : Except (List SyntaxError) Condition :=
  match Expression.parse source with
  | .ok root => .ok ⟨source, root⟩
  | .error errors => .error errors

/-- The condition of a tree. -/
def ofExpression (root : Expression) : Condition := ⟨root.normalText, root⟩

/-- A tree stands for its condition. -/
instance : Coe Expression Condition := ⟨ofExpression⟩

/-- The names of the fields that a condition asks for, in the order of its text. -/
def fields (condition : Condition) : List String := condition.root.fields

/-- The normal text of a condition. -/
def normalText (condition : Condition) : String := condition.root.normalText

/-- Evaluates a condition on a record. -/
def evaluate (condition : Condition) (record : Record) : Outcome :=
  condition.root.evaluate record

end Condition

end RecordRules
