import RecordRules.Condition.Expression
import RecordRules.Number.Shortest

/-!
# Conditions as text

The normal text of a condition has one blank between its words, the parentheses of the tree and
nothing else. Numbers have their shortest text, and a text literal stands between double quotes
as it is, since no literal that was read can hold a quote.
-/

namespace RecordRules

/-- The spelling of an operator. -/
def NumericOperator.spelling : NumericOperator → String
  | greater => ">"
  | less => "<"
  | equal => "=="
  | notEqual => "!="
  | atLeast => ">="
  | atMost => "<="

/-- The spelling of an operator. -/
def TextOperator.spelling : TextOperator → String
  | contains => "=~"
  | excludes => "!~"
  | equal => "=="
  | notEqual => "!="

/-- The spelling of an operator. -/
def ListOperator.spelling : ListOperator → String
  | among => "in"
  | notAmong => "not in"

/-- The spelling of a connective. -/
def Connective.spelling : Connective → String
  | and => "and"
  | or => "or"

/-- An operator and its literal. -/
def Test.chars : Test → List Char
  | numeric operator literal => operator.spelling.toList ++ ' ' :: literal.text
  | text operator literal => operator.spelling.toList ++ ' ' :: '"' :: literal.toList ++ ['"']
  | list operator literal => operator.spelling.toList ++ ' ' :: literal.toList

/-- A field, its operator and its literal. -/
def Comparison.chars (comparison : Comparison) : List Char :=
  comparison.field.name.toList ++ ' ' :: comparison.test.chars

/-- The normal text of a condition, character by character. -/
def Expression.chars : Expression → List Char
  | comparison leaf => leaf.chars
  | joined connective left right =>
    left.chars ++ ' ' :: connective.spelling.toList ++ ' ' :: right.chars
  | grouped inner => '(' :: inner.chars ++ [')']

/-- The normal text of a condition. -/
def Expression.normalText (expression : Expression) : String := String.ofList expression.chars

end RecordRules
