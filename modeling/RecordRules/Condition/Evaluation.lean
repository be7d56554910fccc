import RecordRules.Condition.Expression
import RecordRules.Number.Reading
import RecordRules.Record.Decoding

/-!
# Evaluation of conditions

A condition is true or false of a record, or it fails. Comparisons see the value of a field only
through its canonical text: a number is read from that text, and a list holds the value if the
text of one of its items is the same.

Every comparison of a condition is evaluated, and the leftmost failure is the failure of the
whole, so no connective hides a failure behind it. A chain of connectives is walked down its left
side with the operands on the right already evaluated, which takes no more room for a longer
chain.
-/

namespace RecordRules

open Number

/-- Why the literal or the value of a comparison cannot be read. -/
inductive LiteralFault
  | number (fault : NumberFault)
  | list (fault : Json.Fault)
  deriving DecidableEq

/-- The wording of a fault. -/
def LiteralFault.message : LiteralFault → String
  | number fault => fault.message
  | list fault => fault.message

/-- Why a condition has no value on a record. -/
inductive EvaluationError
  | fieldNotFound (field : FieldReference)
  | literalParse (field : FieldReference) (cause : LiteralFault)
  deriving DecidableEq

namespace EvaluationError

/-- The field whose comparison failed. -/
def field : EvaluationError → FieldReference
  | fieldNotFound field => field
  | literalParse field _ => field

/-- What made it fail, if there is more to say than that the field is missing. -/
def cause? : EvaluationError → Option LiteralFault
  | fieldNotFound _ => none
  | literalParse _ cause => some cause

/-- The name of the kind of failure. -/
def kind : EvaluationError → String
  | fieldNotFound _ => "field_not_found"
  | literalParse _ _ => "literal_parse"

/-- The wording of a failure. -/
def message : EvaluationError → String
  | fieldNotFound field =>
    "column " ++ toString field.column ++ ": field '" ++ field.name ++ "' does not exist"
  | literalParse field cause => "parse data error: " ++ field.name ++ ": " ++ cause.message

end EvaluationError

/-- What comes of a condition on a record. -/
abbrev Outcome := Except EvaluationError Bool

/-- The value of a field, which must be there. -/
def FieldReference.lookup (field : FieldReference) (record : Record) :
    Except EvaluationError Value :=
  match record.get? field.name with
  | some value => .ok value
  | none => .error (.fieldNotFound field)

/-- Whether two numbers compare as an operator says. -/
def NumericOperator.holds (operator : NumericOperator) (left right : Binary64) : Bool :=
  match operator with
  | greater => right.below left
  | less => left.below right
  | equal => left.equals right
  | notEqual => !left.equals right
  | atLeast => right.atMost left
  | atMost => left.atMost right

/-- Whether some characters in a row occur in a text. -/
def occursIn (sought : List Char) : List Char → Bool
  | [] => sought.isEmpty
  | char :: rest => sought.isPrefixOf (char :: rest) || occursIn sought rest

/-- Whether a text compares with a literal as an operator says. -/
def TextOperator.holds (operator : TextOperator) (text literal : List Char) : Bool :=
  match operator with
  | contains => occursIn literal text
  | excludes => !occursIn literal text
  | equal => decide (text = literal)
  | notEqual => !decide (text = literal)

/-- Whether membership is as an operator says. -/
def ListOperator.holds (operator : ListOperator) (found : Bool) : Bool :=
  match operator with
  | among => found
  | notAmong => !found

/-- Evaluates a comparison. A membership test of a missing field is false, whichever way it is
asked; any other comparison of a missing field fails. -/
def Comparison.evaluate (comparison : Comparison) (record : Record) : Outcome :=
  match comparison.test with
  | .numeric operator literal => do
    let value ← comparison.field.lookup record
    match Binary64.read value.chars with
    | .ok number => .ok (operator.holds number literal)
    | .error fault => .error (.literalParse comparison.field (.number fault))
  | .text operator literal => do
    let value ← comparison.field.lookup record
    .ok (operator.holds value.chars literal.toList)
  | .list operator literal =>
    match record.get? comparison.field.name with
    | none => .ok false
    | some value =>
      match Scalar.readList literal with
      | .ok items =>
        .ok (operator.holds (items.any fun item => decide (item.chars = value.chars)))
      | .error fault => .error (.literalParse comparison.field (.list fault))

/-- What a connective makes of two values. -/
def Connective.apply : Connective → Bool → Bool → Bool
  | and => Bool.and
  | or => Bool.or

namespace Expression

/-- The value of a chain: its first operand, and each connective with the operand behind it. The
leftmost failure wins. -/
def settle (first : Outcome) (links : List (Connective × Outcome)) : Outcome := do
  links.foldlM (fun value link => return link.1.apply value (← link.2)) (← first)

/-- Evaluates a condition to which connectives and evaluated operands are joined on the right. -/
def walk (record : Record) : Expression → List (Connective × Outcome) → Outcome
  | comparison leaf, links => settle (leaf.evaluate record) links
  | grouped inner, links => settle (walk record inner []) links
  | joined connective left right, links =>
    walk record left ((connective, walk record right []) :: links)

/-- Evaluates a condition on a record. -/
def evaluate (expression : Expression) (record : Record) : Outcome := walk record expression []

end Expression

end RecordRules
