import RecordRules.Number.Binary64

/-!
# Conditions as trees

A condition compares fields of a record with literals and joins the comparisons by `and` and
`or`, which share one level of precedence, and by parentheses. The tree keeps the parentheses
as written, so a condition is read and written without loss.

A list literal stays the text it is. Only evaluation looks into it, so a malformed list is an
error of evaluation and not of the syntax.
-/

namespace RecordRules

open Number

/-- A field that a condition asks for, with the column that it is written at. -/
structure FieldReference where
  name : String
  column : Nat
  deriving DecidableEq

/-- Comparisons with a number. -/
inductive NumericOperator
  | greater
  | less
  | equal
  | notEqual
  | atLeast
  | atMost
  deriving DecidableEq

/-- Comparisons with a text. -/
inductive TextOperator
  | contains
  | excludes
  | equal
  | notEqual
  deriving DecidableEq

/-- Comparisons with a list. -/
inductive ListOperator
  | among
  | notAmong
  deriving DecidableEq

/-- What a field is compared with, and how. -/
inductive Test
  | numeric (operator : NumericOperator) (literal : Binary64)
  | text (operator : TextOperator) (literal : String)
  | list (operator : ListOperator) (literal : String)
  deriving DecidableEq

/-- A comparison of one field. -/
structure Comparison where
  field : FieldReference
  test : Test
  deriving DecidableEq

/-- What joins two conditions. -/
inductive Connective
  | and
  | or
  deriving DecidableEq

/-- A condition. -/
inductive Expression
  | comparison (comparison : Comparison)
  | joined (connective : Connective) (left right : Expression)
  | grouped (inner : Expression)
  deriving DecidableEq

namespace Expression

/-- The comparisons of a condition, from left to right. -/
def comparisons : Expression → List Comparison
  | comparison leaf => [leaf]
  | joined _ left right => left.comparisons ++ right.comparisons
  | grouped inner => inner.comparisons

/-- The names of the fields that a condition asks for, from left to right, repetitions kept. -/
def fields (expression : Expression) : List String :=
  expression.comparisons.map fun leaf => leaf.field.name

/-- How deep a condition is: a comparison counts one, and so does every pair of parentheses and
every connective above what it joins. -/
def depth : Expression → Nat
  | comparison _ => 1
  | joined _ left right => max left.depth right.depth + 1
  | grouped inner => inner.depth + 1

end Expression

/-- The deepest condition that can be written. -/
def maximumDepth : Nat := 128

end RecordRules
