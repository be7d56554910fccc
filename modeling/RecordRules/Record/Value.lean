import RecordRules.Number.Shortest
import RecordRules.Table

/-!
# Values of a record

A record binds field names to values: a boolean, a number, a text, or a flat list of those.
Every comparison sees a value through its canonical text, which this module defines. Numbers have
their shortest positional text, texts stand for themselves, and a list is written with blanks
between its items.
-/

namespace RecordRules

open Number

/-- A value that is not a list. -/
inductive Scalar
  | boolean (value : Bool)
  | number (value : Binary64)
  | text (content : String)
  deriving DecidableEq

/-- A value of a record. -/
inductive Value
  | boolean (value : Bool)
  | number (value : Binary64)
  | text (content : String)
  | list (items : List Scalar)
  deriving DecidableEq

/-- A record: values by field name. -/
abbrev Record := Table Value

/-- The text of a boolean. -/
def booleanText (value : Bool) : List Char := (if value then "true" else "false").toList

/-- The canonical text of a value that is not a list. -/
def Scalar.chars : Scalar → List Char
  | boolean value => booleanText value
  | number value => value.text
  | text content => content.toList

/-- The canonical text of a value. -/
def Value.chars : Value → List Char
  | boolean value => booleanText value
  | number value => value.text
  | text content => content.toList
  | list items => ['['] ++ List.intercalate [' '] (items.map Scalar.chars) ++ [']']

/-- The canonical text of a value that is not a list, as a string. -/
def Scalar.canonical (scalar : Scalar) : String := String.ofList scalar.chars

/-- The canonical text of a value, as a string. -/
def Value.canonical (value : Value) : String := String.ofList value.chars

end RecordRules
