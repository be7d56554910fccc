import RecordRules.Condition.Expression
import RecordRules.Text.Place

/-!
# Words of a condition

A condition is written in words: fields, literals, operators, connectives and parentheses. The
spelling of an operator does not matter once it is a word, so each operator is a kind of its own.
-/

namespace RecordRules

open Number Text

/-- What a word of a condition is. -/
inductive Token.Kind
  | field (name : String)
  | number (value : Binary64)
  | text (content : String)
  | list (literal : String)
  | greater
  | less
  | atLeast
  | atMost
  | equal
  | notEqual
  | contains
  | excludes
  | among
  | notAmong
  | connective (connective : Connective)
  | opening
  | closing
  deriving DecidableEq

/-- A word of a condition as it is written, and where it begins. -/
structure Token where
  kind : Token.Kind
  text : String
  place : Place
  deriving DecidableEq

end RecordRules
