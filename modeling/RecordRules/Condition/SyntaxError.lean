import RecordRules.Number.Reading
import RecordRules.Text.Place

/-!
# Errors in the writing of a condition

Each error has a cause and a place. A cause says what stands at the place, the end of the text
included, and what may stand there instead.
-/

namespace RecordRules

open Number Text

/-- What stands at the place of an error: a word, or the end of the text. -/
inductive Found
  | word (text : String)
  | endOfText
  deriving DecidableEq

/-- What stands at the place of an error, as messages show it. -/
def Found.message : Found → String
  | word text => text
  | endOfText => "<EOF>"

/-- What may stand at a place. -/
inductive Expected
  | operand
  | operator
  | number
  | text
  | numberOrText
  | list
  deriving DecidableEq

/-- What may stand at a place, as messages show it. -/
def Expected.message : Expected → String
  | operand => "\x7b'(', FIELD\x7d"
  | operator => "\x7b'>', '<', '>=', '<=', '==', '!=', '=~', '!~', IN, NOT IN\x7d"
  | number => "NUMBER"
  | text => "STRING"
  | numberOrText => "\x7bNUMBER, STRING\x7d"
  | list => "ARRAY"

/-- Why a text is not a condition. -/
inductive SyntaxError.Cause
  | unrecognized (text : String)
  | unterminatedList
  | invalidNumber (text : String) (fault : NumberFault)
  | mismatched (found : Found) (expected : Expected)
  | missingClosing (found : Found)
  | extraneous (found : Found)
  | nestedTooDeeply
  deriving DecidableEq

/-- The wording of a cause. -/
def SyntaxError.Cause.message : SyntaxError.Cause → String
  | unrecognized text => "token recognition error at: '" ++ text ++ "'"
  | unterminatedList => "unterminated array literal"
  | invalidNumber text fault => "invalid number '" ++ text ++ "': " ++ fault.message
  | mismatched found expected =>
    "mismatched input '" ++ found.message ++ "' expecting " ++ expected.message
  | missingClosing found => "missing ')' at '" ++ found.message ++ "'"
  | extraneous found => "extraneous input '" ++ found.message ++ "' expecting <EOF>"
  | nestedTooDeeply => "expression nested too deeply"

/-- An error in the writing of a condition. -/
structure SyntaxError where
  cause : SyntaxError.Cause
  place : Place
  deriving DecidableEq

namespace SyntaxError

/-- The wording of an error, without its place. -/
def message (error : SyntaxError) : String := error.cause.message

/-- The wording of an error with its place. -/
def text (error : SyntaxError) : String :=
  "line " ++ toString error.place.line ++ ":" ++ toString error.place.column ++ " " ++
    error.message

/-- Errors in the order of their places; errors of one place stay in the order given. -/
def inOrder (errors : List SyntaxError) : List SyntaxError :=
  errors.mergeSort fun left right => left.place.atMost right.place

/-- The wording of all errors of one text. -/
def summary (errors : List SyntaxError) : String :=
  "syntax error: " ++ String.intercalate "; " (errors.map text)

end SyntaxError

end RecordRules
