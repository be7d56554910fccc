import RecordRules.Number.Notation
import RecordRules.Text.Quoted

/-!
# Faults of a document

A document is refused for one of two reasons. It breaches the grammar, or it is well formed and
mismatches the shape that its reader asked for. Either reason comes with a location if the
document is a text: the line and the number of bytes before the fault in that line.
-/

namespace RecordRules.Json

open Number Text

/-- The ways in which a text is not a document. -/
inductive Breach
  | endInValue
  | endInList
  | endInObject
  | endInString
  | expectedValue
  | expectedWord
  | expectedColon
  | expectedListEnd
  | expectedObjectEnd
  | trailingComma
  | keyNotString
  | trailingCharacters
  | invalidNumber
  | numberOutOfRange
  | invalidEscape
  | unexpectedEndOfEscape
  | loneSurrogate
  | controlCharacter
  | nestedTooDeeply
  deriving DecidableEq

/-- The wording of a breach. -/
def Breach.message : Breach → String
  | endInValue => "EOF while parsing a value"
  | endInList => "EOF while parsing a list"
  | endInObject => "EOF while parsing an object"
  | endInString => "EOF while parsing a string"
  | expectedValue => "expected value"
  | expectedWord => "expected ident"
  | expectedColon => "expected `:`"
  | expectedListEnd => "expected `,` or `]`"
  | expectedObjectEnd => "expected `,` or `\x7d`"
  | trailingComma => "trailing comma"
  | keyNotString => "key must be a string"
  | trailingCharacters => "trailing characters"
  | invalidNumber => "invalid number"
  | numberOutOfRange => "number out of range"
  | invalidEscape => "invalid escape"
  | unexpectedEndOfEscape => "unexpected end of hex escape"
  | loneSurrogate => "lone leading surrogate in hex escape"
  | controlCharacter => "control character (\\u0000-\\u001F) found while parsing a string"
  | nestedTooDeeply => "recursion limit exceeded"

/-- What stands in a document where something of another kind is required. -/
inductive Unexpected
  | null
  | boolean (value : Bool)
  | integer (value : Int)
  | floating (value : Binary64)
  | string (content : String)
  | list
  | object
  deriving DecidableEq

/-- The wording of what was found. -/
def Unexpected.message : Unexpected → String
  | null => "null"
  | boolean value => "boolean `" ++ toString value ++ "`"
  | integer value => "integer `" ++ toString value ++ "`"
  | floating value => "floating point `" ++ String.ofList value.markedText ++ "`"
  | string content => "string " ++ quoted content
  | list => "sequence"
  | object => "map"

/-- The ways in which a document does not have the shape its reader asks for. -/
inductive Mismatch
  | missingField (name : String)
  | duplicateField (name : String)
  | invalidType (found : Unexpected) (expected : String)
  | invalidLength (length : Nat) (expected : String)
  | noVariant (type : String)
  deriving DecidableEq

/-- The wording of a mismatch. -/
def Mismatch.message : Mismatch → String
  | missingField name => "missing field `" ++ name ++ "`"
  | duplicateField name => "duplicate field `" ++ name ++ "`"
  | invalidType found expected => "invalid type: " ++ found.message ++ ", expected " ++ expected
  | invalidLength length expected =>
    "invalid length " ++ toString length ++ ", expected " ++ expected
  | noVariant type => "data did not match any variant of untagged enum " ++ type

/-- Why a document is refused. -/
inductive Cause
  | grammar (breach : Breach)
  | shape (mismatch : Mismatch)
  deriving DecidableEq

/-- The wording of a cause, without its location. -/
def Cause.message : Cause → String
  | grammar breach => breach.message
  | shape mismatch => mismatch.message

/-- A line, counted from one, and the bytes of it that come before something. -/
structure Location where
  line : Nat
  column : Nat
  deriving DecidableEq

/-- The location behind some bytes of a text. -/
def Location.afterBytes (bytes : List UInt8) : Location :=
  bytes.foldl
    (fun location byte =>
      if byte = 10 then ⟨location.line + 1, 0⟩ else ⟨location.line, location.column + 1⟩)
    ⟨1, 0⟩

/-- A refusal, located if the document is a text. -/
structure Fault where
  cause : Cause
  location : Option Location
  deriving DecidableEq

/-- The wording of a refusal. -/
def Fault.message (fault : Fault) : String :=
  match fault.location with
  | none => fault.cause.message
  | some location =>
    fault.cause.message ++ " at line " ++ toString location.line ++
      " column " ++ toString location.column

end RecordRules.Json
