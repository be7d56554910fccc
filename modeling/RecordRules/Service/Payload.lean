import RecordRules.Condition.Basic
import RecordRules.Service.MediaType

/-!
# Bodies of requests

A body is the document of a structure: a condition, a condition with a record, or a record. A
record that is left out is empty. A body is refused by its media type, then by its size, then by its
grammar, then by its shape.
-/

namespace RecordRules.Service

open Json

/-- What is read of a body. -/
structure Payload where
  expression : Option String
  record : Option Record

/-- The field that holds the text of a condition. -/
def expressionField : NamedField Payload :=
  .make "expression" true Payload.expression
    (fun payload expression => { payload with expression := some expression }) (fun _ => readText)

/-- The field that holds a record. -/
def recordField : NamedField Payload :=
  .make "record" false Payload.record (fun payload record => { payload with record := some record })
    readRecord

/-- A body that asks for a condition to be compiled. -/
def compileShape : Shape Payload String where
  name := "CompileRequest"
  fields := [expressionField]
  start := ⟨none, none⟩
  build payload := payload.expression.getD ""

/-- A body that asks for a condition to be evaluated. -/
def evaluateShape : Shape Payload (String × Record) where
  name := "EvaluateRequest"
  fields := [expressionField, recordField]
  start := ⟨none, none⟩
  build payload := (payload.expression.getD "", payload.record.getD .empty)

/-- A body that asks for rules to be evaluated. -/
def recordShape : Shape Payload Record where
  name := "RecordRequest"
  fields := [recordField]
  start := ⟨none, none⟩
  build payload := payload.record.getD .empty

/-- Why a request has no payload. -/
inductive Refusal
  | mediaType
  | tooLarge
  | grammar
  | shape
  deriving DecidableEq

/-- The status that a refusal is answered with. -/
def Refusal.status : Refusal → Nat
  | mediaType => 415
  | tooLarge => 413
  | grammar => 400
  | shape => 422

/-- The most bytes that a body may have. -/
def bodyLimit : Nat := 2097152

/-- Reads a body of this media type as a structure. -/
def readPayload (shape : Shape Payload α) (mediaType : Option String) (body : String) :
    Except Refusal α :=
  if !mediaType.any isJsonType then .error .mediaType
  else if bodyLimit < body.utf8ByteSize then .error .tooLarge
  else
    match readDocument (shape.read maximumNesting) body with
    | .ok value => .ok value
    | .error fault =>
      match fault.cause with
      | .grammar _ => .error .grammar
      | .shape _ => .error .shape

end RecordRules.Service
