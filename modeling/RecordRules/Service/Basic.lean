import RecordRules.Rules.Registry
import RecordRules.Service.Payload
import RecordRules.Service.Route

/-!
# The service

The service compiles and evaluates conditions and keeps named rules. It is a function from a
registry and a request to a response and the registry after it. Requests that lead nowhere, or
that no action is known for, are refused before anything else; then a rule's name is decoded and
the body is read, and only then is anything done.
-/

namespace RecordRules.Service

open Text

/-- A request as it reaches the routes, whatever brought it there. The media type is the one that
the request gives for its body.

A body is a text. Bytes that are no text are left out: they are refused by the grammar, unless they
stand behind a mismatch of the shape or in a string that is skipped, and whichever is the case, no
value that is read of a body depends on them. -/
structure Request where
  method : String
  path : String
  mediaType : Option String
  body : String

/-- A response: its status and its document, if it has one. -/
structure Response where
  status : Nat
  body : Option Json

namespace Response

/-- A response without a document. -/
def bare (status : Nat) : Response := ⟨status, none⟩

/-- A response with a document. -/
def document (status : Nat) (body : Json) : Response := ⟨status, some body⟩

end Response

/-- A number in a response. -/
def natural (number : Nat) : Json := .number (.integer number)

/-- The errors of a condition, as responses show them. -/
def syntaxErrorsBody (errors : List SyntaxError) : Json :=
  let one (error : SyntaxError) : Json :=
    .object [("line", natural error.place.line), ("column", natural error.place.column),
      ("message", .string error.message)]
  .object [("valid", .boolean false), ("errors", .list (errors.map one))]

/-- A failed evaluation, as responses show it. -/
def evaluationErrorBody (error : EvaluationError) : Json :=
  .object [("kind", .string error.kind), ("field", .string error.field.name),
    ("column", natural error.field.column), ("message", .string error.message)]

/-- What came of an evaluation, as responses show it. -/
def outcomeBody : Outcome → Json
  | .ok value => .object [("result", .boolean value)]
  | .error error => .object [("error", evaluationErrorBody error)]

/-- The status of a response that shows what came of an evaluation. -/
def outcomeStatus : Outcome → Nat
  | .ok _ => 200
  | .error _ => 422

/-- What came of an evaluation, as a response. -/
def outcomeResponse (outcome : Outcome) : Response :=
  .document (outcomeStatus outcome) (outcomeBody outcome)

/-- Compiles a condition and describes it. -/
def compile (expression : String) : Response :=
  match Condition.compile expression with
  | .ok condition =>
    .document 200 (.object [("valid", .boolean true), ("normalized", .string condition.normalText),
      ("fields", .list (condition.fields.map .string))])
  | .error errors => .document 400 (syntaxErrorsBody errors)

/-- Compiles a condition and evaluates it on a record. -/
def evaluate (expression : String) (record : Record) : Response :=
  match Condition.compile expression with
  | .ok condition => outcomeResponse (condition.evaluate record)
  | .error errors => .document 400 (syntaxErrorsBody errors)

/-- Registers a rule, instead of one of the same name, unless its condition is broken. -/
def putRule (registry : Registry) (name expression : String) : Response × Registry :=
  match registry.compileAndRegister name expression with
  | .ok registry =>
    (.document 200 (.object [("name", .string name), ("expression", .string expression)]), registry)
  | .error errors => (.document 400 (syntaxErrorsBody errors), registry)

/-- Removes a rule. -/
def deleteRule (registry : Registry) (name : String) : Response × Registry :=
  match registry.get? name with
  | some _ => (.bare 204, registry.erase name)
  | none => (.bare 404, registry)

/-- Evaluates one rule on a record. -/
def evaluateRule (registry : Registry) (name : String) (record : Record) : Response :=
  match registry.evaluate name record with
  | .ok value => outcomeResponse (.ok value)
  | .error (.evaluation error) => outcomeResponse (.error error)
  | .error (.unknownRule name) =>
    .document 404 (.object [("error", .string (RegistryError.unknownRule name).message)])

/-- Evaluates every rule on a record. -/
def evaluateRules (registry : Registry) (record : Record) : Response :=
  .document 200 (.object
    ((registry.evaluateAll record).map fun outcome => (outcome.rule, outcomeBody outcome.result)))

/-- Goes on with the decoded name of a rule. -/
def withName (registry : Registry) (name : List Char) (next : String → Response × Registry) :
    Response × Registry :=
  match percentDecode? name with
  | some name => next name
  | none => (.bare 400, registry)

/-- Goes on with the payload of a request. -/
def withPayload (registry : Registry) (request : Request) (shape : Json.Shape Payload α)
    (next : α → Response × Registry) : Response × Registry :=
  match readPayload shape request.mediaType request.body with
  | .ok payload => next payload
  | .error refusal => (.bare refusal.status, registry)

/-- Does what a request asks for. -/
def perform (registry : Registry) (request : Request) : Action → Response × Registry
  | .checkHealth => (.document 200 (.object [("status", .string "ok")]), registry)
  | .compile => withPayload registry request compileShape fun expression =>
      (compile expression, registry)
  | .evaluate => withPayload registry request evaluateShape fun (expression, record) =>
      (evaluate expression record, registry)
  | .listRules => (.document 200 (.list (registry.names.map .string)), registry)
  | .evaluateRules => withPayload registry request recordShape fun record =>
      (evaluateRules registry record, registry)
  | .putRule name => withName registry name fun name =>
      withPayload registry request compileShape fun expression => putRule registry name expression
  | .deleteRule name => withName registry name fun name => deleteRule registry name
  | .evaluateRule name => withName registry name fun name =>
      withPayload registry request recordShape fun record =>
        (evaluateRule registry name record, registry)

/-- Answers a request. A request for options is granted wherever it leads, and the response to a
request for the head of a response has no document. -/
def handle (registry : Registry) (request : Request) : Response × Registry :=
  if request.method = "OPTIONS" then (.bare 200, registry)
  else
    match Route.ofPath? request.path with
    | none => (.bare 404, registry)
    | some route =>
      match route.action? request.method with
      | none => (.bare 405, registry)
      | some action =>
        let (response, registry) := perform registry request action
        if request.method = "HEAD" then (.bare response.status, registry)
        else (response, registry)

/-- The registry after a sequence of requests. -/
def run (registry : Registry) (requests : List Request) : Registry :=
  requests.foldl (fun registry request => (handle registry request).2) registry

end RecordRules.Service
