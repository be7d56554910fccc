import Mathlib.Control.Monad.Basic
import RecordRules.Service.Basic

/-!
# What requests ask for

A request either asks for one thing or is refused with a bare status, and which of the two is the
case never depends on the registry. To ask for something, its path must lead to a route, its method
must be known there, the name of a rule in its path must be a text, and its body must be read. Only
then is the registry looked at, so a refused request cannot move it.
-/

namespace RecordRules.Demands

open Text Json Service

/-- What can be asked of the service, with names decoded and bodies read. -/
inductive Demand
  | checkHealth
  | compile (expression : String)
  | evaluate (expression : String) (record : Record)
  | listRules
  | evaluateRules (record : Record)
  | putRule (name expression : String)
  | deleteRule (name : String)
  | evaluateRule (name : String) (record : Record)

/-- The body of a request is read as this value. -/
def Carries (request : Request) (shape : Shape Payload α) (value : α) : Prop :=
  readPayload shape request.mediaType request.body = .ok value

instance [DecidableEq α] (request : Request) (shape : Shape Payload α) (value : α) :
    Decidable (Carries request shape value) := inferInstanceAs (Decidable (_ = _))

/-- The body of a request is a document of this value, however long it is. -/
structure Holds (request : Request) (shape : Shape Payload α) (value : α) : Prop where
  mediaType : request.mediaType.any isJsonType = true
  document : readDocument (shape.read maximumNesting) request.body = .ok value

/-- The body of a request is not too long to be read. -/
def Fits (request : Request) : Prop := request.body.utf8ByteSize ≤ bodyLimit

/-- A request whose body is a document of this value is sent to a route by a method. -/
structure Sends (request : Request) (method : String) (route : Route) (shape : Shape Payload α)
    (value : α) : Prop where
  method : request.method = method
  path : Route.ofPath? request.path = some route
  body : Holds request shape value

/-- A request asks for something by its path, its method, the name of a rule in its path and its
body. -/
inductive Asks (request : Request) : Demand → Prop
  | checkHealth (path : Route.ofPath? request.path = some .health)
      (method : request.method = "GET" ∨ request.method = "HEAD") : Asks request .checkHealth
  | compile (expression : String) (path : Route.ofPath? request.path = some .compile)
      (method : request.method = "POST") (body : Carries request compileShape expression) :
      Asks request (.compile expression)
  | evaluate (expression : String) (record : Record)
      (path : Route.ofPath? request.path = some .evaluate) (method : request.method = "POST")
      (body : Carries request evaluateShape (expression, record)) :
      Asks request (.evaluate expression record)
  | listRules (path : Route.ofPath? request.path = some .rules)
      (method : request.method = "GET" ∨ request.method = "HEAD") : Asks request .listRules
  | evaluateRules (record : Record) (path : Route.ofPath? request.path = some .evaluateRules)
      (method : request.method = "POST") (body : Carries request recordShape record) :
      Asks request (.evaluateRules record)
  | putRule (segment : List Char) (name expression : String)
      (path : Route.ofPath? request.path = some (.rule segment)) (method : request.method = "PUT")
      (named : percentDecode? segment = some name)
      (body : Carries request compileShape expression) : Asks request (.putRule name expression)
  | deleteRule (segment : List Char) (name : String)
      (path : Route.ofPath? request.path = some (.rule segment))
      (method : request.method = "DELETE") (named : percentDecode? segment = some name) :
      Asks request (.deleteRule name)
  | evaluateRule (segment : List Char) (name : String) (record : Record)
      (path : Route.ofPath? request.path = some (.evaluateRule segment))
      (method : request.method = "POST") (named : percentDecode? segment = some name)
      (body : Carries request recordShape record) : Asks request (.evaluateRule name record)

/-- A method does something at a route. -/
inductive Known : Route → String → Action → Prop
  | checkHealth (method : String) (reads : method = "GET" ∨ method = "HEAD") :
      Known .health method .checkHealth
  | compile : Known .compile "POST" .compile
  | evaluate : Known .evaluate "POST" .evaluate
  | listRules (method : String) (reads : method = "GET" ∨ method = "HEAD") :
      Known .rules method .listRules
  | evaluateRules : Known .evaluateRules "POST" .evaluateRules
  | putRule (segment : List Char) : Known (.rule segment) "PUT" (.putRule segment)
  | deleteRule (segment : List Char) : Known (.rule segment) "DELETE" (.deleteRule segment)
  | evaluateRule (segment : List Char) :
      Known (.evaluateRule segment) "POST" (.evaluateRule segment)

/-- The name of a rule that an action is about is no text. -/
inductive Unnamed : Action → Prop
  | putRule (segment : List Char) (broken : percentDecode? segment = none) :
      Unnamed (.putRule segment)
  | deleteRule (segment : List Char) (broken : percentDecode? segment = none) :
      Unnamed (.deleteRule segment)
  | evaluateRule (segment : List Char) (broken : percentDecode? segment = none) :
      Unnamed (.evaluateRule segment)

/-- The body of a request is refused where a value is needed for an action. -/
def Lacks (request : Request) (shape : Shape Payload α) (refusal : Refusal) : Prop :=
  readPayload shape request.mediaType request.body = .error refusal

/-- The body of a request is not read as an action needs it. -/
inductive Unread (request : Request) (refusal : Refusal) : Action → Prop
  | compile (body : Lacks request compileShape refusal) : Unread request refusal .compile
  | evaluate (body : Lacks request evaluateShape refusal) : Unread request refusal .evaluate
  | evaluateRules (body : Lacks request recordShape refusal) :
      Unread request refusal .evaluateRules
  | putRule (segment : List Char) (name : String) (named : percentDecode? segment = some name)
      (body : Lacks request compileShape refusal) : Unread request refusal (.putRule segment)
  | evaluateRule (segment : List Char) (name : String) (named : percentDecode? segment = some name)
      (body : Lacks request recordShape refusal) : Unread request refusal (.evaluateRule segment)

/-- A request is refused with a status: by its method wherever it leads, by its path, by its method
there, by the name of a rule in its path, or by its body. -/
inductive Refused (request : Request) : Nat → Prop
  | options (method : request.method = "OPTIONS") : Refused request 200
  | path (other : request.method ≠ "OPTIONS") (nowhere : Route.ofPath? request.path = none) :
      Refused request 404
  | method (route : Route) (other : request.method ≠ "OPTIONS")
      (path : Route.ofPath? request.path = some route)
      (unknown : route.action? request.method = none) : Refused request 405
  | name (route : Route) (action : Action) (path : Route.ofPath? request.path = some route)
      (known : route.action? request.method = some action) (unnamed : Unnamed action) :
      Refused request 400
  | body (route : Route) (action : Action) (refusal : Refusal)
      (path : Route.ofPath? request.path = some route)
      (known : route.action? request.method = some action)
      (unread : Unread request refusal action) : Refused request refusal.status

/-- A body is read as a value if it is a document of that value and not too long. -/
theorem carries_iff {request : Request} {shape : Shape Payload α} {value : α} :
    Carries request shape value ↔ Holds request shape value ∧ Fits request := by
  unfold Carries readPayload Fits
  constructor
  · intro read
    split at read
    · cases read
    · rename_i typed
      split at read
      · cases read
      · rename_i small
        split at read
        · rename_i document
          obtain rfl := Except.ok.inj read
          exact ⟨⟨by simpa using typed, document⟩, Nat.le_of_not_lt small⟩
        · split at read <;> cases read
  · rintro ⟨⟨typed, document⟩, small⟩
    rw [if_neg (by simp [typed]), if_neg (Nat.not_lt.mpr small), document]

/-- A document that is too long is not read. -/
theorem lacks_of_long {request : Request} {shape : Shape Payload α} {value : α}
    (holds : Holds request shape value) (long : ¬ Fits request) :
    Lacks request shape .tooLarge := by
  rw [Lacks, readPayload, if_neg (by simp [holds.mediaType]), if_pos (Nat.lt_of_not_le long)]

/-- A request asks for one thing only. -/
theorem asks_unique {request : Request} {one two : Demand} (asks : Asks request one)
    (again : Asks request two) : one = two := by
  cases asks <;> cases again <;> simp_all [Carries]

/-- What is asked for is answered from a registry. -/
def answer (registry : Registry) : Demand → Response × Registry
  | .checkHealth => (.document 200 (.object [("status", .string "ok")]), registry)
  | .compile expression => (Service.compile expression, registry)
  | .evaluate expression record => (Service.evaluate expression record, registry)
  | .listRules => (.document 200 (.list (registry.names.map .string)), registry)
  | .evaluateRules record => (Service.evaluateRules registry record, registry)
  | .putRule name expression => Service.putRule registry name expression
  | .deleteRule name => Service.deleteRule registry name
  | .evaluateRule name record => (Service.evaluateRule registry name record, registry)

section Steps

variable {request : Request} {demand : Demand}

/-- A name that is a text is gone on with. -/
theorem with_name_decoded {segment : List Char} {name : String}
    (named : percentDecode? segment = some name) (registry : Registry)
    (next : String → Response × Registry) : withName registry segment next = next name := by
  simp only [withName, named]

/-- A body that is read is gone on with. -/
theorem with_payload_carried {shape : Shape Payload α} {value : α}
    (carries : Carries request shape value) (registry : Registry)
    (next : α → Response × Registry) : withPayload registry request shape next = next value := by
  rw [Carries] at carries
  simp only [withPayload, carries]

/-- A request whose path and method lead to an action gets what is done for it, without a document
if it asks for the head only. -/
theorem handle_action {route : Route} {action : Action} {registry : Registry}
    {result : Response × Registry} (path : Route.ofPath? request.path = some route)
    (known : route.action? request.method = some action)
    (performed : perform registry request action = result) :
    handle registry request =
      (if request.method = "HEAD" then .bare result.1.status else result.1, result.2) := by
  have other : request.method ≠ "OPTIONS" := by
    intro same
    rw [same] at known
    cases route <;> simp [Route.action?] at known
  simp only [handle, if_neg other, path, known, performed]
  split <;> rfl

/-- What a request asks for is what is done for it. -/
theorem handle_asks (asks : Asks request demand) (registry : Registry) :
    handle registry request =
      (if request.method = "HEAD" then .bare (answer registry demand).1.status
        else (answer registry demand).1, (answer registry demand).2) := by
  cases asks with
  | checkHealth path method | listRules path method =>
    exact handle_action path (if_pos method) rfl
  | compile expression path method body =>
    exact handle_action path (if_pos method) (by rw [perform, with_payload_carried body]; rfl)
  | evaluate expression record path method body =>
    exact handle_action path (if_pos method) (by rw [perform, with_payload_carried body]; rfl)
  | evaluateRules record path method body =>
    exact handle_action path (if_pos method) (by rw [perform, with_payload_carried body]; rfl)
  | putRule segment name expression path method named body =>
    exact handle_action path (if_pos method)
      (by rw [perform, with_name_decoded named, with_payload_carried body]; rfl)
  | deleteRule segment name path method named =>
    have known : (Route.rule segment).action? request.method = some (.deleteRule segment) := by
      simp [Route.action?, method]
    exact handle_action path known (by rw [perform, with_name_decoded named]; rfl)
  | evaluateRule segment name record path method named body =>
    exact handle_action path (if_pos method)
      (by rw [perform, with_name_decoded named, with_payload_carried body]; rfl)

/-- Only the pages that are there to be read can be asked for by their heads. Whatever else is asked
for, the response is the answer. -/
theorem handle_acted (asks : Asks request demand)
    (acts : demand ≠ .checkHealth ∧ demand ≠ .listRules) (registry : Registry) :
    handle registry request = answer registry demand := by
  have whole : request.method ≠ "HEAD" := by
    cases asks with
    | checkHealth => exact absurd rfl acts.1
    | listRules => exact absurd rfl acts.2
    | compile _ _ method | evaluate _ _ _ method | evaluateRules _ _ method
    | putRule _ _ _ _ method | deleteRule _ _ _ method | evaluateRule _ _ _ _ method =>
      rw [method]
      decide
  rw [handle_asks asks, if_neg whole]

/-- A refused request gets a bare status and leaves the registry as it was. -/
theorem handle_refused {status : Nat} (refused : Refused request status) (registry : Registry) :
    handle registry request = (.bare status, registry) := by
  cases refused with
  | options method => rw [handle, if_pos method]
  | path other nowhere => simp only [handle, if_neg other, nowhere]
  | method route other path unknown => simp only [handle, if_neg other, path, unknown]
  | name route action path known unnamed =>
    have performed : perform registry request action = (.bare 400, registry) := by
      cases unnamed <;> simp only [perform, withName, *]
    rw [handle_action path known performed]
    exact congrArg (·, registry) (ite_self _)
  | body route action refusal path known unread =>
    have performed : perform registry request action = (.bare refusal.status, registry) := by
      cases unread <;> simp_all only [perform, Lacks, withName, withPayload]
    rw [handle_action path known performed]
    exact congrArg (·, registry) (ite_self _)

/-- A request whose body is too long is refused with the status 413. -/
theorem handle_long {route : Route} {action : Action}
    (path : Route.ofPath? request.path = some route)
    (known : route.action? request.method = some action)
    (unread : Unread request .tooLarge action) (registry : Registry) :
    handle registry request = (.bare 413, registry) :=
  handle_refused (.body route action .tooLarge path known unread) registry

/-- What a method does at a route is known there. -/
theorem known_of_action {route : Route} {method : String} {action : Action}
    (known : route.action? method = some action) : Known route method action := by
  cases route with
  | health | rules =>
    simp only [Route.action?, Option.ite_none_right_eq_some, Option.some.injEq] at known
    obtain ⟨reads, rfl⟩ := known
    constructor
    exact reads
  | compile | evaluate | evaluateRules | evaluateRule segment =>
    simp only [Route.action?, Option.ite_none_right_eq_some, Option.some.injEq] at known
    obtain ⟨rfl, rfl⟩ := known
    constructor
  | rule segment =>
    simp only [Route.action?] at known
    split at known
    · rename_i puts
      obtain rfl := Option.some.inj known
      rw [puts]
      exact .putRule segment
    · split at known
      · rename_i deletes
        obtain rfl := Option.some.inj known
        rw [deletes]
        exact .deleteRule segment
      · cases known

/-- A request that leads to an action with a body asks for something if the body is read, and is
refused if not. -/
theorem asked_by_body {shape : Shape Payload α} {demand : α → Demand} {route : Route}
    {action : Action} (path : Route.ofPath? request.path = some route)
    (known : route.action? request.method = some action)
    (read : ∀ value, Carries request shape value → Asks request (demand value))
    (unread : ∀ refusal, Lacks request shape refusal → Unread request refusal action) :
    (∃ demand, Asks request demand) ∨ ∃ status, Refused request status := by
  cases body : readPayload shape request.mediaType request.body with
  | ok value => exact .inl ⟨_, read value body⟩
  | error refusal => exact .inr ⟨_, .body _ _ refusal path known (unread refusal body)⟩

/-- Every request asks for something or is refused. -/
theorem asked_or_refused (request : Request) :
    (∃ demand, Asks request demand) ∨ ∃ status, Refused request status := by
  by_cases other : request.method = "OPTIONS"
  · exact .inr ⟨200, .options other⟩
  cases path : Route.ofPath? request.path with
  | none => exact .inr ⟨404, .path other path⟩
  | some route =>
    cases known : route.action? request.method with
    | none => exact .inr ⟨405, .method route other path known⟩
    | some action =>
      have does := known_of_action known
      generalize same : request.method = method at does
      cases does with
      | checkHealth method reads => exact .inl ⟨_, .checkHealth path (same ▸ reads)⟩
      | listRules method reads => exact .inl ⟨_, .listRules path (same ▸ reads)⟩
      | compile =>
        exact asked_by_body path known (fun _ body => .compile _ path same body)
          fun _ body => .compile body
      | evaluate =>
        exact asked_by_body path known (fun _ body => .evaluate _ _ path same body)
          fun _ body => .evaluate body
      | evaluateRules =>
        exact asked_by_body path known (fun _ body => .evaluateRules _ path same body)
          fun _ body => .evaluateRules body
      | putRule segment =>
        cases named : percentDecode? segment with
        | none => exact .inr ⟨_, .name _ _ path known (.putRule segment named)⟩
        | some name =>
          exact asked_by_body path known (fun _ body => .putRule _ _ _ path same named body)
            fun _ body => .putRule _ _ named body
      | deleteRule segment =>
        cases named : percentDecode? segment with
        | none => exact .inr ⟨_, .name _ _ path known (.deleteRule segment named)⟩
        | some name => exact .inl ⟨_, .deleteRule segment name path same named⟩
      | evaluateRule segment =>
        cases named : percentDecode? segment with
        | none => exact .inr ⟨_, .name _ _ path known (.evaluateRule segment named)⟩
        | some name =>
          exact asked_by_body path known (fun _ body => .evaluateRule _ _ _ path same named body)
            fun _ body => .evaluateRule _ _ named body

end Steps

section Answers

variable {registry : Registry} {name expression : String} {condition : Condition}
  {errors : List SyntaxError}

/-- A rule whose condition is compiled is put. -/
theorem put_compiled (name : String) (compiled : Condition.compile expression = .ok condition) :
    putRule registry name expression =
      (.document 200 (.object [("name", .string name), ("expression", .string expression)]),
        registry.insert name condition) := by
  rw [putRule, Registry.compileAndRegister, compiled]
  rfl

/-- A rule whose condition is broken is not put. -/
theorem put_broken (name : String) (broken : Condition.compile expression = .error errors) :
    putRule registry name expression = (.document 400 (syntaxErrorsBody errors), registry) := by
  rw [putRule, Registry.compileAndRegister, broken]
  rfl

/-- A rule that is there is deleted. -/
theorem delete_found (found : registry.get? name = some condition) :
    deleteRule registry name = (.bare 204, registry.erase name) := by
  simp only [deleteRule, found]

/-- A rule that is not there is not deleted. -/
theorem delete_absent (absent : registry.get? name = none) :
    deleteRule registry name = (.bare 404, registry) := by
  simp only [deleteRule, absent]

/-- A rule that is there is evaluated as its condition is. -/
theorem evaluate_rule_found (found : registry.get? name = some condition) (record : Record) :
    evaluateRule registry name record = outcomeResponse (condition.evaluate record) := by
  simp only [evaluateRule, Registry.evaluate, found]
  cases condition.evaluate record <;> rfl

end Answers

end RecordRules.Demands
