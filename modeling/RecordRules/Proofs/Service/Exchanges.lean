import RecordRules.Proofs.Service.Demands
import RecordRules.Proofs.Text.Utf8

/-!
# What requests do to the registry

The registry of the service can be known from the outside. Each request with its response tells
what became of the registry: a rule was put if putting it was answered with success, a rule was
deleted if deleting it was, and nothing happened otherwise, whatever the request was and however it
was refused. So the registry behind any requests is the one at the beginning, changed in the order
of the responses.
-/

namespace RecordRules.Exchanges

open Text Service Demands

/-- A request of this method leads to the route of a rule. -/
def AtRule (request : Request) (method : String) : Prop :=
  request.method = method ∧ ∃ segment, Route.ofPath? request.path = some (.rule segment)

/-- What a request with its response tells of the registry: behind a rule that was put successfully
its condition is bound to its name, behind a rule that was deleted successfully its name is not
bound, and behind every other response the registry is as it was. -/
inductive Changes (request : Request) (response : Response) (registry : Registry) : Registry → Prop
  | put (name expression : String) (condition : Condition)
      (asks : Asks request (.putRule name expression)) (answered : response.status = 200)
      (compiled : Condition.compile expression = .ok condition) :
      Changes request response registry (registry.insert name condition)
  | delete (name : String) (asks : Asks request (.deleteRule name))
      (answered : response.status = 204) :
      Changes request response registry (registry.erase name)
  | nothing (noPut : AtRule request "PUT" → response.status ≠ 200)
      (noDelete : AtRule request "DELETE" → response.status ≠ 204) :
      Changes request response registry registry

/-- Requests with their responses, the first of which is answered from a registry. -/
def exchanges (registry : Registry) : List Request → List (Request × Response)
  | [] => []
  | request :: later =>
    (request, (handle registry request).1) :: exchanges (handle registry request).2 later

/-- Requests with their responses tell of one registry behind another, change after change. -/
inductive Replays : List (Request × Response) → Registry → Registry → Prop
  | finished (registry : Registry) : Replays [] registry registry
  | exchange (request : Request) (response : Response) (later : List (Request × Response))
      (registry next final : Registry) (change : Changes request response registry next)
      (rest : Replays later next final) : Replays ((request, response) :: later) registry final

section Steps

variable {request : Request} {registry : Registry}

/-- A request that asks for a rule to be put leads to the route of a rule. -/
theorem at_rule_of_put {name expression : String} (asks : Asks request (.putRule name expression)) :
    AtRule request "PUT" := by
  cases asks with
  | putRule segment _ _ path method => exact ⟨method, segment, path⟩

/-- A request that asks for a rule to be deleted leads to the route of a rule. -/
theorem at_rule_of_delete {name : String} (asks : Asks request (.deleteRule name)) :
    AtRule request "DELETE" := by
  cases asks with
  | deleteRule segment _ path method => exact ⟨method, segment, path⟩

/-- A request has one method. -/
theorem at_rule_unique {method other : String} (one : AtRule request method)
    (two : AtRule request other) : method = other := one.1.symm.trans two.1

/-- What is asked for at the route of a rule is that the rule be put or deleted. -/
theorem asks_at_rule {demand : Demand} {method : String} (asks : Asks request demand)
    (atRule : AtRule request method) :
    (∃ name expression, demand = .putRule name expression) ∨ ∃ name, demand = .deleteRule name := by
  obtain ⟨-, segment, leads⟩ := atRule
  cases asks with
  | putRule _ name expression => exact .inl ⟨name, expression, rfl⟩
  | deleteRule _ name => exact .inr ⟨name, rfl⟩
  | checkHealth path | compile _ path | evaluate _ _ path | listRules path | evaluateRules _ path
  | evaluateRule _ _ _ path =>
    rw [path] at leads
    cases leads

/-- A refused request is answered with success only if it asks for options, and never as one that
deletes. -/
theorem refused_status {status : Nat} (refused : Refused request status) :
    status ≠ 204 ∧ (status = 200 → request.method = "OPTIONS") := by
  cases refused with
  | options method => exact ⟨by decide, fun _ => method⟩
  | body route action refusal => cases refusal <;> simp [Refusal.status]
  | path | method | name => simp

/-- A request for a rule to be put moves the registry if its condition is compiled. -/
theorem changes_put {name expression : String} (asks : Asks request (.putRule name expression)) :
    Changes request (handle registry request).1 registry (handle registry request).2 := by
  rw [handle_acted asks (by simp), answer]
  cases compiled : Condition.compile expression with
  | ok condition =>
    rw [put_compiled name compiled]
    exact .put name expression condition asks rfl compiled
  | error errors =>
    rw [put_broken name compiled]
    refine .nothing (fun _ => by simp [Response.document]) fun deletes => ?_
    exact absurd (at_rule_unique (at_rule_of_put asks) deletes) (by decide)

/-- A request for a rule to be deleted moves the registry if the rule is there. -/
theorem changes_delete {name : String} (asks : Asks request (.deleteRule name)) :
    Changes request (handle registry request).1 registry (handle registry request).2 := by
  rw [handle_acted asks (by simp), answer]
  cases found : registry.get? name with
  | some condition =>
    rw [delete_found found]
    exact .delete name asks rfl
  | none =>
    rw [delete_absent found]
    refine .nothing (fun puts => ?_) fun _ => by simp [Response.bare]
    exact absurd (at_rule_unique (at_rule_of_delete asks) puts) (by decide)

/-- A request for anything else does not move the registry. -/
theorem changes_elsewhere {demand : Demand} {response : Response} (asks : Asks request demand)
    (noPut : ∀ name expression, demand ≠ .putRule name expression)
    (noDelete : ∀ name, demand ≠ .deleteRule name) :
    Changes request response registry registry := by
  have elsewhere : ∀ method, ¬ AtRule request method := by
    intro method atRule
    rcases asks_at_rule asks atRule with ⟨name, expression, puts⟩ | ⟨name, deletes⟩
    · exact noPut name expression puts
    · exact noDelete name deletes
  exact .nothing (fun puts => absurd puts (elsewhere _)) fun deletes =>
    absurd deletes (elsewhere _)

/-- A refused request does not move the registry. -/
theorem changes_refused {status : Nat} (refused : Refused request status) :
    Changes request (.bare status) registry registry := by
  obtain ⟨noDelete, options⟩ := refused_status refused
  refine .nothing (fun puts success => ?_) fun _ => noDelete
  exact absurd (puts.1.symm.trans (options success)) (by decide)

/-- Every response tells what became of the registry. -/
theorem handle_changes (registry : Registry) (request : Request) :
    Changes request (handle registry request).1 registry (handle registry request).2 := by
  rcases asked_or_refused request with ⟨demand, asks⟩ | ⟨status, refused⟩
  · cases demand with
    | putRule name expression => exact changes_put asks
    | deleteRule name => exact changes_delete asks
    | checkHealth | compile | evaluate | listRules | evaluateRules | evaluateRule =>
      rw [handle_asks asks]
      exact changes_elsewhere asks (by simp) (by simp)
  · rw [handle_refused refused]
    exact changes_refused refused

/-- A request and its response tell of one change only. -/
theorem changes_unique {response : Response} {next other : Registry}
    (one : Changes request response registry next)
    (two : Changes request response registry other) : next = other := by
  cases one with
  | put name expression condition asks answered compiled =>
    cases two with
    | put name' expression' condition' asks' answered' compiled' =>
      obtain ⟨rfl, rfl⟩ := Demand.putRule.inj (asks_unique asks asks')
      obtain rfl : condition = condition' := Except.ok.inj (compiled.symm.trans compiled')
      rfl
    | delete name' asks' answered' => exact absurd (answered.symm.trans answered') (by decide)
    | nothing noPut => exact absurd answered (noPut (at_rule_of_put asks))
  | delete name asks answered =>
    cases two with
    | put name' expression' condition' asks' answered' =>
      exact absurd (answered.symm.trans answered') (by decide)
    | delete name' asks' => rw [Demand.deleteRule.inj (asks_unique asks asks')]
    | nothing _ noDelete => exact absurd answered (noDelete (at_rule_of_delete asks))
  | nothing noPut noDelete =>
    cases two with
    | put name' expression' condition' asks' answered' =>
      exact absurd answered' (noPut (at_rule_of_put asks'))
    | delete name' asks' answered' => exact absurd answered' (noDelete (at_rule_of_delete asks'))
    | nothing => rfl

end Steps

/-- The registry behind some requests is the one and only that the responses tell of. -/
theorem replays_iff (registry : Registry) (requests : List Request) (final : Registry) :
    Replays (exchanges registry requests) registry final ↔ final = run registry requests := by
  induction requests generalizing registry with
  | nil =>
    constructor
    · intro replays
      cases replays
      rfl
    · intro same
      rw [same]
      exact .finished registry
  | cons request later inductionHypothesis =>
    have first := handle_changes registry request
    constructor
    · intro replays
      cases replays with
      | exchange _ _ _ _ next _ change rest =>
        rw [← changes_unique first change] at rest
        exact (inductionHypothesis _).mp rest
    · intro same
      exact .exchange _ _ _ _ _ _ first ((inductionHypothesis _).mpr same)

/-- The registry behind any requests is the one at the beginning, with a condition inserted for
every rule that was put with the status 200 and a name erased for every rule that was deleted with
the status 204, in their order and with nothing else done to it. A request to delete a rule is
answered with 204 if the rule is there at that moment and with 404 if it is not. The list of rules
has the names that are bound at that moment, in strictly ascending order of their bytes. -/
theorem run_replays (registry : Registry) (requests : List Request) :
    (∀ final, Replays (exchanges registry requests) registry final ↔
      final = run registry requests) ∧
    (∀ request name, Asks request (.deleteRule name) →
      ((handle (run registry requests) request).1.status = 204 ↔
        ∃ condition, (run registry requests).get? name = some condition) ∧
      ((handle (run registry requests) request).1.status = 404 ↔
        (run registry requests).get? name = none)) ∧
    ∀ request, request.method = "GET" → Route.ofPath? request.path = some .rules →
      ∃ names : List String, (handle (run registry requests) request).1 =
          .document 200 (.list (names.map .string)) ∧
        (names.Pairwise fun left right => Utf8.bytes left < Utf8.bytes right) ∧
        ∀ name, name ∈ names ↔
          ∃ condition, (run registry requests).get? name = some condition := by
  refine ⟨replays_iff registry requests, ?_, ?_⟩
  · intro request name asks
    rw [handle_acted asks (by simp), answer]
    cases found : (run registry requests).get? name with
    | some condition =>
      rw [delete_found found]
      simp [Response.bare]
    | none =>
      rw [delete_absent found]
      simp [Response.bare]
  · intro request method path
    have asks : Asks request .listRules := .listRules path (.inl method)
    refine ⟨(run registry requests).names, ?_, ?_, ?_⟩
    · rw [handle_asks asks, if_neg (by simp [method])]
      rfl
    · exact (Table.pairwise_names _).imp Utf8.bytes_lt
    · intro name
      rw [Table.mem_names_iff, Option.isSome_iff_exists]

example : (run .empty
    [⟨"PUT", "/api/rules/b%2Fa", some "application/json", "\x7b\"expression\": \"n > 1\"\x7d"⟩,
      ⟨"PUT", "/api/rules/b%2Fa", some "application/json", "\x7b\"expression\": \"n >\"\x7d"⟩,
      ⟨"DELETE", "/api/rules/b", none, ""⟩]).names = ["b/a"] := by decide +kernel

end RecordRules.Exchanges
