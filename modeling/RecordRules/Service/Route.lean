import RecordRules.Text.Percent

/-!
# Routes of the service

A path leads to one of seven routes, or nowhere. Its parts are compared as they are written, and
the query does not count. Where a fixed name and the name of a rule could both stand, the fixed
name is meant. The name of a rule is percent-encoded and not empty.
-/

namespace RecordRules.Service

/-- Where a path leads. The name of a rule is kept as it is written. -/
inductive Route
  | health
  | compile
  | evaluate
  | rules
  | evaluateRules
  | rule (name : List Char)
  | evaluateRule (name : List Char)
  deriving DecidableEq

namespace Route

/-- The parts of a path behind its slashes, without the query. -/
def segments (path : String) : List (List Char) :=
  (path.toList.takeWhile fun char => char != '?' && char != '#').splitOn '/'

/-- Where a path leads, if anywhere. -/
def ofPath? (path : String) : Option Route :=
  match segments path with
  | [] :: api :: parts =>
    if api ≠ "api".toList then none
    else
      match parts with
      | [name] =>
        if name = "health".toList then some health
        else if name = "compile".toList then some compile
        else if name = "evaluate".toList then some evaluate
        else if name = "rules".toList then some rules
        else none
      | [collection, name] =>
        if collection ≠ "rules".toList ∨ name = [] then none
        else if name = "evaluate".toList then some evaluateRules
        else some (rule name)
      | [collection, name, action] =>
        if collection ≠ "rules".toList ∨ name = [] ∨ action ≠ "evaluate".toList then none
        else some (evaluateRule name)
      | _ => none
  | _ => none

end Route

/-- What is done at a route. -/
inductive Action
  | checkHealth
  | compile
  | evaluate
  | listRules
  | evaluateRules
  | putRule (name : List Char)
  | deleteRule (name : List Char)
  | evaluateRule (name : List Char)
  deriving DecidableEq

/-- What a method does at a route, if it is known there. -/
def Route.action? (route : Route) (method : String) : Option Action :=
  match route with
  | health => if method = "GET" ∨ method = "HEAD" then some .checkHealth else none
  | rules => if method = "GET" ∨ method = "HEAD" then some .listRules else none
  | compile => if method = "POST" then some .compile else none
  | evaluate => if method = "POST" then some .evaluate else none
  | evaluateRules => if method = "POST" then some .evaluateRules else none
  | evaluateRule name => if method = "POST" then some (.evaluateRule name) else none
  | rule name =>
    if method = "PUT" then some (.putRule name)
    else if method = "DELETE" then some (.deleteRule name)
    else none

example : Route.ofPath? "/api/rules/evaluate" = some .evaluateRules := by decide +kernel

example : Route.ofPath? "/api/rules/" = none ∧ Route.ofPath? "/api/health?x=1" = some .health := by
  decide +kernel

end RecordRules.Service
