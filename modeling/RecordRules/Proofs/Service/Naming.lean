import Mathlib.Data.List.TakeWhile
import RecordRules.Proofs.Service.Agreement
import RecordRules.Proofs.Text.Percent

/-!
# Names of rules in paths

A rule of any name that is not empty can be put, listed, evaluated and deleted by requests, wherever
its name is written in a path in any way but one. A segment that reads `evaluate` as it stands is
taken for the fixed name of the route that evaluates all rules, and nothing can be put or deleted
there. The same name with one of its letters written by its byte is not taken for it, so the rule of
that name is out of reach of the usual way of writing only. Whatever the name is, a rule is put only
if the body with its condition is short enough to be read.
-/

namespace RecordRules.Naming

open Text Percent Service Demands Exchanges Agreement

/-- The path with these segments, a slash before each. -/
def pathOf (segments : List (List Char)) : String :=
  String.ofList (segments.flatMap fun segment => '/' :: segment)

/-- Where the names of all rules are read. -/
def rulesPath : String := pathOf ["api".toList, "rules".toList]

/-- Where a rule is put and deleted. -/
def rulePath (segment : List Char) : String := pathOf ["api".toList, "rules".toList, segment]

/-- Where a rule is evaluated. -/
def evaluationPath (segment : List Char) : String :=
  pathOf ["api".toList, "rules".toList, segment, "evaluate".toList]

/-- The segment that is a fixed name where the name of a rule could stand. -/
def fixedSegment : List Char := "evaluate".toList

/-- One segment of a path, as it is written, is decoded to a name. -/
structure Encodes (segment : List Char) (name : String) : Prop where
  plain : ∀ char ∈ segment, IsPlain char
  named : percentDecode? segment = some name

/-- A name that is not empty takes some characters to write. -/
theorem Encodes.ne_nil {segment : List Char} {name : String} (encodes : Encodes segment name)
    (some : name ≠ "") : segment ≠ [] := by
  rintro rfl
  have nothing : percentDecode? [] = .some "" := by decide +kernel
  exact some (Option.some.inj (encodes.named.symm.trans nothing))

/-- The segments of a path that is put together from segments are these. -/
theorem segments_pathOf {segments : List (List Char)}
    (plain : ∀ segment ∈ segments, ∀ char ∈ segment, IsPlain char) :
    Route.segments (pathOf segments) = [] :: segments := by
  have joined : (segments.flatMap fun segment => '/' :: segment) =
      ['/'].intercalate ([] :: segments) := by
    induction segments with
    | nil => rfl
    | cons segment others inductionHypothesis =>
      rw [List.flatMap_cons, inductionHypothesis
        fun other member => plain other (List.mem_cons_of_mem _ member)]
      cases others <;> simp [List.intercalate]
  have whole : ∀ char ∈ segments.flatMap fun segment => '/' :: segment,
      (char != '?' && char != '#') = true := by
    intro char member
    obtain ⟨segment, inside, member⟩ := List.mem_flatMap.mp member
    rcases List.mem_cons.mp member with rfl | member
    · decide
    · obtain ⟨-, query, fragment⟩ := plain segment inside char member
      simp [query, fragment]
  have apart : ∀ segment ∈ [] :: segments, '/' ∉ segment := by
    intro segment member slash
    rcases List.mem_cons.mp member with rfl | inside
    · cases slash
    · exact (plain segment inside '/' slash).1 rfl
  rw [Route.segments, pathOf, String.toList_ofList, List.takeWhile_eq_self_iff.mpr whole, joined]
  exact List.splitOn_intercalate '/' apart (by simp)

/-- The fixed parts of the paths about rules. -/
theorem plain_fixed : ∀ segment ∈ ["api".toList, "rules".toList, "evaluate".toList],
    ∀ char ∈ segment, IsPlain char := by
  have checked : (["api".toList, "rules".toList, "evaluate".toList].all fun segment =>
      segment.all fun char => decide (IsPlain char)) = true := by
    decide +kernel
  intro segment member char inside
  exact of_decide_eq_true (List.all_eq_true.mp (List.all_eq_true.mp checked segment member) char
    inside)

/-- The names of all rules have a route. -/
theorem route_rules : Route.ofPath? rulesPath = some .rules := by decide +kernel

section Segments

variable {segment : List Char}

/-- A rule is put and deleted at a route of its own, unless its segment is the fixed name. -/
theorem route_rule (plain : ∀ char ∈ segment, IsPlain char) (some : segment ≠ []) :
    Route.ofPath? (rulePath segment) =
      .some (if segment = fixedSegment then .evaluateRules else .rule segment) := by
  have plains : ∀ other ∈ ["api".toList, "rules".toList, segment],
      ∀ char ∈ other, IsPlain char := by
    intro other member
    simp only [List.mem_cons, List.not_mem_nil, or_false] at member
    rcases member with rfl | rfl | rfl
    · exact plain_fixed _ (by simp)
    · exact plain_fixed _ (by simp)
    · exact plain
  unfold Route.ofPath? rulePath
  simp only [segments_pathOf plains]
  rw [if_neg (by simp), if_neg (by simp [some])]
  unfold fixedSegment
  split <;> rfl

/-- A rule is evaluated at a route of its own, whatever its segment is. -/
theorem route_evaluation (plain : ∀ char ∈ segment, IsPlain char) (some : segment ≠ []) :
    Route.ofPath? (evaluationPath segment) = .some (.evaluateRule segment) := by
  have plains : ∀ other ∈ ["api".toList, "rules".toList, segment, "evaluate".toList],
      ∀ char ∈ other, IsPlain char := by
    intro other member
    simp only [List.mem_cons, List.not_mem_nil, or_false] at member
    rcases member with rfl | rfl | rfl | rfl
    · exact plain_fixed _ (by simp)
    · exact plain_fixed _ (by simp)
    · exact plain
    · exact plain_fixed _ (by simp)
  unfold Route.ofPath? evaluationPath
  simp only [segments_pathOf plains]
  rw [if_neg (by simp), if_neg (by simp [some])]

end Segments

/-- A rule of this name is at the service of the requests that write its name like this: it is
listed, evaluating it is neither refused by its path nor by its method, and deleting it removes it
and no other rule. -/
structure Serves (registry : Registry) (segment : List Char) (name : String) : Prop where
  listed : ∀ request : Request, request.method = "GET" → request.path = rulesPath →
    ∃ names : List String,
      (handle registry request).1 = .document 200 (.list (names.map .string)) ∧ name ∈ names
  evaluated : ∀ request : Request, request.method = "POST" →
    request.path = evaluationPath segment →
      (handle registry request).1.status ≠ 404 ∧ (handle registry request).1.status ≠ 405
  deleted : ∀ request : Request, request.method = "DELETE" → request.path = rulePath segment →
    (handle registry request).1.status = 204 ∧
      (handle registry request).2.get? name = none ∧
      ∀ other, other ≠ name → (handle registry request).2.get? other = registry.get? other

section Requests

variable {registry : Registry} {segment : List Char} {name : String} {condition : Condition}

/-- A rule that is there is listed. -/
theorem listed_of_bound (found : registry.get? name = some condition) {request : Request}
    (method : request.method = "GET") (path : request.path = rulesPath) :
    ∃ names : List String,
      (handle registry request).1 = .document 200 (.list (names.map .string)) ∧ name ∈ names := by
  have asks : Asks request .listRules := .listRules (path ▸ route_rules) (.inl method)
  refine ⟨registry.names, ?_, ?_⟩
  · rw [handle_asks asks, if_neg (by simp [method])]
    rfl
  · rw [Table.mem_names_iff, found]
    rfl

/-- Evaluating a rule that is there succeeds, fails as its condition does, or is refused by its
body. -/
theorem evaluated_of_bound (encodes : Encodes segment name) (some : name ≠ "")
    (found : registry.get? name = .some condition) {request : Request}
    (method : request.method = "POST") (path : request.path = evaluationPath segment) :
    (handle registry request).1.status ≠ 404 ∧ (handle registry request).1.status ≠ 405 := by
  have leads : Route.ofPath? request.path = .some (.evaluateRule segment) :=
    path ▸ route_evaluation encodes.plain (encodes.ne_nil some)
  cases body : readPayload recordShape request.mediaType request.body with
  | ok record =>
    have asks : Asks request (.evaluateRule name record) :=
      .evaluateRule segment name record leads method encodes.named body
    rw [handle_acted asks (by simp), answer, evaluate_rule_found found]
    rcases outcome_status (condition.evaluate record) with success | failure
    · simp [success]
    · simp [failure]
  | error refusal =>
    have known : (Route.evaluateRule segment).action? request.method =
        .some (.evaluateRule segment) := if_pos method
    have refused : Refused request refusal.status :=
      .body _ _ refusal leads known (.evaluateRule segment name encodes.named body)
    rw [handle_refused refused]
    cases refusal <;> simp [Refusal.status, Response.bare]

/-- Deleting a rule that is there removes it, unless its segment is the fixed name. -/
theorem deleted_of_bound (encodes : Encodes segment name) (some : name ≠ "")
    (apart : segment ≠ fixedSegment) (found : registry.get? name = .some condition)
    {request : Request} (method : request.method = "DELETE")
    (path : request.path = rulePath segment) :
    (handle registry request).1.status = 204 ∧
      (handle registry request).2.get? name = none ∧
      ∀ other, other ≠ name → (handle registry request).2.get? other = registry.get? other := by
  have leads : Route.ofPath? request.path = .some (.rule segment) := by
    rw [path, route_rule encodes.plain (encodes.ne_nil some), if_neg apart]
  have asks : Asks request (.deleteRule name) :=
    .deleteRule segment name leads method encodes.named
  rw [handle_acted asks (by simp), answer, delete_found found]
  refine ⟨rfl, ?_, ?_⟩
  · rw [Table.get?_erase, if_pos rfl]
  · intro other different
    rw [Table.get?_erase, if_neg different]

/-- At the segment that is the fixed name nothing is put or deleted. -/
theorem fixed_refused {request : Request}
    (method : request.method = "PUT" ∨ request.method = "DELETE")
    (path : request.path = rulePath fixedSegment) (registry : Registry) :
    handle registry request = (.bare 405, registry) := by
  have leads : Route.ofPath? request.path = some .evaluateRules := by
    rw [path]
    decide +kernel
  have refused : Refused request 405 := by
    rcases method with puts | deletes
    · exact .method _ (by simp [puts]) leads (by simp [Route.action?, puts])
    · exact .method _ (by simp [deletes]) leads (by simp [Route.action?, deletes])
  exact handle_refused refused registry

end Requests

/-- The usual way of writing a name gives the fixed name only for that name. -/
theorem encode_fixed_iff (name : String) :
    percentEncode name = fixedSegment ↔ name = "evaluate" := by
  constructor
  · intro same
    have decoded := decode_encode name
    have fixed : percentDecode? fixedSegment = some "evaluate" := by decide +kernel
    rw [same, fixed] at decoded
    exact (Option.some.inj decoded).symm
  · rintro rfl
    decide +kernel

/-- A rule of any name that is not empty is put by a request that writes its name in a segment and
whose body is not longer than 2097152 bytes, and serves every later request as long as it is neither
put again nor deleted, unless the segment as it is written is the fixed name. With a longer body it
is not put, whatever else the request is. At the fixed name putting and deleting are refused by
their method, and nothing is moved. Every name can be written in a segment, and the usual way of
writing it gives the fixed name only where the name is `evaluate`. -/
theorem named_rule_managed {segment : List Char} {name expression : String}
    {condition : Condition} {put : Request} (encodes : Encodes segment name) (some : name ≠ "")
    (method : put.method = "PUT") (path : put.path = rulePath segment)
    (body : Holds put compileShape expression)
    (compiled : Condition.compile expression = .ok condition) (registry : Registry) :
    (segment ≠ fixedSegment →
      (put.body.utf8ByteSize ≤ 2097152 →
        (handle registry put).1.status = 200 ∧
        (handle registry put).2.get? name = .some condition ∧
        ∀ between, (∀ request ∈ between, Spares name request) →
          Serves (run (handle registry put).2 between) segment name) ∧
      (2097152 < put.body.utf8ByteSize → handle registry put = (.bare 413, registry))) ∧
    (segment = fixedSegment →
      ∀ request : Request, request.method = "PUT" ∨ request.method = "DELETE" →
        request.path = rulePath segment → handle registry request = (.bare 405, registry)) ∧
    Encodes (percentEncode name) name ∧
    (percentEncode name = fixedSegment ↔ name = "evaluate") := by
  refine ⟨?_, ?_, ⟨plain_encode name, decode_encode name⟩, encode_fixed_iff name⟩
  · intro apart
    have leads : Route.ofPath? put.path = .some (.rule segment) := by
      rw [path, route_rule encodes.plain (encodes.ne_nil some), if_neg apart]
    refine ⟨fun fits => ?_, fun long => ?_⟩
    · have asks : Asks put (.putRule name expression) :=
        .putRule segment name expression leads method encodes.named (carries_iff.mpr ⟨body, fits⟩)
      have bound : (handle registry put).2.get? name = .some condition :=
        get?_put asks compiled registry
      refine ⟨?_, bound, ?_⟩
      · rw [handle_acted asks (by simp), answer, put_compiled name compiled]
        rfl
      · intro between spared
        have found : (run (handle registry put).2 between).get? name = .some condition :=
          (get?_run_spared spared _).trans bound
        exact ⟨fun _ => listed_of_bound found, fun _ => evaluated_of_bound encodes some found,
          fun _ => deleted_of_bound encodes some apart found⟩
    · exact handle_put_long encodes.named ⟨method, leads, body⟩ (Nat.not_le.mpr long) registry
  · rintro rfl request acts there
    exact fixed_refused acts there registry

/-- A request for another rule to be deleted spares a rule. -/
theorem spares_of_delete {request : Request} {name other : String}
    (asks : Asks request (.deleteRule other)) (apart : other ≠ name) : Spares name request :=
  ⟨fun _ puts => (nomatch asks_unique asks puts),
    fun deletes => apart (Demand.deleteRule.inj (asks_unique asks deletes))⟩

/-- A request for the rule of a name to be put, which writes the name in the usual way. -/
def putWritten (name : String) : Request :=
  sent "PUT" (rulePath (percentEncode name)) "\x7b\"expression\": \"n > 1\"\x7d"

/-- A rule whose name has a slash is put and serves later requests, also after another rule was
deleted. -/
theorem slashed_rule_managed :
    "a/b" ≠ "" ∧ percentEncode "a/b" ≠ fixedSegment ∧
      (handle .empty (putWritten "a/b")).1.status = 200 ∧
      Serves (run (handle .empty (putWritten "a/b")).2 [deleteOther]) (percentEncode "a/b")
        "a/b" := by
  have encodes : Encodes (percentEncode "a/b") "a/b" := ⟨plain_encode _, decode_encode _⟩
  have compiled : Condition.compile "n > 1" = .ok moreThanOne := by decide +kernel
  have apart : percentEncode "a/b" ≠ fixedSegment := by decide +kernel
  have other : Asks deleteOther (.deleteRule "Evaluate") :=
    .deleteRule "Evaluate".toList _ (by decide +kernel) rfl (by decide +kernel)
  have spared : ∀ request ∈ [deleteOther], Spares "a/b" request := by
    intro request member
    obtain rfl := List.mem_singleton.mp member
    exact spares_of_delete other (by decide)
  have carries : Carries (putWritten "a/b") compileShape "n > 1" := by decide +kernel
  obtain ⟨body, fits⟩ := carries_iff.mp carries
  have managed := named_rule_managed encodes (by decide)
    (rfl : (putWritten "a/b").method = "PUT") rfl body compiled .empty
  obtain ⟨success, -, serves⟩ := (managed.1 apart).1 fits
  exact ⟨by decide, apart, success, serves _ spared⟩

/-- The rule of the name `evaluate` is not put by a request that writes the name in the usual way,
though the condition is compiled. -/
theorem evaluate_not_put :
    Encodes (percentEncode "evaluate") "evaluate" ∧
      Condition.compile "n > 1" = .ok moreThanOne ∧
      Carries (putWritten "evaluate") compileShape "n > 1" ∧
      (putWritten "evaluate").path = "/api/rules/evaluate" ∧
      handle .empty (putWritten "evaluate") = (.bare 405, .empty) := by
  have there : (putWritten "evaluate").path = rulePath fixedSegment := by decide +kernel
  exact ⟨⟨plain_encode _, decode_encode _⟩, by decide +kernel, by decide +kernel,
    by decide +kernel, fixed_refused (.inl rfl) there .empty⟩

end RecordRules.Naming
