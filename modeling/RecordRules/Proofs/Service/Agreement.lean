import RecordRules.Proofs.Condition.Association
import RecordRules.Proofs.Condition.Blame
import RecordRules.Proofs.Json.Strings
import RecordRules.Proofs.Service.Exchanges

/-!
# Stored rules and conditions that are given at once

A condition can be evaluated in two ways: it is given together with the record, or it is put as a
rule first and the rule is evaluated on the record later. Both ways show the same, the result or the
failure, as long as the rule is neither put again nor deleted in the meantime. If the condition is
broken, both ways are refused with the errors that compiling it shows, and nothing is put.

All this is so for requests whose bodies are short enough to be read. A longer body is refused by
its size, however good the condition in it is, so a condition can be too long to be put.
-/

namespace RecordRules.Agreement

open Text Number Json JsonScalars Service Demands Exchanges Blame

/-- A request asks neither for the rule of this name to be put nor for it to be deleted. -/
structure Spares (name : String) (request : Request) : Prop where
  noPut : ∀ expression, ¬ Asks request (.putRule name expression)
  noDelete : ¬ Asks request (.deleteRule name)

/-- A request that spares a rule leaves it bound to its condition, or not bound. -/
theorem get?_handle_spared {name : String} {request : Request} (spares : Spares name request)
    (registry : Registry) : (handle registry request).2.get? name = registry.get? name := by
  have change := handle_changes registry request
  generalize (handle registry request).2 = next at change
  cases change with
  | put other expression condition asks =>
    have apart : name ≠ other := by
      rintro rfl
      exact spares.noPut expression asks
    rw [Table.get?_insert, if_neg apart]
  | delete other asks =>
    have apart : name ≠ other := by
      rintro rfl
      exact spares.noDelete asks
    rw [Table.get?_erase, if_neg apart]
  | nothing => rfl

/-- Requests that spare a rule leave it bound to its condition, or not bound. -/
theorem get?_run_spared {name : String} {requests : List Request}
    (spared : ∀ request ∈ requests, Spares name request) (registry : Registry) :
    (run registry requests).get? name = registry.get? name := by
  induction requests generalizing registry with
  | nil => rfl
  | cons request later inductionHypothesis =>
    have first := get?_handle_spared (spared request List.mem_cons_self) registry
    have rest := inductionHypothesis
      (fun other member => spared other (List.mem_cons_of_mem _ member))
      (handle registry request).2
    exact rest.trans first

/-- A request for a rule to be put binds its name to the condition. -/
theorem get?_put {name expression : String} {condition : Condition} {request : Request}
    (asks : Asks request (.putRule name expression))
    (compiled : Condition.compile expression = .ok condition) (registry : Registry) :
    (handle registry request).2.get? name = some condition := by
  rw [handle_acted asks (by simp), answer, put_compiled name compiled, Table.get?_insert,
    if_pos rfl]

/-- What came of an evaluation is shown with success, or as what cannot be processed. -/
theorem outcome_status (outcome : Outcome) :
    (outcomeResponse outcome).status = 200 ∨ (outcomeResponse outcome).status = 422 := by
  cases outcome with
  | ok value => exact .inl rfl
  | error failure => exact .inr rfl

/-- A condition in a body that is too long is not put. -/
theorem handle_put_long {segment : List Char} {name expression : String} {put : Request}
    (named : percentDecode? segment = some name)
    (puts : Sends put "PUT" (.rule segment) compileShape expression) (long : ¬ Fits put)
    (registry : Registry) : handle registry put = (.bare 413, registry) :=
  handle_long puts.path (if_pos puts.method)
    (.putRule segment name named (lacks_of_long puts.body long)) registry

section Ways

variable {name expression : String} {record : Record} {put stored direct check : Request}

/-- If a condition is compiled, both ways of evaluating it show what comes of it. -/
theorem compiled_agrees (puts : Asks put (.putRule name expression))
    (evaluatesRule : Asks stored (.evaluateRule name record))
    (evaluates : Asks direct (.evaluate expression record)) (registry elsewhere : Registry)
    {condition : Condition} (compiled : Condition.compile expression = .ok condition) :
    (handle registry put).1.status = 200 ∧
      (handle elsewhere direct).1 = outcomeResponse (condition.evaluate record) ∧
      ((handle elsewhere direct).1.status = 200 ∨ (handle elsewhere direct).1.status = 422) ∧
      ∀ between, (∀ request ∈ between, Spares name request) →
        (handle (run (handle registry put).2 between) stored).1 =
          (handle elsewhere direct).1 := by
  have shown : (handle elsewhere direct).1 = outcomeResponse (condition.evaluate record) := by
    rw [handle_acted evaluates (by simp), answer, Service.evaluate, compiled]
  refine ⟨?_, shown, ?_, ?_⟩
  · rw [handle_acted puts (by simp), answer, put_compiled name compiled]
    rfl
  · rw [shown]
    exact outcome_status _
  · intro between spared
    have found : (run (handle registry put).2 between).get? name = some condition :=
      (get?_run_spared spared _).trans (get?_put puts compiled registry)
    rw [handle_acted evaluatesRule (by simp), answer, evaluate_rule_found found, shown]

/-- If a condition is broken, its errors are shown wherever it is sent, and nothing is put. -/
theorem broken_agrees (puts : Asks put (.putRule name expression))
    (evaluates : Asks direct (.evaluate expression record))
    (compiles : Asks check (.compile expression)) (registry elsewhere : Registry)
    {errors : List SyntaxError} (broken : Condition.compile expression = .error errors) :
    (handle registry put).1 = .document 400 (syntaxErrorsBody errors) ∧
      (handle elsewhere check).1 = .document 400 (syntaxErrorsBody errors) ∧
      (handle elsewhere direct).1 = .document 400 (syntaxErrorsBody errors) ∧
      (handle registry put).2 = registry := by
  refine ⟨?_, ?_, ?_, ?_⟩
  · rw [handle_acted puts (by simp), answer, put_broken name broken]
  · rw [handle_acted compiles (by simp), answer, Service.compile, broken]
  · rw [handle_acted evaluates (by simp), answer, Service.evaluate, broken]
  · rw [handle_acted puts (by simp), answer, put_broken name broken]

end Ways

/-- Requests are given for a condition to be put as a rule, for the rule to be evaluated on a record,
for the condition to be evaluated on the record and for it to be compiled. Any of them whose body is
longer than 2097152 bytes is refused with the status 413 and moves nothing. Otherwise the two ways
of evaluating the condition agree:

If the condition is compiled, putting it succeeds. Evaluating the rule on the record later, whatever
is requested in the meantime that spares the rule, gets the response that evaluating the condition
on the record gets, which shows what came of the evaluation with the status 200 or 422. If the
condition is broken, then putting it, compiling it and evaluating it on the record all get the
response with the status 400 that shows the errors, and every rule stays as it was. -/
theorem stored_agrees {name expression : String} {record : Record} {segment written : List Char}
    {put stored direct check : Request} (named : percentDecode? segment = some name)
    (again : percentDecode? written = some name)
    (puts : Sends put "PUT" (.rule segment) compileShape expression)
    (evaluatesRule : Sends stored "POST" (.evaluateRule written) recordShape record)
    (evaluates : Sends direct "POST" .evaluate evaluateShape (expression, record))
    (compiles : Sends check "POST" .compile compileShape expression)
    (registry elsewhere : Registry) :
    (∀ request ∈ [put, stored, direct, check], 2097152 < request.body.utf8ByteSize →
      handle registry request = (.bare 413, registry)) ∧
    (∀ condition, Condition.compile expression = .ok condition →
      (∀ request ∈ [put, stored, direct], request.body.utf8ByteSize ≤ 2097152) →
      (handle registry put).1.status = 200 ∧
      (handle elsewhere direct).1 = outcomeResponse (condition.evaluate record) ∧
      ((handle elsewhere direct).1.status = 200 ∨ (handle elsewhere direct).1.status = 422) ∧
      ∀ between, (∀ request ∈ between, Spares name request) →
        (handle (run (handle registry put).2 between) stored).1 =
          (handle elsewhere direct).1) ∧
    ∀ errors, Condition.compile expression = .error errors →
      (∀ request ∈ [put, direct, check], request.body.utf8ByteSize ≤ 2097152) →
      (handle registry put).1 = .document 400 (syntaxErrorsBody errors) ∧
      (handle elsewhere check).1 = .document 400 (syntaxErrorsBody errors) ∧
      (handle elsewhere direct).1 = .document 400 (syntaxErrorsBody errors) ∧
      (handle registry put).2 = registry := by
  have asksPut (fits : Fits put) : Asks put (.putRule name expression) :=
    .putRule segment name expression puts.path puts.method named (carries_iff.mpr ⟨puts.body, fits⟩)
  have asksStored (fits : Fits stored) : Asks stored (.evaluateRule name record) :=
    .evaluateRule written name record evaluatesRule.path evaluatesRule.method again
      (carries_iff.mpr ⟨evaluatesRule.body, fits⟩)
  have asksDirect (fits : Fits direct) : Asks direct (.evaluate expression record) :=
    .evaluate expression record evaluates.path evaluates.method
      (carries_iff.mpr ⟨evaluates.body, fits⟩)
  have asksCheck (fits : Fits check) : Asks check (.compile expression) :=
    .compile expression compiles.path compiles.method (carries_iff.mpr ⟨compiles.body, fits⟩)
  refine ⟨?_, ?_, ?_⟩
  · intro request member long
    have beyond : ¬ Fits request := Nat.not_le.mpr long
    simp only [List.mem_cons, List.not_mem_nil, or_false] at member
    rcases member with rfl | rfl | rfl | rfl
    · exact handle_put_long named puts beyond registry
    · exact handle_long evaluatesRule.path (if_pos evaluatesRule.method)
        (.evaluateRule written name again (lacks_of_long evaluatesRule.body beyond)) registry
    · exact handle_long evaluates.path (if_pos evaluates.method)
        (.evaluate (lacks_of_long evaluates.body beyond)) registry
    · exact handle_long compiles.path (if_pos compiles.method)
        (.compile (lacks_of_long compiles.body beyond)) registry
  · intro condition compiled fits
    simp only [List.forall_mem_cons] at fits
    obtain ⟨fitsPut, fitsStored, fitsDirect, -⟩ := fits
    exact compiled_agrees (asksPut fitsPut) (asksStored fitsStored) (asksDirect fitsDirect)
      registry elsewhere compiled
  · intro errors broken fits
    simp only [List.forall_mem_cons] at fits
    obtain ⟨fitsPut, fitsDirect, fitsCheck, -⟩ := fits
    exact broken_agrees (asksPut fitsPut) (asksDirect fitsDirect) (asksCheck fitsCheck)
      registry elsewhere broken

/-- A request with a document for its body. -/
def sent (method path body : String) : Request := ⟨method, path, some "application/json", body⟩

/-- A request for a rule to be put whose name is also a part of routes. -/
def putNamed (expression : String) : Request :=
  sent "PUT" "/api/rules/%65valuate" ("\x7b\"expression\": \"" ++ expression ++ "\"\x7d")

/-- A request for that rule to be evaluated on a record. -/
def evaluateNamed : Request :=
  sent "POST" "/api/rules/evaluate/evaluate" "\x7b\"record\": \x7b\"n\": \"many\"\x7d\x7d"

/-- A request for a condition to be evaluated on the same record. -/
def evaluateGiven (expression : String) : Request :=
  sent "POST" "/api/evaluate"
    ("\x7b\"record\": \x7b\"n\": \"many\"\x7d, \"expression\": \"" ++ expression ++ "\"\x7d")

/-- A request for a condition to be compiled. -/
def compileGiven (expression : String) : Request :=
  sent "POST" "/api/compile" ("\x7b\"expression\": \"" ++ expression ++ "\"\x7d")

/-- A request for a rule with a capital letter to be deleted. -/
def deleteOther : Request := ⟨"DELETE", "/api/rules/Evaluate", none, ""⟩

/-- The condition that is put. -/
def moreThanOne : Condition :=
  ⟨"n > 1", .comparison ⟨⟨"n", 0⟩, .numeric .greater (Decimal.toBinary64 false ⟨1, 0⟩)⟩⟩

/-- A rule that is put fails on a record as its condition does, also after another rule was
deleted. The rule is not put with half of the condition, and what is wrong with that half is shown
as it is when that half is compiled. -/
theorem stored_half_condition :
    (handle .empty (putNamed "n > 1")).1.status = 200 ∧
      (handle (run (handle .empty (putNamed "n > 1")).2 [deleteOther]) evaluateNamed).1 =
        (handle .empty (evaluateGiven "n > 1")).1 ∧
      (handle .empty (evaluateGiven "n > 1")).1 =
        outcomeResponse (.error (.literalParse ⟨"n", 0⟩ (.number .malformed))) ∧
      (handle .empty (putNamed "n >")).1 = (handle .empty (compileGiven "n >")).1 ∧
      (handle .empty (putNamed "n >")).2 = .empty := by
  have putPath : Route.ofPath? "/api/rules/%65valuate" = some (.rule "%65valuate".toList) := by
    decide +kernel
  have rulePath : Route.ofPath? "/api/rules/evaluate/evaluate" =
      some (.evaluateRule "evaluate".toList) := by decide +kernel
  have evaluatePath : Route.ofPath? "/api/evaluate" = some .evaluate := by decide +kernel
  have compilePath : Route.ofPath? "/api/compile" = some .compile := by decide +kernel
  have named : percentDecode? "%65valuate".toList = some "evaluate" := by decide +kernel
  have again : percentDecode? "evaluate".toList = some "evaluate" := by decide +kernel
  obtain ⟨onRecord, onRecordFits⟩ := carries_iff.mp
    (by decide +kernel : Carries evaluateNamed recordShape wordRecord)
  obtain ⟨putMore, putMoreFits⟩ := carries_iff.mp
    (by decide +kernel : Carries (putNamed "n > 1") compileShape "n > 1")
  obtain ⟨givenMore, givenMoreFits⟩ := carries_iff.mp
    (by decide +kernel : Carries (evaluateGiven "n > 1") evaluateShape ("n > 1", wordRecord))
  obtain ⟨compileMore, -⟩ := carries_iff.mp
    (by decide +kernel : Carries (compileGiven "n > 1") compileShape "n > 1")
  obtain ⟨putHalf, putHalfFits⟩ := carries_iff.mp
    (by decide +kernel : Carries (putNamed "n >") compileShape "n >")
  obtain ⟨givenHalf, givenHalfFits⟩ := carries_iff.mp
    (by decide +kernel : Carries (evaluateGiven "n >") evaluateShape ("n >", wordRecord))
  obtain ⟨compileHalf, compileHalfFits⟩ := carries_iff.mp
    (by decide +kernel : Carries (compileGiven "n >") compileShape "n >")
  have spared : ∀ request ∈ [deleteOther], Spares "evaluate" request := by
    have other : Asks deleteOther (.deleteRule "Evaluate") :=
      .deleteRule "Evaluate".toList _ (by decide +kernel) rfl (by decide +kernel)
    intro request member
    obtain rfl := List.mem_singleton.mp member
    exact ⟨fun _ asks => (nomatch asks_unique other asks),
      fun asks => absurd (Demand.deleteRule.inj (asks_unique other asks)) (by decide)⟩
  have compiled : Condition.compile "n > 1" = .ok moreThanOne := by decide +kernel
  have failed : moreThanOne.evaluate wordRecord =
      .error (.literalParse ⟨"n", 0⟩ (.number .malformed)) := by decide +kernel
  have broken : Condition.compile "n >" = .error [⟨.mismatched .endOfText .number, ⟨1, 3⟩⟩] := by
    decide +kernel
  obtain ⟨-, more, -⟩ := stored_agrees named again ⟨rfl, putPath, putMore⟩ ⟨rfl, rulePath, onRecord⟩
    ⟨rfl, evaluatePath, givenMore⟩ ⟨rfl, compilePath, compileMore⟩ .empty .empty
  obtain ⟨-, -, half⟩ := stored_agrees named again ⟨rfl, putPath, putHalf⟩ ⟨rfl, rulePath, onRecord⟩
    ⟨rfl, evaluatePath, givenHalf⟩ ⟨rfl, compilePath, compileHalf⟩ .empty .empty
  have allFit {one two three : Request} (fitsOne : Fits one) (fitsTwo : Fits two)
      (fitsThree : Fits three) : ∀ request ∈ [one, two, three], Fits request := by
    simp only [List.forall_mem_cons]
    exact ⟨fitsOne, fitsTwo, fitsThree, by simp⟩
  obtain ⟨success, shown, -, later⟩ :=
    more moreThanOne compiled (allFit putMoreFits onRecordFits givenMoreFits)
  obtain ⟨refused, checked, -, same⟩ := half _ broken
    (allFit putHalfFits givenHalfFits compileHalfFits)
  rw [failed] at shown
  exact ⟨success, later _ spared, shown, refused.trans checked.symm, same⟩

section Long

/-- The key of a condition is read off the front of the members of a body. -/
theorem next_key_expression (rest : List Char) :
    nextKey true ("\"expression\": \"".toList ++ rest) =
      .ok (some "expression", ": \"".toList ++ rest) := by
  have means : Means "expression".toList "expression".toList := means_plain (by decide)
  have space : skipSpace ("\"expression\": \"".toList ++ rest) =
      '"' :: ("expression".toList ++ '"' :: (": \"".toList ++ rest)) := rfl
  rw [nextKey, space]
  simp only [read_string means (": \"".toList ++ rest)]
  rfl

variable {content chars : List Char}

/-- Behind its key a condition is read as what it means. -/
theorem read_member_expression (means : Means content chars) (allowance : Nat)
    (rest : List Char) :
    compileShape.readMember allowance ⟨none, none⟩ "expression"
        (": \"".toList ++ (content ++ '"' :: rest)) =
      .ok (⟨some (String.ofList chars), none⟩, rest) := by
  have colon : skipColon (": \"".toList ++ (content ++ '"' :: rest)) =
      .ok (' ' :: '"' :: (content ++ '"' :: rest)) := rfl
  have space : skipSpace (' ' :: '"' :: (content ++ '"' :: rest)) =
      '"' :: (content ++ '"' :: rest) := rfl
  have known : compileShape.fields.find? (fun field => field.name == "expression") =
      some expressionField := rfl
  rw [Shape.readMember, known]
  simp only [expressionField, NamedField.make, colon, bind, Except.bind, readText, space,
    read_string means]
  rfl

/-- A body whose only member is a condition is a document of what the condition means. -/
theorem read_body_expression (means : Means content chars) :
    readDocument (compileShape.read maximumNesting)
        (String.ofList ("\x7b\"expression\": \"".toList ++ (content ++ ['"', '\x7d']))) =
      .ok (String.ofList chars) := by
  have members (bound : Nat) :
      readMembers (compileShape.readMember 126) (bound + 2) true compileShape.start
          ("\"expression\": \"".toList ++ (content ++ ['"', '\x7d'])) =
        .ok (⟨some (String.ofList chars), none⟩, ['\x7d']) := by
    have first : ⟨none, none⟩ = compileShape.start := rfl
    rw [readMembers, next_key_expression, ← first]
    simp only [bind, Except.bind, read_member_expression means 126 ['\x7d']]
    rw [readMembers]
    rfl
  have space : skipSpace ("\x7b\"expression\": \"".toList ++ (content ++ ['"', '\x7d'])) =
      '\x7b' :: ("\"expression\": \"".toList ++ (content ++ ['"', '\x7d'])) := rfl
  have long : ("\"expression\": \"".toList ++ (content ++ ['"', '\x7d'])).length + 1 =
      (content.length + 16) + 2 := by simp
  have whole : compileShape.read maximumNesting
      ("\x7b\"expression\": \"".toList ++ (content ++ ['"', '\x7d'])) =
        .ok (String.ofList chars, []) := by
    rw [Shape.read, space, maximumNesting]
    simp only [long, members]
    rfl
  rw [readDocument, String.toList_ofList, whole]
  rfl

/-- A condition that looks for so many letters in a row. -/
def longCondition (letters : Nat) : Expression :=
  .comparison ⟨⟨"x", 0⟩, .text .contains (String.ofList (List.replicate letters 'a'))⟩

/-- A condition is compiled however long it is. -/
theorem long_compiled (letters : Nat) :
    ∃ condition, Condition.compile (longCondition letters).normalText = .ok condition := by
  have named : Spelling.IsName "x".toList := by decide +kernel
  have plain : Association.ValidLiteral
      (.text .contains (String.ofList (List.replicate letters 'a'))) := by
    simp [Association.ValidLiteral, List.mem_replicate]
  have valid : ∀ leaf ∈ (longCondition letters).comparisons, Association.Valid leaf := by
    simp only [longCondition, Expression.comparisons, List.forall_mem_singleton]
    exact ⟨named, by simp, plain⟩
  obtain ⟨faultless, tree, derived, agrees⟩ := Association.derives_normal valid
  have shallow : tree.depth = 1 := by
    rw [← Columns.depth_unplaced, agrees]
    rfl
  have within : tree.depth ≤ 128 := by omega
  have read := (Recognition.parse_iff_derives _ tree).mpr ⟨faultless, derived, within⟩
  exact ⟨⟨_, tree⟩, (NormalText.compile_iff _ _).mpr ⟨rfl, read⟩⟩

/-- What stands for a long condition between the quotes of a string. -/
def longContent (letters : Nat) : List Char :=
  "x =~ ".toList ++ '\\' :: '"' :: (List.replicate letters 'a' ++ ['\\', '"'])

/-- It means the text of the condition. -/
theorem means_long (letters : Nat) : Means (longContent letters) (longCondition letters).chars := by
  have front : Means "x =~ ".toList "x =~ ".toList := means_plain (by decide)
  have repeated : Means (List.replicate letters 'a') (List.replicate letters 'a') := by
    apply means_plain
    rw [List.all_eq_true]
    intro char member
    rw [List.eq_of_mem_replicate member]
    decide
  have quote : Means ['\\', '"'] ['"'] := .escape '"' '"' [] [] rfl .finished
  have behind := means_append front (.escape '"' '"' _ _ rfl (means_append repeated quote))
  have text : (longCondition letters).chars =
      "x =~ ".toList ++ '"' :: (List.replicate letters 'a' ++ ['"']) := by
    simp [longCondition, Expression.chars, Comparison.chars, Test.chars, TextOperator.spelling]
  rw [text]
  exact behind

/-- A request for a rule with a long condition to be put. -/
def putLong (letters : Nat) : Request :=
  sent "PUT" "/api/rules/a"
    (String.ofList ("\x7b\"expression\": \"".toList ++ (longContent letters ++ ['"', '\x7d'])))

/-- A rule whose condition looks for 2097152 letters in a row is not put, though the condition is
compiled. -/
theorem long_condition_not_put :
    (∃ condition, Condition.compile (longCondition 2097152).normalText = .ok condition) ∧
      percentDecode? "a".toList = some "a" ∧
      Sends (putLong 2097152) "PUT" (.rule "a".toList) compileShape
        (longCondition 2097152).normalText ∧
      handle .empty (putLong 2097152) = (.bare 413, .empty) := by
  have named : percentDecode? "a".toList = some "a" := by decide +kernel
  have path : Route.ofPath? (putLong 2097152).path = some (.rule "a".toList) := by
    decide +kernel
  have typed : (some "application/json").any isJsonType = true := by decide +kernel
  have holds (letters : Nat) :
      Holds (putLong letters) compileShape (longCondition letters).normalText :=
    ⟨typed, read_body_expression (means_long letters)⟩
  have long (letters : Nat) : letters < (putLong letters).body.utf8ByteSize := by
    refine Nat.lt_of_lt_of_le ?_ (Utf8.length_le_size _)
    change letters <
      (_ ++ ((_ ++ '\\' :: '"' :: (List.replicate letters 'a' ++ _)) ++ _)).length
    simp only [List.length_append, List.length_cons, List.length_replicate]
    omega
  have beyond : ¬ Fits (putLong 2097152) := Nat.not_le.mpr (long 2097152)
  have puts : Sends (putLong 2097152) "PUT" (.rule "a".toList) compileShape
      (longCondition 2097152).normalText := ⟨rfl, path, holds _⟩
  exact ⟨long_compiled _, named, puts, handle_put_long named puts beyond .empty⟩

end Long

end RecordRules.Agreement
