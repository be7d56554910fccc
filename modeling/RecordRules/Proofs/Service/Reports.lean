import RecordRules.Proofs.Rules.Batches
import RecordRules.Proofs.Service.Naming

/-!
# Evaluating rules at once and one by one

A registry reports of all its rules what it says of each of them when it is asked for one, and the
service shows both in the same way: the document for one rule is the member for it in the document
for all of them. Only the status tells a result from a failure, since the document for all rules has
the status of success whatever comes of them.
-/

namespace RecordRules.Reports

open Text Percent Service Demands Naming Agreement Batches Blame

section Registry

variable (registry : Registry) (record : Record)

/-- A rule that is reported is evaluated to what is reported, and no other rule is. -/
theorem evaluate_eq_iff (name : String) (result : Outcome) :
    registry.evaluate name record = result.mapError .evaluation ↔
      ⟨name, result⟩ ∈ registry.evaluateAll record := by
  rw [reported_iff, Registry.evaluate]
  cases registry.get? name with
  | none => cases result <;> simp [Except.mapError]
  | some condition =>
    simp only [Option.some.injEq, exists_eq_left']
    cases condition.evaluate record <;> cases result <;> simp [Except.mapError]

/-- A rule is unknown exactly if its name is not registered. -/
theorem evaluate_unknown_iff (name other : String) :
    registry.evaluate name record = .error (.unknownRule other) ↔
      other = name ∧ name ∉ registry.names := by
  rw [Table.mem_names_iff, Registry.evaluate]
  cases registry.get? name with
  | none => simp [eq_comm]
  | some condition =>
    simp only [Option.isSome_some, not_true_eq_false, and_false, iff_false]
    cases condition.evaluate record <;> simp [Except.mapError]

end Registry

/-- A member of a document for all rules belongs to this response for one of them. -/
inductive Member : Json → Response → Prop
  | result (value : Bool) :
      Member (.object [("result", .boolean value)])
        (.document 200 (.object [("result", .boolean value)]))
  | failure (error : EvaluationError) :
      Member (.object [("error", evaluationErrorBody error)])
        (.document 422 (.object [("error", evaluationErrorBody error)]))

/-- What comes of an evaluation is shown alike as a member and as a response. -/
theorem member_outcome (outcome : Outcome) :
    Member (outcomeBody outcome) (outcomeResponse outcome) := by
  cases outcome with
  | ok value => exact .result value
  | error error => exact .failure error

section Addresses

variable {segment : List Char} {name : String} {record : Record} {request : Request}

/-- A segment that stands for the empty name is empty. -/
theorem segment_eq_nil (named : percentDecode? segment = some "") : segment = [] := by
  have noBytes : percentBytes segment = [] := by
    rw [percentDecode?, String.fromUTF8?] at named
    split at named
    · have bytes : (percentBytes segment).toArray = #[] :=
        congrArg (fun text => text.toByteArray.data) (Option.some.inj named)
      exact congrArg Array.toList bytes
    · cases named
  rw [percentBytes.eq_def] at noBytes
  split at noBytes
  · split at noBytes
    · cases noBytes
    · exact absurd (List.append_eq_nil_iff.mp noBytes).1 String.utf8EncodeChar_ne_nil
  · exact absurd (List.append_eq_nil_iff.mp noBytes).1 String.utf8EncodeChar_ne_nil
  · rfl

/-- A path where a rule is evaluated has a segment for its name that is not empty. -/
theorem segment_ne_nil {path : String} (leads : Route.ofPath? path = some (.evaluateRule segment)) :
    segment ≠ [] := by
  rintro rfl
  unfold Route.ofPath? at leads
  split at leads
  · split_ifs at leads
    split at leads
    · split_ifs at leads <;> cases leads
    · split_ifs at leads <;> cases leads
    · rename_i name action _
      split_ifs at leads with refused
      obtain rfl : name = [] := Route.evaluateRule.inj (Option.some.inj leads)
      exact refused (.inr (.inl rfl))
    · cases leads
  · cases leads

/-- No request asks for a rule of the empty name to be evaluated. -/
theorem name_of_asks (asks : Asks request (.evaluateRule name record)) : name ≠ "" := by
  rintro rfl
  cases asks with
  | evaluateRule segment _ _ leads method named body =>
    exact segment_ne_nil leads (segment_eq_nil named)

/-- A request with a record in its body asks for a rule of any other name to be evaluated on it, if
it is sent there instead. -/
theorem asks_written (some : name ≠ "") (asks : Asks request (.evaluateRules record)) :
    Asks { request with path := evaluationPath (percentEncode name) }
      (.evaluateRule name record) := by
  have encodes : Encodes (percentEncode name) name := ⟨plain_encode name, decode_encode name⟩
  cases asks with
  | evaluateRules _ leads method body =>
    exact .evaluateRule _ name record (route_evaluation encodes.plain (encodes.ne_nil some)) method
      encodes.named body

end Addresses

/-- All rules are reported in the order of their names, each once, and with what comes of evaluating
it alone. A rule is unknown exactly if it is not reported. A request for all rules to be evaluated
on a record is answered with a member for each name, each once, and a request for one of these rules
to be evaluated on the same record is answered with this member as its document, with the status 200
if it is a result and 422 if it is a failure. Such a request can be made for every name that is not
empty, and for no other. -/
theorem batch_agrees (registry : Registry) (record : Record) :
    ((registry.evaluateAll record).map RuleOutcome.rule = registry.names ∧
      (∀ name other, registry.evaluate name record = .error (.unknownRule other) ↔
        other = name ∧ name ∉ (registry.evaluateAll record).map RuleOutcome.rule) ∧
      ∀ outcome ∈ registry.evaluateAll record,
        registry.evaluate outcome.rule record = outcome.result.mapError .evaluation) ∧
    ∀ batch, Asks batch (.evaluateRules record) →
      ∃ members, handle registry batch = (.document 200 (.object members), registry) ∧
        members.map Prod.fst = registry.names ∧ registry.names.Nodup ∧
        (∀ name body, (name, body) ∈ members →
          ∀ single, Asks single (.evaluateRule name record) →
            Member body (handle registry single).1) ∧
        ∀ name, (∃ single, Asks single (.evaluateRule name record)) ↔ name ≠ "" := by
  refine ⟨⟨batch_names registry record, ?_, ?_⟩, ?_⟩
  · intro name other
    rw [batch_names]
    exact evaluate_unknown_iff registry record name other
  · intro outcome reported
    exact (evaluate_eq_iff registry record _ _).mpr reported
  · intro batch asks
    refine ⟨(registry.evaluateAll record).map fun outcome =>
      (outcome.rule, outcomeBody outcome.result), ?_, ?_, ?_, ?_, ?_⟩
    · rw [handle_acted asks (by simp), answer, evaluateRules]
    · rw [List.map_map]
      exact batch_names registry record
    · exact registry.pairwise_names.imp String.ne_of_lt
    · intro name body member single alone
      obtain ⟨⟨rule, result⟩, reported, same⟩ := List.mem_map.mp member
      obtain ⟨rfl, rfl⟩ := Prod.mk.inj same
      obtain ⟨condition, found, rfl⟩ := (reported_iff registry record _ _).mp reported
      rw [handle_acted alone (by simp), answer, evaluate_rule_found found]
      exact member_outcome _
    · intro name
      constructor
      · rintro ⟨single, alone⟩
        exact name_of_asks alone
      · intro some
        exact ⟨_, asks_written some asks⟩

/-- A request for all rules to be evaluated on the record of one word. -/
def evaluateAllOnWord : Request :=
  sent "POST" "/api/rules/evaluate" "\x7b\"record\": \x7b\"n\": \"many\"\x7d\x7d"

/-- One of two rules fails on the record and the other does not hold. The first has a slash in its
name, and its member in the document for both rules is the document for it alone. -/
theorem mixed_batch :
    let registry : Registry :=
      .ofList [("y", (listedRule "y" "x in [1]" .among).condition), ("a/b", moreThanOne)]
    let single : Request :=
      { evaluateAllOnWord with path := evaluationPath (percentEncode "a/b") }
    registry.evaluate "a/b" wordRecord =
        .error (.evaluation (.literalParse ⟨"n", 0⟩ (.number .malformed))) ∧
      registry.evaluate "a" wordRecord = .error (.unknownRule "a") ∧
      (handle registry single).1.status = 422 ∧
      ∃ members, (handle registry evaluateAllOnWord).1 = .document 200 (.object members) ∧
        members.map Prod.fst = ["a/b", "y"] ∧
        ∃ body, ("a/b", body) ∈ members ∧ Member body (handle registry single).1 := by
  intro registry single
  have asks : Asks evaluateAllOnWord (.evaluateRules wordRecord) :=
    .evaluateRules wordRecord (by decide +kernel) rfl (by decide +kernel)
  have alone : Asks single (.evaluateRule "a/b" wordRecord) := asks_written (by decide) asks
  have names : registry.names = ["a/b", "y"] := by decide +kernel
  obtain ⟨⟨-, unknown, -⟩, batch⟩ := batch_agrees registry wordRecord
  obtain ⟨members, answered, listed, -, belongs, -⟩ := batch evaluateAllOnWord asks
  rw [names] at listed
  obtain ⟨⟨name, body⟩, member, rfl⟩ : ∃ entry ∈ members, entry.1 = "a/b" :=
    List.mem_map.mp (by rw [listed]; exact List.mem_cons_self)
  refine ⟨by decide +kernel, (unknown "a" "a").mpr ⟨rfl, ?_⟩, by decide +kernel, members, ?_, listed,
    body, member, belongs _ body member single alone⟩
  · rw [batch_names, names]
    decide
  · rw [answered]

end RecordRules.Reports
