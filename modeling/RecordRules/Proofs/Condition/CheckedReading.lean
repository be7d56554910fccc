import RecordRules.Proofs.Condition.Moves
import RecordRules.Proofs.Condition.Passes

/-!
# No check fails on the way through a text

Reading a text by its offsets and its words one step at a time has checks that could fail: counting
lines and columns in 32 bits, closing a bracket, cutting a slice out of the text, taking a run of
digits for a number, looking at the words by an index, and closing a parenthesis. In a text that is
not too long to be counted none of them does, whatever is written there, and what is read is what
the recursion over the pieces of the text reads.
-/

namespace RecordRules.CheckedReading

open Text Progress Stages Offsets Passes Calls Returns Moves Segments

/-- Every number up to the length of a text that is not too long can be counted on. -/
theorem count32_of_short {text : List Char} (short : text.length < 2 ^ 32 - 1) :
    ∀ number ≤ text.length, count32 number = some (number + 1) := by
  intro number within
  have fits : number + 1 < UInt32.size := by
    rw [UInt32.size]
    omega
  rw [count32, if_pos fits]

/-- No error of a scan is about a number. -/
theorem scanned_numbers {before ahead : List Char} {words : List Token} {faults : List SyntaxError}
    (segmented : Segmented before ahead words faults) :
    ∀ fault ∈ faults, ∀ text reason, fault.cause ≠ .invalidNumber text reason := by
  intro fault member text reason
  rcases cause_of_segmented segmented fault member with ⟨quoted, cause⟩ | cause
  all_goals simp [cause]

/-- The words are followed by the end of the text, which is nowhere else. -/
theorem entries_end (scan : Scan) :
    ∃ words last, entries scan = words ++ [last] ∧ last.kind = none ∧
      ∀ word ∈ words, word.kind ≠ none := by
  refine ⟨_, _, rfl, rfl, ?_⟩
  intro word member
  obtain ⟨token, -, rfl⟩ := List.mem_map.mp member
  simp [Entry.ofToken]

/-- Wherever steps lead, the index is inside the entries and another step can be made. -/
theorem reaches_inside {scan : Scan} {calls : Nat} {here : Configuration}
    (reaches : Reaches (entries scan) .start calls here) :
    here.state.index < (entries scan).length ∧ ∃ next, step (entries scan) here = some next := by
  obtain ⟨sound, -⟩ := reaches_sound reaches
  obtain ⟨next, made, -⟩ := step_moves sound
  refine ⟨?_, next, made⟩
  have inside := sound.valid.inside
  simp only [entries, List.length_append, List.length_map, List.length_singleton]
  omega

/-- What a text is compiled to is what the steps lead to at the end. -/
theorem exists_finished (source : String) :
    ∃ calls tree state,
      Reaches (entries (Scan.ofText source.toList)) .start calls ⟨.finished tree, [], state⟩ ∧
      Condition.compile source =
        match tree, SyntaxError.inOrder
          ((Scan.ofText source.toList).faults ++ state.reported.reverse) with
        | some root, [] => .ok ⟨source, root⟩
        | _, errors => .error errors := by
  obtain ⟨calls, reaches⟩ := arrives_finished (Scan.ofText source.toList)
  refine ⟨calls, _, _, reaches, ?_⟩
  have read : Expression.parse source =
      match (Task.chain.read maximumDepth (.start (Scan.ofText source.toList))).1,
        SyntaxError.inOrder ((Scan.ofText source.toList).faults ++
          (Task.chain.read maximumDepth
            (.start (Scan.ofText source.toList))).2.finished.reported.reverse) with
      | some root, [] => .ok root
      | _, errors => .error errors := rfl
  rw [Condition.compile, read]
  dsimp only [seen]
  generalize (Task.chain.read maximumDepth (.start (Scan.ofText source.toList))).1 = tree
  generalize SyntaxError.inOrder _ = errors
  cases tree with
  | none => rfl
  | some root => cases errors <;> rfl

/-- In a text of fewer than `2 ^ 32 - 1` characters no check fails. Passes over it come to its words
and its errors, so every line and column fits into 32 bits, a bracket is open wherever one is
closed, every slice lies in the text, and every run of digits is a number: no error is about one.
The words are followed by the end of the text and by nothing else, the index is inside these
entries wherever steps lead, and another step can be made, so a parenthesis is open wherever one is
closed. The steps come to the end and to what the text is compiled to. -/
theorem reading_checked (source : String) (short : source.length < 2 ^ 32 - 1) :
    tokens? count32 (.start source.toList) =
      some (entries (Scan.ofText source.toList), (Scan.ofText source.toList).faults) ∧
    (∀ fault ∈ (Scan.ofText source.toList).faults,
      ∀ text reason, fault.cause ≠ .invalidNumber text reason) ∧
    (∃ words last, entries (Scan.ofText source.toList) = words ++ [last] ∧ last.kind = none ∧
      ∀ word ∈ words, word.kind ≠ none) ∧
    (∀ calls here, Reaches (entries (Scan.ofText source.toList)) .start calls here →
      here.state.index < (entries (Scan.ofText source.toList)).length ∧
      ∃ next, step (entries (Scan.ofText source.toList)) here = some next) ∧
    ∃ calls tree state,
      Reaches (entries (Scan.ofText source.toList)) .start calls ⟨.finished tree, [], state⟩ ∧
      Condition.compile source =
        match tree, SyntaxError.inOrder
          ((Scan.ofText source.toList).faults ++ state.reported.reverse) with
        | some root, [] => .ok ⟨source, root⟩
        | _, errors => .error errors := by
  have length : source.toList.length < 2 ^ 32 - 1 := by
    rw [String.length_toList]
    exact short
  exact ⟨tokens_text (count32_of_short length),
    scanned_numbers (segmented_text source.toList), entries_end _,
    fun _ _ => reaches_inside, exists_finished source⟩

/-- Brackets inside a list and inside a text in it, a sign and a point, and stretches that are no
words. -/
def mixedSource : String := "a in [[1], \"]\"]\n and b = -2.5 #\"c"

/-- Passes over a text with all of these find its words and its errors, a first step can be made in
front of them, and the steps come to the end. -/
theorem mixed_source_checked :
    (tokens? count32 (.start mixedSource.toList)).map
        (fun found => (found.1.map Entry.text, found.2)) =
      some (["a", "in", "[[1], \"]\"]", "and", "b", "-2.5", "<EOF>"],
        [⟨.unrecognized "=", ⟨2, 7⟩⟩, ⟨.unrecognized "#", ⟨2, 14⟩⟩,
          ⟨.unrecognized "\"c", ⟨2, 15⟩⟩]) ∧
    (∃ next, step (entries (Scan.ofText mixedSource.toList)) .start = some next) ∧
    ∃ calls tree state,
      Reaches (entries (Scan.ofText mixedSource.toList)) .start calls
        ⟨.finished tree, [], state⟩ := by
  obtain ⟨passes, -, -, inside, calls, tree, state, reaches, -⟩ :=
    reading_checked mixedSource (by decide)
  refine ⟨?_, (inside 0 .start (.here .start)).2, calls, tree, state, reaches⟩
  rw [passes]
  decide +kernel

end RecordRules.CheckedReading
