import RecordRules.Condition.SyntaxError

/-!
# What messages say

A message about the writing of a condition has one of a few forms, and its form tells its cause:
which error it is, and which part of the text it quotes. No form begins like another one, and what
is quoted stands between two fixed texts, of which the one behind it can be found from the end.
-/

namespace RecordRules.Wording

open Number SyntaxError

section Forms

variable (text : String) (found : Found)

@[simp] theorem message_unrecognized :
    (Cause.unrecognized text).message = "token recognition error at: '" ++ text ++ "'" := rfl

@[simp] theorem message_unterminated_list :
    Cause.unterminatedList.message = "unterminated array literal" := rfl

@[simp] theorem message_invalid_number (fault : NumberFault) :
    (Cause.invalidNumber text fault).message =
      "invalid number '" ++ text ++ "': " ++ fault.message := rfl

@[simp] theorem message_mismatched (expected : Expected) :
    (Cause.mismatched found expected).message =
      "mismatched input '" ++ found.message ++ "' expecting " ++ expected.message := rfl

@[simp] theorem message_missing_closing :
    (Cause.missingClosing found).message = "missing ')' at '" ++ found.message ++ "'" := rfl

@[simp] theorem message_extraneous :
    (Cause.extraneous found).message =
      "extraneous input '" ++ found.message ++ "' expecting <EOF>" := rfl

@[simp] theorem message_nested_too_deeply :
    Cause.nestedTooDeeply.message = "expression nested too deeply" := rfl

end Forms

/-- The first four letters of the message of a cause, by which it is known. -/
def beginning : Cause → List Char
  | .unrecognized _ => ['t', 'o', 'k', 'e']
  | .unterminatedList => ['u', 'n', 't', 'e']
  | .invalidNumber _ _ => ['i', 'n', 'v', 'a']
  | .mismatched _ _ => ['m', 'i', 's', 'm']
  | .missingClosing _ => ['m', 'i', 's', 's']
  | .extraneous _ => ['e', 'x', 't', 'r']
  | .nestedTooDeeply => ['e', 'x', 'p', 'r']

/-- The message of a cause begins with these letters. -/
theorem take_message (cause : Cause) : cause.message.toList.take 4 = beginning cause := by
  cases cause <;> simp only [message_unrecognized, message_unterminated_list,
    message_invalid_number, message_mismatched, message_missing_closing, message_extraneous,
    message_nested_too_deeply, String.toList_append, String.append_assoc] <;> rfl

/-- A cause is known by the text that its message begins with. -/
theorem beginning_eq {cause : Cause} {start rest : String} {letters : List Char}
    (same : cause.message = start ++ rest) (begins : start.toList.take 4 = letters)
    (four : letters.length = 4) : beginning cause = letters := by
  have long : 4 ≤ start.toList.length := by
    rw [← begins, List.length_take] at four
    omega
  rw [← take_message, same, String.toList_append, List.take_append_of_le_length long, begins]

/-- What stands in front of the same text at the end is the same. -/
theorem append_left_cancel {front other back : String} (same : front ++ back = other ++ back) :
    front = other := by
  have chars := congrArg String.toList same
  simp only [String.toList_append, List.append_left_inj] at chars
  exact String.toList_inj.mp chars

/-- What stands behind the same text at the beginning is the same. -/
theorem append_right_cancel {front back other : String} (same : front ++ back = front ++ other) :
    back = other := by
  have chars := congrArg String.toList same
  simp only [String.toList_append, List.append_right_inj] at chars
  exact String.toList_inj.mp chars

/-- The last two characters of what may stand at a place tell what it is. -/
theorem expected_of_end {expected another : Expected}
    (same : expected.message.toList.reverse.take 2 = another.message.toList.reverse.take 2) :
    expected = another := by
  revert same
  cases expected <;> cases another <;> decide

/-- What may stand at a place is shown by more than two characters. -/
theorem expected_long (expected : Expected) : 2 ≤ expected.message.toList.reverse.length := by
  cases expected <;> decide

/-- What a mismatch quotes and what may stand there instead can be told apart from the end. -/
theorem expecting_unique {quoted other : String} {expected another : Expected}
    (same : quoted ++ ("' expecting " ++ expected.message) =
      other ++ ("' expecting " ++ another.message)) : quoted = other ∧ expected = another := by
  have ends := congrArg (fun text => text.toList.reverse.take 2) same
  simp only [String.toList_append, List.reverse_append, List.append_assoc,
    List.take_append_of_le_length (expected_long _)] at ends
  obtain rfl := expected_of_end ends
  exact ⟨append_left_cancel same, rfl⟩

section Readings

variable {cause : Cause} {text : String}

/-- The message about characters that begin no word tells which characters they are. -/
theorem message_unrecognized_iff :
    cause.message = "token recognition error at: '" ++ text ++ "'" ↔
      cause = .unrecognized text := by
  refine ⟨fun same => ?_, by rintro rfl; simp⟩
  have front : beginning cause = ['t', 'o', 'k', 'e'] :=
    beginning_eq (same.trans String.append_assoc) rfl rfl
  cases cause with
  | unrecognized other => rw [append_right_cancel (append_left_cancel same)]
  | _ => simp [beginning] at front

/-- The message about a list without an end tells that there is one. -/
theorem message_unterminated_list_iff :
    cause.message = "unterminated array literal" ↔ cause = .unterminatedList := by
  refine ⟨fun same => ?_, by rintro rfl; simp⟩
  have front : beginning cause = ['u', 'n', 't', 'e'] :=
    beginning_eq (same.trans String.append_empty.symm) rfl rfl
  cases cause with
  | unterminatedList => rfl
  | _ => simp [beginning] at front

/-- The message about a mismatch tells what was found and what may stand there instead. -/
theorem message_mismatched_iff {expected : Expected} :
    cause.message = "mismatched input '" ++ text ++ "' expecting " ++ expected.message ↔
      ∃ found, cause = .mismatched found expected ∧ found.message = text := by
  refine ⟨fun same => ?_, by rintro ⟨found, rfl, rfl⟩; simp⟩
  rw [String.append_assoc, String.append_assoc] at same
  have front : beginning cause = ['m', 'i', 's', 'm'] := beginning_eq same rfl rfl
  cases cause with
  | mismatched found another =>
    rw [message_mismatched, String.append_assoc, String.append_assoc] at same
    obtain ⟨quoted, rfl⟩ := expecting_unique (append_right_cancel same)
    exact ⟨found, rfl, quoted⟩
  | _ => simp [beginning] at front

/-- The message about a missing parenthesis tells what was found. -/
theorem message_missing_closing_iff :
    cause.message = "missing ')' at '" ++ text ++ "'" ↔
      ∃ found, cause = .missingClosing found ∧ found.message = text := by
  refine ⟨fun same => ?_, by rintro ⟨found, rfl, rfl⟩; simp⟩
  have front : beginning cause = ['m', 'i', 's', 's'] :=
    beginning_eq (same.trans String.append_assoc) rfl rfl
  cases cause with
  | missingClosing found =>
    exact ⟨found, rfl, append_right_cancel (append_left_cancel same)⟩
  | _ => simp [beginning] at front

/-- The message about words that are left over tells what was found. -/
theorem message_extraneous_iff :
    cause.message = "extraneous input '" ++ text ++ "' expecting <EOF>" ↔
      ∃ found, cause = .extraneous found ∧ found.message = text := by
  refine ⟨fun same => ?_, by rintro ⟨found, rfl, rfl⟩; simp⟩
  have front : beginning cause = ['e', 'x', 't', 'r'] :=
    beginning_eq (same.trans String.append_assoc) rfl rfl
  cases cause with
  | extraneous found =>
    exact ⟨found, rfl, append_right_cancel (append_left_cancel same)⟩
  | _ => simp [beginning] at front

/-- The message about depth tells that a condition is too deep. -/
theorem message_nested_too_deeply_iff :
    cause.message = "expression nested too deeply" ↔ cause = .nestedTooDeeply := by
  refine ⟨fun same => ?_, by rintro rfl; simp⟩
  have front : beginning cause = ['e', 'x', 'p', 'r'] :=
    beginning_eq (same.trans String.append_empty.symm) rfl rfl
  cases cause with
  | nestedTooDeeply => rfl
  | _ => simp [beginning] at front

end Readings

end RecordRules.Wording
