import RecordRules.Condition.Parsing

/-!
# What reading a condition leaves in place

Reading moves forward only: the words ahead are always an end of those that were ahead before, and
an error once noted stays noted. One relation between cursors says so. It holds of every single
step and is kept by steps in a row, so it holds from the beginning to the end of any reading,
whether or not the words make a condition.

No step is followed here to the tree that it returns.
-/

namespace RecordRules.Progress

open Text Parsing

/-- The second cursor can come of the first: nothing is read twice and no error is taken back. -/
structure Leads (before after : Cursor) : Prop where
  ahead : after.ahead <:+ before.ahead
  reported : before.reported <:+ after.reported
  finish : after.finish = before.finish

/-- Doing nothing leads nowhere else. -/
theorem leads_refl (cursor : Cursor) : Leads cursor cursor :=
  ⟨List.suffix_refl _, List.suffix_refl _, rfl⟩

/-- Steps in a row lead where one step would. -/
theorem leads_trans {first second third : Cursor} (one : Leads first second)
    (two : Leads second third) : Leads first third :=
  ⟨two.ahead.trans one.ahead, one.reported.trans two.reported, two.finish.trans one.finish⟩

/-- Reading a word. -/
theorem leads_advance (cursor : Cursor) : Leads cursor cursor.advance :=
  ⟨List.tail_suffix _, List.suffix_refl _, rfl⟩

/-- Noting an error. -/
theorem leads_report (cursor : Cursor) (cause : SyntaxError.Cause) (place : Place) :
    Leads cursor (cursor.report cause place) :=
  ⟨List.suffix_refl _, List.suffix_cons _ _, rfl⟩

/-- Noting a mismatch and skipping what cannot be read behind it. -/
theorem leads_mismatch (cursor : Cursor) (expected : Expected) :
    Leads cursor (cursor.mismatch expected) :=
  ⟨List.dropWhile_suffix _, List.suffix_cons _ _, rfl⟩

/-- Giving up leaves no word ahead. -/
theorem leads_abandon (cursor : Cursor) (place : Place) : Leads cursor (cursor.abandon place) :=
  ⟨List.nil_suffix, List.suffix_cons _ _, rfl⟩

/-- Reading or missing a closing parenthesis. -/
theorem leads_close (cursor : Cursor) : Leads cursor cursor.close := by
  unfold Cursor.close
  split
  · exact leads_advance cursor
  · exact leads_report cursor _ _

/-- A comparison, whether or not its words make one. -/
theorem leads_comparison (field : FieldReference) (cursor : Cursor) :
    Leads cursor (comparison field cursor).2 := by
  unfold comparison
  split
  · exact leads_mismatch cursor _
  · split
    · exact leads_mismatch cursor _
    · dsimp only
      split
      · exact leads_trans (leads_advance cursor) (leads_advance _)
      · exact leads_trans (leads_advance cursor) (leads_mismatch _ _)

/-- A chain of links leads on if each of its operands does. -/
theorem leads_links {reader : Cursor → Result}
    (leads : ∀ cursor, Leads cursor (reader cursor).2) (rounds : Nat) (left : Option Expression)
    (cursor : Cursor) : Leads cursor (links reader rounds left cursor).2 := by
  induction rounds generalizing left cursor with
  | zero => exact leads_refl cursor
  | succ rounds inductionHypothesis =>
    rw [links]
    split
    · have read : Leads cursor (reader cursor.advance).2 :=
        leads_trans (leads_advance cursor) (leads _)
      dsimp only
      split
      · split
        · exact leads_trans read (leads_abandon _ _)
        · exact leads_trans read (inductionHypothesis _ _)
      · exact leads_trans read (inductionHypothesis _ _)
    · exact leads_refl cursor

/-- A chain leads on if each of its operands does. -/
theorem leads_chain {reader : Cursor → Result}
    (leads : ∀ cursor, Leads cursor (reader cursor).2) (cursor : Cursor) :
    Leads cursor (chain reader cursor).2 :=
  leads_trans (leads cursor) (leads_links leads _ _ _)

/-- Ending a group. -/
theorem leads_group (place : Place) (inner : Result) : Leads inner.2 (group place inner).2 := by
  obtain ⟨tree, cursor⟩ := inner
  simp only [group]
  split
  · exact leads_refl cursor
  · split
    · exact leads_close cursor
    · split
      · exact leads_trans (leads_close cursor) (leads_abandon _ _)
      · exact leads_close cursor

/-- An operand, however many parentheses may be opened in it. -/
theorem leads_operand (allowance : Nat) (cursor : Cursor) :
    Leads cursor (operand allowance cursor).2 := by
  induction allowance generalizing cursor with
  | zero =>
    unfold operand
    split
    · exact leads_abandon cursor _
    · exact leads_trans (leads_advance cursor) (leads_comparison _ _)
    · exact leads_mismatch cursor _
  | succ allowance inductionHypothesis =>
    unfold operand
    split
    · exact leads_trans (leads_advance cursor)
        (leads_trans (leads_chain inductionHypothesis _) (leads_group _ _))
    · exact leads_trans (leads_advance cursor) (leads_comparison _ _)
    · exact leads_mismatch cursor _

/-- Between two cursors of which the second leads to a third, no error was noted if none was noted
between the first and the third. -/
theorem reported_between {first second third : Cursor} (one : Leads first second)
    (two : Leads second third) (silent : third.reported = first.reported) :
    second.reported = first.reported ∧ third.reported = second.reported := by
  have back : third.reported <:+ second.reported := silent ▸ one.reported
  have same : third.reported = second.reported := back.eq_of_length_le two.reported.length_le
  exact ⟨same.symm.trans silent, same⟩

end RecordRules.Progress
