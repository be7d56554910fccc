import Mathlib.Data.List.Induction
import RecordRules.Text.Place

/-!
# Places are counted

The place behind some characters is found by walking over them one by one. It can be counted as
well: its line is the number of line ends among the characters and one more, and its column is the
number of characters behind the last line end. Neither grows faster than the text, and every
character moves the place ahead, so a place belongs to at most one offset of a text.
-/

namespace RecordRules.Text.Place

/-- The place behind some characters at the beginning of a text, by counting: one line for every
line end and one more, and one column for every character behind the last line end. -/
def behind (before : List Char) : Place :=
  ⟨1 + before.count '\n', (before.reverse.takeWhile fun char => char != '\n').length⟩

/-- Walking over characters leads to the place that is counted. -/
theorem after_start (before : List Char) : start.after before = behind before := by
  induction before using List.reverseRecOn with
  | nil => rfl
  | append_singleton before char inductionHypothesis =>
    rw [after_append, inductionHypothesis, after_cons, after_nil]
    by_cases ending : char = '\n'
    · simp [step, behind, ending, Nat.add_assoc]
    · simp [step, behind, ending]

/-- Behind more characters is the place that walking over these leads to. -/
theorem behind_append (before chars : List Char) :
    behind (before ++ chars) = (behind before).after chars := by
  rw [← after_start, ← after_start, after_append]

/-- Every character adds at most one to the line and the column together, since a new line begins
at the column zero. -/
theorem after_bound (place : Place) (chars : List Char) :
    (place.after chars).line + (place.after chars).column ≤
      place.line + place.column + chars.length := by
  induction chars generalizing place with
  | nil => exact Nat.le_refl _
  | cons char rest inductionHypothesis =>
    have rest := inductionHypothesis (place.step char)
    have first : (place.step char).line + (place.step char).column ≤
        place.line + place.column + 1 := by
      unfold step
      split <;> dsimp only <;> omega
    rw [after_cons, List.length_cons]
    omega

/-- The line and the column behind some characters are no more than the characters and one. -/
theorem behind_bound (before : List Char) :
    (behind before).line + (behind before).column ≤ before.length + 1 := by
  have bound := after_bound start before
  rw [after_start] at bound
  have beginning : start.line + start.column = 1 := rfl
  omega

/-- A place comes before another one: in an earlier line, or in the same line further left. -/
def Before (left right : Place) : Prop :=
  left.line < right.line ∨ left.line = right.line ∧ left.column < right.column

/-- Every character moves the place ahead. -/
theorem before_step (place : Place) (char : Char) : Before place (place.step char) := by
  unfold step Before
  split <;> dsimp only <;> omega

/-- Some characters move the place ahead. -/
theorem before_after (place : Place) {chars : List Char} (some : chars ≠ []) :
    Before place (place.after chars) := by
  induction chars generalizing place with
  | nil => exact absurd rfl some
  | cons char rest inductionHypothesis =>
    have first := before_step place char
    rw [after_cons]
    by_cases more : rest = []
    · rw [more]
      exact first
    · have later := inductionHypothesis (place.step char) more
      unfold Before at first later ⊢
      omega

/-- A place of a text has one offset only: two beginnings of a text that end at the same place are
the same. -/
theorem behind_injective {text before other : List Char} (one : before <+: text)
    (two : other <+: text) (same : behind before = behind other) : before = other := by
  have longer : ∀ {short long : List Char}, short <+: long → behind short = behind long →
      short = long := by
    rintro short _ ⟨more, rfl⟩ same
    by_cases none : more = []
    · rw [none, List.append_nil]
    · have ahead := before_after (behind short) none
      rw [← behind_append, ← same] at ahead
      unfold Before at ahead
      omega
  rcases List.prefix_or_prefix_of_prefix one two with shorter | shorter
  · exact longer shorter same
  · exact (longer shorter same.symm).symm

end RecordRules.Text.Place
