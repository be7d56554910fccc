/-!
# Places in a text

A place is what a reader is told: a line, counted from one, and a column, counted in characters
from zero. The place after a run of characters depends on the run only, so the place of anything
in a text is the place after everything before it.
-/

namespace RecordRules.Text

/-- A line and a column of a text. -/
structure Place where
  line : Nat
  column : Nat
  deriving DecidableEq

namespace Place

/-- Where every text begins. -/
def start : Place := ⟨1, 0⟩

/-- The place behind one character. -/
def step (place : Place) (char : Char) : Place :=
  if char = '\n' then ⟨place.line + 1, 0⟩ else ⟨place.line, place.column + 1⟩

/-- The place behind a run of characters. -/
def after (place : Place) (chars : List Char) : Place := chars.foldl step place

/-- An earlier line comes first, and in one line an earlier column. -/
def atMost (left right : Place) : Bool :=
  decide (left.line < right.line) ||
    (decide (left.line = right.line) && decide (left.column ≤ right.column))

@[simp] theorem after_nil (place : Place) : place.after [] = place := rfl

theorem after_cons (place : Place) (char : Char) (chars : List Char) :
    place.after (char :: chars) = (place.step char).after chars := rfl

/-- Two runs in a row lead where their concatenation does. -/
theorem after_append (place : Place) (first second : List Char) :
    place.after (first ++ second) = (place.after first).after second := by
  simp [after, List.foldl_append]

end Place

end RecordRules.Text
