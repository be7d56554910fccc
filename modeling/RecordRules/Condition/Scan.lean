import RecordRules.Condition.Piece

/-!
# From text to words

The words and the errors of a text are read off its pieces, each with the place at which its
piece begins. A text that is no condition still has words, so that every error in it can be
reported and not only the first.
-/

namespace RecordRules

open Text

/-- The words of a text, its stretches that are no words, and the place where it ends. -/
structure Scan where
  tokens : List Token
  faults : List SyntaxError
  finish : Place

namespace Scan

/-- Adds a piece that begins at a place in front of what comes behind it. -/
def prepend (place : Place) (piece : Piece) (behind : Scan) : Scan :=
  match piece.content with
  | .blank => behind
  | .word kind =>
    { behind with tokens := ⟨kind, String.ofList piece.chars, place⟩ :: behind.tokens }
  | .fault cause => { behind with faults := ⟨cause, place⟩ :: behind.faults }

/-- The words and errors of pieces of which the first begins at a place. -/
def ofPieces (place : Place) : List Piece → Scan
  | [] => ⟨[], [], place⟩
  | piece :: others => prepend place piece (ofPieces (place.after piece.chars) others)

/-- The words and errors of a text. -/
def ofText (text : List Char) : Scan := ofPieces .start (pieces text)

/-- A text ends at the place behind all of its characters. -/
theorem finish_ofPieces (place : Place) (pieces : List Piece) :
    (ofPieces place pieces).finish = place.after (pieces.flatMap Piece.chars) := by
  induction pieces generalizing place with
  | nil => rfl
  | cons piece others inductionHypothesis =>
    simp only [ofPieces, List.flatMap_cons, Place.after_append]
    rw [← inductionHypothesis]
    unfold prepend
    split <;> rfl

end Scan

end RecordRules
