import RecordRules.Condition.Lexeme

/-!
# Pieces of a condition's text

A text is cut into *pieces*: runs of blanks, words, and stretches that are no words. The pieces
in a row are the text, whatever it is, so nothing is lost and every piece begins where those
before it end. A stretch that is no word is one character long, except that an unterminated
literal takes all that is left.
-/

namespace RecordRules

open Number Text Lexeme

/-- What a piece of a text is. -/
inductive Piece.Content
  | blank
  | word (kind : Token.Kind)
  | fault (cause : SyntaxError.Cause)

/-- A piece of a text: some characters of it in a row, and what they are. -/
structure Piece where
  chars : List Char
  content : Piece.Content

namespace Piece

/-- The operator or parenthesis that a text begins with, its characters, and what is behind. -/
def splitSymbol : List Char → Option (Token.Kind × List Char × List Char)
  | '(' :: behind => some (.opening, ['('], behind)
  | ')' :: behind => some (.closing, [')'], behind)
  | '>' :: '=' :: behind => some (.atLeast, ['>', '='], behind)
  | '>' :: behind => some (.greater, ['>'], behind)
  | '<' :: '=' :: behind => some (.atMost, ['<', '='], behind)
  | '<' :: behind => some (.less, ['<'], behind)
  | '=' :: '=' :: behind => some (.equal, ['=', '='], behind)
  | '=' :: '~' :: behind => some (.contains, ['=', '~'], behind)
  | '!' :: '=' :: behind => some (.notEqual, ['!', '='], behind)
  | '!' :: '~' :: behind => some (.excludes, ['!', '~'], behind)
  | _ => none

/-- The text literal behind an opening quote. -/
def ofText (rest : List Char) : Piece × List Char :=
  match splitText rest with
  | some (content, behind) =>
    (⟨'"' :: content ++ ['"'], .word (.text (String.ofList content))⟩, behind)
  | none => (⟨'"' :: rest, .fault (.unrecognized (String.ofList ('"' :: rest)))⟩, [])

/-- The list literal that a text begins with. -/
def ofList (text : List Char) : Piece × List Char :=
  match splitList 0 .bare text with
  | some (literal, behind) => (⟨literal, .word (.list (String.ofList literal))⟩, behind)
  | none => (⟨text, .fault .unterminatedList⟩, [])

/-- The number that a sign and a text make. -/
def ofNumber (sign text : List Char) : Piece × List Char :=
  let (digits, behind) := splitNumber text
  match Binary64.read (sign ++ digits) with
  | .ok value => (⟨sign ++ digits, .word (.number value)⟩, behind)
  | .error fault =>
    (⟨sign ++ digits, .fault (.invalidNumber (String.ofList (sign ++ digits)) fault)⟩, behind)

/-- The keyword or field that a text begins with. A `not` is a field of that name unless an `in`
follows it. -/
def ofWord (text : List Char) : Piece × List Char :=
  let word := text.takeWhile continuesWord
  let behind := text.dropWhile continuesWord
  let field : Piece := ⟨word, .word (.field (String.ofList word))⟩
  if spells word "and" then (⟨word, .word (.connective .and)⟩, behind)
  else if spells word "or" then (⟨word, .word (.connective .or)⟩, behind)
  else if spells word "in" then (⟨word, .word .among⟩, behind)
  else if spells word "notin" then (⟨word, .word .notAmong⟩, behind)
  else if spells word "not" then
    match splitIn behind with
    | some (consumed, behind) => (⟨word ++ consumed, .word .notAmong⟩, behind)
    | none => (field, behind)
  else (field, behind)

/-- The first piece of a text that is not empty, and the text behind it. -/
def split (first : Char) (rest : List Char) : Piece × List Char :=
  if isBlank first then
    (⟨first :: rest.takeWhile isBlank, .blank⟩, rest.dropWhile isBlank)
  else
    match splitSymbol (first :: rest) with
    | some (kind, chars, behind) => (⟨chars, .word kind⟩, behind)
    | none =>
      if first = '"' then ofText rest
      else if first = '[' then ofList (first :: rest)
      else if first.isDigit then ofNumber [] (first :: rest)
      else if (first = '-' ∨ first = '+') ∧ rest.head?.any Char.isDigit then
        ofNumber [first] rest
      else if beginsWord first then ofWord (first :: rest)
      else (⟨[first], .fault (.unrecognized (String.singleton first))⟩, rest)

/-- A symbol and what is behind it make up the text. -/
theorem eq_of_splitSymbol {text chars behind : List Char} {kind : Token.Kind}
    (split : splitSymbol text = some (kind, chars, behind)) :
    text = chars ++ behind ∧ chars ≠ [] := by
  unfold splitSymbol at split
  split at split
  all_goals
    simp only [Option.some.injEq, Prod.mk.injEq, reduceCtorEq] at split
  all_goals
    obtain ⟨_, rfl, rfl⟩ := split
    simp

theorem ofText_append (rest : List Char) :
    (ofText rest).1.chars ++ (ofText rest).2 = '"' :: rest ∧ (ofText rest).1.chars ≠ [] := by
  unfold ofText
  split
  · rename_i content behind found
    simp [eq_of_splitText found]
  · simp

theorem ofList_append (first : Char) (rest : List Char) :
    (ofList (first :: rest)).1.chars ++ (ofList (first :: rest)).2 = first :: rest ∧
      (ofList (first :: rest)).1.chars ≠ [] := by
  unfold ofList
  split
  · rename_i literal behind found
    refine ⟨(eq_of_splitList found).symm, ?_⟩
    intro nothing
    simp only at nothing
    subst nothing
    simp only [splitList, splitList.extend] at found
    split at found
    · simp at found
    · split at found
      · simp at found
      · split at found
        · split at found <;> simp at found
        · simp at found
  · simp

theorem ofNumber_append (sign text : List Char) :
    (ofNumber sign text).1.chars ++ (ofNumber sign text).2 = sign ++ text := by
  unfold ofNumber
  have whole := splitNumber_append text
  simp only
  split <;> simp [List.append_assoc, whole]

theorem ofNumber_ne_nil (sign text : List Char)
    (starts : sign ≠ [] ∨ text.takeWhile Char.isDigit ≠ []) :
    (ofNumber sign text).1.chars ≠ [] := by
  unfold ofNumber
  simp only
  split <;> simp [splitNumber] <;> rcases starts with signed | digits <;> simp_all

theorem ofWord_append (text : List Char) :
    (ofWord text).1.chars ++ (ofWord text).2 = text := by
  unfold ofWord
  simp only
  repeat' split
  case h_1 found =>
    simp [List.append_assoc, ← eq_of_splitIn found]
  all_goals simp

theorem ofWord_ne_nil (text : List Char) (starts : text.takeWhile continuesWord ≠ []) :
    (ofWord text).1.chars ≠ [] := by
  unfold ofWord
  simp only
  repeat' split
  all_goals simp_all

/-- The first piece of a text and what is behind it make up the text, and it is not empty. -/
theorem split_append (first : Char) (rest : List Char) :
    (split first rest).1.chars ++ (split first rest).2 = first :: rest ∧
      (split first rest).1.chars ≠ [] := by
  unfold split
  by_cases blank : isBlank first = true
  · simp [blank]
  · simp only [blank, if_neg, Bool.false_eq_true, not_false_eq_true]
    split
    · rename_i found
      obtain ⟨whole, some⟩ := eq_of_splitSymbol found
      exact ⟨whole.symm, some⟩
    · split
      · rename_i quote
        subst quote
        exact ofText_append rest
      · split
        · exact ofList_append first rest
        · split
          · rename_i digit
            refine ⟨ofNumber_append [] (first :: rest), ofNumber_ne_nil [] _ (.inr ?_)⟩
            simp [digit]
          · split
            · exact ⟨ofNumber_append [first] rest, ofNumber_ne_nil _ _ (.inl (by simp))⟩
            · split
              · rename_i begins
                refine ⟨ofWord_append _, ofWord_ne_nil _ ?_⟩
                have goesOn : continuesWord first = true := by
                  simp only [beginsWord, Bool.or_eq_true] at begins
                  simp only [continuesWord, Bool.or_eq_true]
                  rcases begins with letter | line
                  · exact .inl (.inl letter)
                  · exact .inr line
                simp [goesOn]
              · simp

/-- What is behind the first piece is shorter than the text. -/
theorem length_split_lt (first : Char) (rest : List Char) :
    (split first rest).2.length < (first :: rest).length := by
  obtain ⟨whole, some⟩ := split_append first rest
  rw [← whole, List.length_append]
  have positive := List.length_pos_iff.mpr some
  omega

end Piece

/-- The pieces of a text, one behind the other. -/
def pieces : List Char → List Piece
  | [] => []
  | first :: rest => (Piece.split first rest).1 :: pieces (Piece.split first rest).2
termination_by text => text.length
decreasing_by exact Piece.length_split_lt first rest

/-- The pieces of a text in a row are the text. -/
theorem flatMap_chars_pieces (text : List Char) :
    (pieces text).flatMap Piece.chars = text := by
  induction text using pieces.induct with
  | case1 => simp [pieces]
  | case2 first rest inductionHypothesis =>
    rw [pieces, List.flatMap_cons, inductionHypothesis]
    exact (Piece.split_append first rest).1

end RecordRules
