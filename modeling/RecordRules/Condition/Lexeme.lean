import RecordRules.Condition.SyntaxError
import RecordRules.Condition.Token
import RecordRules.Text.Alphabetic
import RecordRules.Text.Blank
import RecordRules.Text.Numeral

/-!
# Where words of a condition end

Each function here splits a text that begins with a certain kind of word into that word and what
is behind it. Nothing is lost: the two parts make up the text again. A number takes a sign and a
fraction only if a digit follows them. A list ends at the bracket that closes its first one, where
brackets inside strings do not count.
-/

namespace RecordRules.Lexeme

open Text

/-- Characters that a word of letters may begin with. -/
def beginsWord (char : Char) : Bool := isAlphabetic char || char == '_'

/-- Characters that a word of letters may go on with. -/
def continuesWord (char : Char) : Bool := isAlphabetic char || isNumeral char || char == '_'

/-- Whether a word is a keyword in some letter case. Keywords have basic letters only, and no
other character has one of theirs for its lower case. -/
def spells (word : List Char) (keyword : String) : Bool :=
  decide (word.map Char.toLower = keyword.toList)

/-- The content of a text literal behind its opening quote, up to its closing quote, and what is
behind that, if there is a closing quote. -/
def splitText : List Char → Option (List Char × List Char)
  | [] => none
  | char :: rest =>
    if char = '"' then some ([], rest)
    else (splitText rest).map fun (content, behind) => (char :: content, behind)

/-- How much of a list literal is open: only brackets, or also a string, of which the next
character may be escaped. -/
inductive ListMode
  | bare
  | inString
  | escaped

/-- A list literal up to the bracket that closes it, of which `depth` brackets are open, and what
is behind it, if all of them are closed. -/
def splitList (depth : Nat) : ListMode → List Char → Option (List Char × List Char)
  | _, [] => none
  | .escaped, char :: rest => extend char (splitList depth .inString rest)
  | .inString, char :: rest =>
    if char = '\\' then extend char (splitList depth .escaped rest)
    else if char = '"' then extend char (splitList depth .bare rest)
    else extend char (splitList depth .inString rest)
  | .bare, char :: rest =>
    if char = '"' then extend char (splitList depth .inString rest)
    else if char = '[' then extend char (splitList (depth + 1) .bare rest)
    else if char = ']' then
      if depth = 1 then some ([char], rest) else extend char (splitList (depth - 1) .bare rest)
    else extend char (splitList depth .bare rest)
where
  /-- Puts a character in front of the first part of a split. -/
  extend (char : Char) (split : Option (List Char × List Char)) :
      Option (List Char × List Char) :=
    split.map fun (literal, behind) => (char :: literal, behind)

/-- A fraction with at least one digit, if the text begins with one. -/
def splitFraction (text : List Char) : List Char × List Char :=
  match text with
  | '.' :: rest =>
    if rest.takeWhile Char.isDigit = [] then ([], text)
    else ('.' :: rest.takeWhile Char.isDigit, rest.dropWhile Char.isDigit)
  | _ => ([], text)

/-- Digits and a fraction. -/
def splitNumber (text : List Char) : List Char × List Char :=
  let (fraction, behind) := splitFraction (text.dropWhile Char.isDigit)
  (text.takeWhile Char.isDigit ++ fraction, behind)

/-- The blanks and the word `in` behind a `not`, if that is what follows. -/
def splitIn (text : List Char) : Option (List Char × List Char) :=
  let blanks := text.takeWhile isBlank
  let behind := text.dropWhile isBlank
  let word := behind.takeWhile continuesWord
  if blanks ≠ [] ∧ spells word "in" then some (blanks ++ word, behind.dropWhile continuesWord)
  else none

/-- A text literal and what is behind it make up the text, but for the closing quote. -/
theorem eq_of_splitText {text content behind : List Char}
    (split : splitText text = some (content, behind)) : text = content ++ '"' :: behind := by
  induction text generalizing content with
  | nil => simp [splitText] at split
  | cons char rest inductionHypothesis =>
    simp only [splitText] at split
    split at split
    · rename_i isQuote
      simp only [Option.some.injEq, Prod.mk.injEq] at split
      simp [← split.1, ← split.2, isQuote]
    · simp only [Option.map_eq_some_iff, Prod.mk.injEq, Prod.exists] at split
      obtain ⟨later, _, found, rfl, rfl⟩ := split
      simp [inductionHypothesis found]

/-- A list literal and what is behind it make up the text. -/
theorem eq_of_splitList {depth : Nat} {mode : ListMode} {text literal behind : List Char}
    (split : splitList depth mode text = some (literal, behind)) : text = literal ++ behind := by
  induction text generalizing depth mode literal with
  | nil => cases mode <;> simp [splitList] at split
  | cons char rest inductionHypothesis =>
    have extended : ∀ {newDepth : Nat} {newMode : ListMode},
        splitList.extend char (splitList newDepth newMode rest) = some (literal, behind) →
          char :: rest = literal ++ behind := by
      intro newDepth newMode found
      simp only [splitList.extend, Option.map_eq_some_iff, Prod.mk.injEq, Prod.exists] at found
      obtain ⟨later, _, found, rfl, rfl⟩ := found
      simp [inductionHypothesis found]
    cases mode with
    | escaped => exact extended split
    | inString =>
      simp only [splitList] at split
      split at split
      · exact extended split
      · split at split <;> exact extended split
    | bare =>
      simp only [splitList] at split
      split at split
      · exact extended split
      · split at split
        · exact extended split
        · split at split
          · split at split
            · simp only [Option.some.injEq, Prod.mk.injEq] at split
              simp [← split.1, ← split.2]
            · exact extended split
          · exact extended split

/-- A fraction and what is behind it make up the text. -/
theorem splitFraction_append (text : List Char) :
    (splitFraction text).1 ++ (splitFraction text).2 = text := by
  unfold splitFraction
  split
  · split <;> simp
  · simp

/-- A number and what is behind it make up the text. -/
theorem splitNumber_append (text : List Char) :
    (splitNumber text).1 ++ (splitNumber text).2 = text := by
  simp [splitNumber, splitFraction_append, List.append_assoc]

/-- What makes a `not` a `not in`, and what is behind that, make up the text. -/
theorem eq_of_splitIn {text consumed behind : List Char}
    (split : splitIn text = some (consumed, behind)) : text = consumed ++ behind := by
  simp only [splitIn] at split
  split at split
  · simp only [Option.some.injEq, Prod.mk.injEq] at split
    simp [← split.1, ← split.2, List.append_assoc]
  · simp at split

end RecordRules.Lexeme
