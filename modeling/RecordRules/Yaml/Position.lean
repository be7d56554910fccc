/-!
# Positions in a YAML text

A position holds what is left of the text and how far it is from the start of the text and of its
line. Indentation is structure in this notation, so the column matters. Five characters end a
line; a carriage return and a line feed in a row end one line together.
-/

namespace RecordRules.Yaml

/-- What is left of a text, and where that begins. -/
structure Position where
  rest : List Char
  index : Nat
  line : Nat
  column : Nat

/-- A character that ends a line. -/
def isBreak (char : Char) : Bool :=
  char == '\n' || char == '\r' || char == '\u0085' || char == '\u2028' || char == '\u2029'

/-- A blank within a line. -/
def isBlank (char : Char) : Bool := char == ' ' || char == '\t'

/-- A character that may appear in a text at all. -/
def isPrintable (char : Char) : Bool :=
  char == '\t' || char == '\n' || char == '\r' || (' ' ≤ char && char ≤ '~') ||
    char == '\u0085' || ('\u00A0' ≤ char && char ≤ '\uFFFD') || decide (0x10000 ≤ char.toNat)

/-- A character of a name: an unaccented letter, a digit, an underscore or a hyphen. -/
def isNameChar (char : Char) : Bool := char.isAlphanum || char == '_' || char == '-'

/-- What a line break is read as: the separators of lines and paragraphs stand for themselves, and
every other one is a line feed. -/
def breakText (char : Char) : Char :=
  if char == '\u2028' || char == '\u2029' then char else '\n'

/-- The end of a text, a blank or a line break begins it. -/
def startsBlank : List Char → Bool
  | [] => true
  | char :: _ => isBlank char || isBreak char

/-- The end of a text or a line break begins it. -/
def startsBreak : List Char → Bool
  | [] => true
  | char :: _ => isBreak char

namespace Position

/-- The start of a text. -/
def start (text : List Char) : Position := ⟨text, 0, 0, 0⟩

/-- The next character. -/
def next? (position : Position) : Option Char := position.rest.head?

/-- Whether the next character is of some kind. -/
def sees (position : Position) (kind : Char → Bool) : Bool := position.rest.head?.any kind

/-- The position so many characters further on in the same line. -/
def skip (position : Position) (count : Nat) : Position :=
  ⟨position.rest.drop count, position.index + count, position.line, position.column + count⟩

/-- The position behind characters of some kind, none of which ends a line. -/
def skipWhile (position : Position) (kind : Char → Bool) : Position :=
  position.skip (position.rest.takeWhile kind).length

/-- The position behind the line break ahead, if there is one. -/
def skipBreak (position : Position) : Position :=
  match position.rest with
  | '\r' :: '\n' :: rest => ⟨rest, position.index + 2, position.line + 1, 0⟩
  | char :: rest =>
    if isBreak char then ⟨rest, position.index + 1, position.line + 1, 0⟩ else position
  | [] => position

/-- What the line break ahead is read as, if there is one. -/
def breakAhead (position : Position) : List Char :=
  match position.rest with
  | char :: _ => if isBreak char then [breakText char] else []
  | [] => []

/-- Whether a marker that starts or ends a document stands here: three hyphens or three points
at the start of a line, and nothing more in the word. -/
def seesMarker (position : Position) (char : Char) : Bool :=
  position.column == 0 && position.rest.take 3 == [char, char, char] &&
    startsBlank (position.rest.drop 3)

/-- Whether a marker of either kind stands here. -/
def seesAnyMarker (position : Position) : Bool :=
  position.seesMarker '-' || position.seesMarker '.'

end Position

end RecordRules.Yaml
