import RecordRules.Settings.Basic
import RecordRules.Text.Alphabetic
import RecordRules.Text.Blank
import RecordRules.Text.Numeral

/-!
# Environment files

A file may give values to variables that have none yet, one a line. A value may be quoted and may
mention variables that already have a value. A line that is not well formed ends the file; the
lines above it count.
-/

namespace RecordRules.EnvironmentFile

open Text

/-- Where a value is read: outside quotes, within single or double ones, or behind its end. -/
inductive Region
  | bare
  | single
  | double
  | behind
  deriving DecidableEq

/-- What the next character of a value belongs to: to the text, to an escape, or to the name of a
variable, which is kept in reverse. -/
inductive Part
  | text
  | escape
  | name (reversed : List Char)
  | braced (reversed : List Char)
  deriving DecidableEq

/-- A value that is partly read: its text in reverse, and where it goes on. -/
structure PartialValue where
  reversed : List Char
  region : Region
  part : Part

namespace PartialValue

/-- Nothing is read. -/
def start : PartialValue := ⟨[], .bare, .text⟩

/-- Goes on with the text behind one more character. -/
def push (value : PartialValue) (char : Char) : PartialValue :=
  { value with reversed := char :: value.reversed, part := .text }

/-- Goes on in a region. -/
def enter (value : PartialValue) (region : Region) : PartialValue :=
  { value with region, part := .text }

/-- Puts the value of a variable behind the text; one without a value adds nothing. -/
def substitute (environment : Environment) (value : PartialValue) (reversedName : List Char) :
    PartialValue :=
  let found := (environment.get? (String.ofList reversedName.reverse)).getD ""
  { value with reversed := found.toList.reverse ++ value.reversed, part := .text }

/-- The character that an escape stands for. -/
def escaped? (char : Char) : Option Char :=
  if char = 'n' then some '\n'
  else if ['\\', '\'', '"', '$', ' '].contains char then some char
  else none

/-- Whether a character belongs to the name of a variable that is mentioned. -/
def isNameChar (char : Char) : Bool := isAlphabetic char || isNumeral char

/-- Reads one character of text. -/
def readText (value : PartialValue) (char : Char) : PartialValue :=
  match value.region, char with
  | .single, '\'' => value.enter .bare
  | .single, _ => value.push char
  | _, '$' => { value with part := .name [] }
  | _, '\\' => { value with part := .escape }
  | .double, '"' => value.enter .bare
  | .double, _ => value.push char
  | _, '\'' => value.enter .single
  | _, '"' => value.enter .double
  | _, ' ' | _, '\t' => value.enter .behind
  | _, _ => value.push char

/-- Reads one character. The character behind a bare name is text, whatever it is, unless another
name begins with it. -/
def read (environment : Environment) (value : PartialValue) (char : Char) : Option PartialValue :=
  match value.part with
  | .text => some (value.readText char)
  | .escape => (escaped? char).map value.push
  | .name reversed =>
    if isNameChar char then some { value with part := .name (char :: reversed) }
    else if char = '{' ∧ reversed = [] then some { value with part := .braced [] }
    else
      let value := value.substitute environment reversed
      if char = '$' then some { value with part := .name [] } else some (value.push char)
  | .braced reversed =>
    if char = '}' then some (value.substitute environment reversed)
    else some { value with part := .braced (char :: reversed) }

/-- The text of a value that ends here, if it may. -/
def finish? (environment : Environment) (value : PartialValue) : Option String :=
  match value.region, value.part with
  | .single, _ | .double, _ | _, .braced _ => none
  | _, .name reversed =>
    some (String.ofList (value.substitute environment reversed).reversed.reverse)
  | _, _ => some (String.ofList value.reversed.reverse)

end PartialValue

/-- Goes on reading a value. Behind its end there are only blanks and a comment. -/
def continueValue? (environment : Environment) (value : PartialValue) :
    List Char → Option String
  | [] => value.finish? environment
  | char :: rest =>
    if value.region = .behind then
      if char = ' ' ∨ char = '\t' then continueValue? environment value rest
      else if char = '#' then value.finish? environment
      else none
    else do continueValue? environment (← value.read environment char) rest

/-- The value that a text writes. -/
def value? (environment : Environment) (text : List Char) : Option String :=
  match text with
  | [] | '#' :: _ => some ""
  | _ => continueValue? environment .start text

/-- The name at the beginning of a text, and the text behind it and the blanks that follow. -/
def name? (text : List Char) : Option (String × List Char) :=
  let name := text.takeWhile fun char => char.isAlphanum || char == '_' || char == '.'
  match name with
  | first :: _ =>
    if first.isAlpha || first == '_' then
      some (String.ofList name, (text.drop name.length).dropWhile isBlank)
    else none
  | [] => none

/-- The text behind an equals sign and the blanks that follow. -/
def behindEquals? : List Char → Option (List Char)
  | '=' :: rest => some (rest.dropWhile isBlank)
  | _ => none

/-- The name and the value of a line that is neither blank nor a comment. The word for exporting
may stand in front of the name, and is a name itself. -/
def binding? (environment : Environment) (line : List Char) : Option (String × String) := do
  let (name, rest) ← name? line
  match behindEquals? rest with
  | some value => return (name, ← value? environment value)
  | none =>
    if name = "export" then
      let (name, rest) ← name? rest
      return (name, ← value? environment (← behindEquals? rest))
    else none

/-- A line without the blanks at its ends. -/
def trim (line : List Char) : List Char :=
  ((line.reverse.dropWhile isBlank).reverse).dropWhile isBlank

/-- Gives a variable a value unless it has one. -/
def bind (environment : Environment) (name value : String) : Environment :=
  match environment.get? name with
  | some _ => environment
  | none => environment.insert name value

/-- An environment with the variables that lines add to it. A line that is no text ends the file
too. -/
def addLines (environment : Environment) : List (Option String) → Environment
  | [] | none :: _ => environment
  | some line :: lines =>
    match trim line.toList with
    | [] | '#' :: _ => addLines environment lines
    | line =>
      match binding? environment line with
      | some (name, value) => addLines (bind environment name value) lines
      | none => environment

/-- The names of variables that a text may mention: its words, where a word has either the
characters of a name that is mentioned or those of a name that is given a value. -/
def names (text : String) : List String :=
  let words (belongs : Char → Bool) : List String :=
    ((text.toList.splitOnP fun char => !belongs char).filter (· ≠ [])).map String.ofList
  words PartialValue.isNameChar ++
    words fun char => PartialValue.isNameChar char || char == '_' || char == '.'

/-- An environment with the variables that the bytes of a file add to it. -/
def addTo (environment : Environment) (bytes : List UInt8) : Environment :=
  addLines environment
    ((bytes.splitOn '\n'.toUInt8).map fun line => String.fromUTF8? ⟨line.toArray⟩)

example : binding? .empty "export A = \"b c\" # d".toList = some ("A", "b c") := by decide +kernel

example : binding? .empty "A=b c".toList = none := by decide +kernel

end RecordRules.EnvironmentFile
