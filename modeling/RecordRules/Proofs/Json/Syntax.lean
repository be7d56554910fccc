import RecordRules.Json.Literal

/-!
# The grammar of documents

A document is a value: a word, a number, a string, or a container with its parts between brackets.
The parts of a list are values, the parts of an object are values with keys, and blanks may stand
around every one of them.

The grammar says which texts are documents and nothing about what they mean. It has no limit on
nesting or on the range of a number, and a code unit of an escape need not belong to a character.
-/

namespace RecordRules.JsonSyntax

open Json

/-- Blanks between the parts of a document. -/
def Blank (text : List Char) : Prop := ∀ char ∈ text, isSpace char = true

/-- Decimal digits in a row, at least one. -/
structure Digits (text : List Char) : Prop where
  some : text ≠ []
  all : ∀ char ∈ text, char.isDigit = true

/-- An integer without a sign and without idle zeros at its front. -/
inductive Whole : List Char → Prop
  | zero : Whole ['0']
  | digits (first : Char) (rest : List Char) (digit : first.isDigit = true)
      (positive : first ≠ '0') (all : ∀ char ∈ rest, char.isDigit = true) : Whole (first :: rest)

/-- A fraction, or none. -/
inductive Fraction : List Char → Prop
  | none : Fraction []
  | digits (digits : List Char) (some : Digits digits) : Fraction ('.' :: digits)

/-- A power of ten behind its mark. -/
inductive SignedDigits : List Char → Prop
  | digits (sign digits : List Char) (signed : sign = [] ∨ sign = ['-'] ∨ sign = ['+'])
      (some : Digits digits) : SignedDigits (sign ++ digits)

/-- A power of ten with its mark, or none. -/
inductive Power : List Char → Prop
  | none : Power []
  | power (mark : Char) (text : List Char) (marks : mark = 'e' ∨ mark = 'E')
      (signed : SignedDigits text) : Power (mark :: text)

/-- A number. -/
inductive IsNumber : List Char → Prop
  | number (sign whole fraction power : List Char) (signed : sign = [] ∨ sign = ['-'])
      (wholes : Whole whole) (fractions : Fraction fraction) (powers : Power power) :
      IsNumber (sign ++ (whole ++ (fraction ++ power)))

/-- A hexadecimal digit, in either letter case. -/
def IsHexDigit (char : Char) : Prop :=
  char.isDigit = true ∨ ('a' ≤ char ∧ char ≤ 'f') ∨ ('A' ≤ char ∧ char ≤ 'F')

/-- The characters that a backslash may stand in front of, but for the mark of a code unit. -/
def escapeLetters : List Char := ['"', '\\', '/', 'b', 'f', 'n', 'r', 't']

/-- What stands between the quotes of a string. -/
inductive Content : List Char → Prop
  | finished : Content []
  | plain (char : Char) (rest : List Char) (noQuote : char ≠ '"') (noEscape : char ≠ '\\')
      (visible : ¬ char < ' ') (later : Content rest) : Content (char :: rest)
  | escape (letter : Char) (rest : List Char) (known : letter ∈ escapeLetters)
      (later : Content rest) : Content ('\\' :: letter :: rest)
  | unit (digits rest : List Char) (four : digits.length = 4)
      (hexadecimal : ∀ digit ∈ digits, IsHexDigit digit) (later : Content rest) :
      Content ('\\' :: 'u' :: (digits ++ rest))

/-- The two kinds of containers. -/
inductive Container
  | list
  | object

/-- The bracket that a container begins with. -/
def Container.opening : Container → Char
  | list => '['
  | object => '\x7b'

/-- The bracket that a container ends with. -/
def Container.closing : Container → Char
  | list => ']'
  | object => '\x7d'

/-- What a text is read as: a value, one part of a container with the blanks around it, or some
parts of a container with commas between them. -/
inductive Phrase
  | value
  | part (container : Container)
  | parts (container : Container)

/-- A text is a phrase of a document. -/
inductive Writes : Phrase → List Char → Prop
  | null : Writes .value ['n', 'u', 'l', 'l']
  | true : Writes .value ['t', 'r', 'u', 'e']
  | false : Writes .value ['f', 'a', 'l', 's', 'e']
  | number (text : List Char) (number : IsNumber text) : Writes .value text
  | string (content : List Char) (inside : Content content) :
      Writes .value ('"' :: (content ++ ['"']))
  | empty (container : Container) (blanks : List Char) (blank : Blank blanks) :
      Writes .value (container.opening :: (blanks ++ [container.closing]))
  | container (container : Container) (parts : List Char)
      (inside : Writes (.parts container) parts) :
      Writes .value (container.opening :: (parts ++ [container.closing]))
  | item (before value after : List Char) (blankBefore : Blank before)
      (written : Writes .value value) (blankAfter : Blank after) :
      Writes (.part .list) (before ++ (value ++ after))
  | member (before key between item : List Char) (blankBefore : Blank before)
      (inside : Content key) (blankBetween : Blank between)
      (written : Writes (.part .list) item) :
      Writes (.part .object) (before ++ '"' :: (key ++ '"' :: (between ++ ':' :: item)))
  | last (container : Container) (part : List Char) (written : Writes (.part container) part) :
      Writes (.parts container) part
  | more (container : Container) (part parts : List Char)
      (written : Writes (.part container) part) (later : Writes (.parts container) parts) :
      Writes (.parts container) (part ++ ',' :: parts)

/-- No characters are blanks. -/
theorem blank_nil : Blank [] := by simp [Blank]

/-- Blanks in a row are blanks. -/
theorem blank_append {first second : List Char} (one : Blank first) (two : Blank second) :
    Blank (first ++ second) := by
  intro char member
  rcases List.mem_append.mp member with before | behind
  · exact one char before
  · exact two char behind

/-- The characters at the front of a text that are skipped are blanks. -/
theorem blank_skipped (text : List Char) : Blank (text.takeWhile isSpace) :=
  List.all_eq_true.mp List.all_takeWhile

end RecordRules.JsonSyntax
