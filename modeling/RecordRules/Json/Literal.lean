import RecordRules.Json.Reader
import RecordRules.Text.Percent

/-!
# Strings of a document

A string stands between double quotes. Control characters are refused in it, and a backslash
begins an escape: a letter for a character, or four hexadecimal digits for a code unit of sixteen
bits. A leading surrogate and the trailing one that must follow it make one character.
-/

namespace RecordRules.Json

open Text

/-- The value of hexadecimal digits, the first one counting most. -/
def hexValue? (digits : List Char) : Option Nat :=
  digits.foldl (fun value digit => do return 16 * (← value) + (← hexadecimal? digit)) (some 0)

/-- A code unit: the next four bytes, which must be hexadecimal digits. -/
def readUnit (text : List Char) : Except Failure (Nat × List Char) :=
  if (bytes text).length < 4 then .error (.behind .endInString [])
  else
    match hexValue? (text.take 4) with
    | some unit => .ok (unit, text.drop 4)
    | none => .error { Failure.behind .invalidEscape text with ahead := 4 }

/-- The character of a pair of surrogates. -/
def surrogatePair (leading trailing : Nat) : Char :=
  Char.ofNat (0x10000 + (leading - 0xD800) * 0x400 + (trailing - 0xDC00))

/-- The trailing surrogate that must follow a leading one. -/
def readTrailing (leading : Nat) : List Char → Except Failure (Char × List Char)
  | '\\' :: 'u' :: text => do
    let (trailing, rest) ← readUnit text
    if 0xDC00 ≤ trailing ∧ trailing ≤ 0xDFFF then
      .ok (surrogatePair leading trailing, rest)
    else .error (.behind .loneSurrogate rest)
  | [] => .error (.behind .endInString [])
  | ['\\'] => .error (.behind .endInString [])
  | '\\' :: text => .error (.atNext .unexpectedEndOfEscape text)
  | text => .error (.atNext .unexpectedEndOfEscape text)

/-- A character given by code units of sixteen bits. -/
def readCodePoint (text : List Char) : Except Failure (Char × List Char) := do
  let (unit, rest) ← readUnit text
  if 0xDC00 ≤ unit ∧ unit ≤ 0xDFFF then .error (.behind .loneSurrogate rest)
  else if 0xD800 ≤ unit ∧ unit ≤ 0xDBFF then readTrailing unit rest
  else .ok (Char.ofNat unit, rest)

/-- The character that a letter stands for after a backslash. -/
def escaped? : Char → Option Char
  | '"' => some '"'
  | '\\' => some '\\'
  | '/' => some '/'
  | 'b' => some '\x08'
  | 'f' => some '\x0c'
  | 'n' => some '\n'
  | 'r' => some '\r'
  | 't' => some '\t'
  | _ => none

/-- The character of an escape, behind its backslash. -/
def readEscape : List Char → Except Failure (Char × List Char)
  | [] => .error (.behind .endInString [])
  | 'u' :: text => readCodePoint text
  | letter :: text =>
    match escaped? letter with
    | some char => .ok (char, text)
    | none => .error (.atNext .invalidEscape (letter :: text))

/-- The characters of a string behind its opening quote, and the text behind its closing one.
The bound is the length of the text: every character of the string takes one or more of it. -/
def readCharacters : Nat → Reader (List Char)
  | 0, _ => .error (.behind .endInString [])
  | bound + 1, text =>
    match text with
    | [] => .error (.behind .endInString [])
    | '"' :: rest => .ok ([], rest)
    | '\\' :: escape => do
      let (char, rest) ← readEscape escape
      let (chars, rest) ← readCharacters bound rest
      return (char :: chars, rest)
    | char :: rest =>
      if char < ' ' then .error (.atNext .controlCharacter (char :: rest))
      else do
        let (chars, rest) ← readCharacters bound rest
        return (char :: chars, rest)

/-- A string behind its opening quote. -/
def readString (text : List Char) : Except Failure (String × List Char) := do
  let (chars, rest) ← readCharacters (text.length + 1) text
  return (String.ofList chars, rest)

end RecordRules.Json
