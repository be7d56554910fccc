import RecordRules.Json.Container

/-!
# Skipping values

A member that no field of a structure is named after is passed over. What is skipped must be well
formed, but nothing is made of it: there is no limit on its nesting or on the range of a number,
and a code unit of an escape need not belong to a character.
-/

namespace RecordRules.Json

/-- A reader that only moves on. -/
abbrev Skipper := List Char → Except Failure (List Char)

/-- Passes over the rest of a string, behind its opening quote. The bound is the length of the
text. -/
def skipCharacters : Nat → Skipper
  | 0, _ => .error (.behind .endInString [])
  | bound + 1, text =>
    match text with
    | [] => .error (.behind .endInString [])
    | '"' :: rest => .ok rest
    | '\\' :: 'u' :: rest => do
      let (_, rest) ← readUnit rest
      skipCharacters bound rest
    | ['\\'] => .error (.behind .endInString [])
    | '\\' :: letter :: rest =>
      if (escaped? letter).isSome then skipCharacters bound rest
      else .error (.atNext .invalidEscape (letter :: rest))
    | char :: rest =>
      if char < ' ' then .error (.behind .controlCharacter (char :: rest))
      else skipCharacters bound rest

/-- Passes over the rest of a string, behind its opening quote. -/
def skipString : Skipper := fun text => skipCharacters (text.length + 1) text

/-- Passes over a power of ten behind its mark. -/
def skipPower : Skipper := fun text =>
  let text := if text.head? = some '-' ∨ text.head? = some '+' then text.tail else text
  if text.head?.any Char.isDigit then .ok (text.dropWhile Char.isDigit)
  else .error (.atNext .invalidNumber text)

/-- Passes over what may follow the digits of a number. -/
def skipScale : Skipper
  | 'e' :: rest => skipPower rest
  | 'E' :: rest => skipPower rest
  | rest => .ok rest

/-- Passes over a number behind its sign. -/
def skipUnsigned : Skipper
  | [] => .error (.behind .invalidNumber [])
  | first :: text =>
    if ¬ first.isDigit then .error (.atNext .invalidNumber (first :: text))
    else if first = '0' ∧ text.head?.any Char.isDigit then .error (.atNext .invalidNumber text)
    else
      match text.dropWhile Char.isDigit with
      | '.' :: rest =>
        if rest.head?.any Char.isDigit then skipScale (rest.dropWhile Char.isDigit)
        else .error (.atNext .invalidNumber rest)
      | rest => skipScale rest

/-- Passes over the rest of a list, behind an item. -/
def skipItems (value : Skipper) : Nat → Skipper
  | 0, text => .error (.atNext .endInList text)
  | bound + 1, text =>
    match skipSpace text with
    | [] => .error (.atNext .endInList [])
    | next :: rest =>
      if next = ']' then .ok rest
      else if next = ',' then do skipItems value bound (← value rest)
      else .error (.atNext .expectedListEnd (next :: rest))

/-- Passes over a member of an object, its key included. -/
def skipMember (value : Skipper) : Skipper := fun text =>
  match skipSpace text with
  | [] => .error (.atNext .endInObject [])
  | next :: rest =>
    if next = '"' then do value (← skipColon (← skipString rest))
    else .error (.atNext .keyNotString (next :: rest))

/-- Passes over the rest of an object, behind a member. -/
def skipMembers (value : Skipper) : Nat → Skipper
  | 0, text => .error (.atNext .endInObject text)
  | bound + 1, text =>
    match skipSpace text with
    | [] => .error (.atNext .endInObject [])
    | next :: rest =>
      if next = '\x7d' then .ok rest
      else if next = ',' then do skipMembers value bound (← skipMember value rest)
      else .error (.atNext .expectedObjectEnd (next :: rest))

/-- Passes over a list behind its opening bracket. -/
def skipList (value : Skipper) : Skipper := fun text =>
  match skipSpace text with
  | [] => .error (.atNext .endInList [])
  | ']' :: rest => .ok rest
  | text => do skipItems value text.length (← value text)

/-- Passes over an object behind its opening brace. -/
def skipObject (value : Skipper) : Skipper := fun text =>
  match skipSpace text with
  | [] => .error (.atNext .endInObject [])
  | '\x7d' :: rest => .ok rest
  | text => do skipMembers value text.length (← skipMember value text)

/-- Passes over a value in which containers are nested less deeply than the bound. -/
def skipWithin : Nat → Skipper
  | 0, text => .error (.atNext .endInValue text)
  | bound + 1, text =>
    match skipSpace text with
    | [] => .error (.atNext .endInValue [])
    | next :: rest =>
      if next = 'n' then (readWord () ['u', 'l', 'l'] rest).map Prod.snd
      else if next = 't' then (readWord () ['r', 'u', 'e'] rest).map Prod.snd
      else if next = 'f' then (readWord () ['a', 'l', 's', 'e'] rest).map Prod.snd
      else if next = '-' then skipUnsigned rest
      else if next.isDigit then skipUnsigned (next :: rest)
      else if next = '"' then skipString rest
      else if next = '[' then skipList (skipWithin bound) rest
      else if next = '\x7b' then skipObject (skipWithin bound) rest
      else .error (.atNext .expectedValue (next :: rest))

/-- Passes over a value. A text has less nesting than characters. -/
def skipValue : Skipper := fun text => skipWithin (text.length + 1) text

end RecordRules.Json
