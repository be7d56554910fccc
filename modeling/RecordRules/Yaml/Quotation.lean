import RecordRules.Yaml.Folding
import RecordRules.Json.Literal

/-!
# Quoted scalars

Between single quotes a quote is written twice, and nothing else is special. Between double quotes
a backslash begins an escape, and one at the end of a line joins the next line without a blank.
Lines are folded in both.
-/

namespace RecordRules.Yaml

/-- The character that a letter stands for behind a backslash. -/
def escaped? : Char → Option Char
  | '0' => some '\x00'
  | 'a' => some '\x07'
  | 'b' => some '\x08'
  | 't' => some '\t'
  | '\t' => some '\t'
  | 'n' => some '\n'
  | 'v' => some '\x0b'
  | 'f' => some '\x0c'
  | 'r' => some '\r'
  | 'e' => some '\x1b'
  | ' ' => some ' '
  | '"' => some '"'
  | '/' => some '/'
  | '\\' => some '\\'
  | 'N' => some '\u0085'
  | '_' => some '\u00A0'
  | 'L' => some '\u2028'
  | 'P' => some '\u2029'
  | _ => none

/-- How many hexadecimal digits a letter takes behind a backslash. -/
def codeLength? : Char → Option Nat
  | 'x' => some 2
  | 'u' => some 4
  | 'U' => some 8
  | _ => none

/-- The character with a code, if it is one. -/
def charOfCode? (code : Nat) : Option Char :=
  if code.isValidChar then some (Char.ofNat code) else none

/-- The character of an escape behind its backslash, and how long the escape is there. -/
def readEscape (text : List Char) : Option (Char × Nat) :=
  match text with
  | [] => none
  | letter :: rest =>
    match codeLength? letter with
    | some count =>
      if rest.length < count then none
      else do
        let code ← Json.hexValue? (rest.take count)
        return (← charOfCode? code, count + 1)
    | none => (escaped? letter).map fun char => (char, 1)

/-- What ends a stretch of a quoted scalar without blanks. -/
inductive Stop
  | quote
  | gap
  | joined

/-- Reads a stretch of a quoted scalar without blanks onto the text before it. The bound is the
length of the text. -/
def readStretch (isSingle : Bool) :
    Nat → List Char → Position → Option (List Char × Stop × Position)
  | 0, _, _ => none
  | bound + 1, before, position =>
    match position.rest with
    | [] => some (before, .gap, position)
    | char :: rest =>
      if isBlank char || isBreak char then some (before, .gap, position)
      else if isSingle && rest.head? == some '\'' && char == '\'' then
        readStretch isSingle bound (before ++ ['\'']) (position.skip 2)
      else if char == (if isSingle then '\'' else '"') then some (before, .quote, position)
      else if !isSingle && char == '\\' then
        if rest.head?.any isBreak then some (before, .joined, (position.skip 1).skipBreak)
        else do
          let (escaped, length) ← readEscape rest
          readStretch isSingle bound (before ++ [escaped]) (position.skip (length + 1))
      else readStretch isSingle bound (before ++ [char]) (position.skip 1)

/-- Reads a quoted scalar behind its opening quote onto the text before it. The bound is the
length of the text. -/
def readQuoted (isSingle : Bool) : Nat → List Char → Position → Option (List Char × Position)
  | 0, _, _ => none
  | bound + 1, before, position => do
    if position.seesAnyMarker || position.rest.isEmpty then none
    else
      let (text, stop, behind) ← readStretch isSingle (position.rest.length + 1) before position
      match stop with
      | .quote => return (text, behind.skip 1)
      | .gap =>
        let (gap, ahead) ← readGap 0 behind.rest.length (.blanks []) behind
        readQuoted isSingle bound (text ++ gap.folded) ahead
      | .joined =>
        let (gap, ahead) ← readGap 0 behind.rest.length (.breaks [] []) behind
        readQuoted isSingle bound (text ++ gap.folded) ahead

/-- Reads a quoted scalar from its opening quote on. -/
def readQuotation (isSingle : Bool) (position : Position) : Option (List Char × Position) :=
  readQuoted isSingle (position.rest.length + 1) [] (position.skip 1)

end RecordRules.Yaml
