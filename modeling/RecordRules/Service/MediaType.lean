/-!
# Media types

A request says of what type its body is. A type is two words with a slash between them, of which
the second one may have a suffix behind a plus sign, and parameters, each behind a semicolon. A
body is read as JSON only if its type or the suffix says so.
-/

namespace RecordRules.Service

/-- A character of a word of a media type. -/
def isTokenChar (char : Char) : Bool :=
  char.isAlphanum || "!#$%&'*+-.^_`|~".toList.contains char

/-- A character between the quotes of a parameter. -/
def isQuotedChar (char : Char) : Bool := ' ' ≤ char && char != '\x7f'

/-- Whether a text behind a quoted value goes on with another parameter or ends: the parameters
behind it, if so. -/
def behindQuoted? : List Char → Option (List Char)
  | [] => some []
  | ';' :: rest => some rest
  | ' ' :: rest => behindQuoted? rest
  | _ => none

/-- The text behind a quoted value, whose characters are at least one. -/
def skipQuoted? (text : List Char) : Option (List Char) :=
  let content := text.takeWhile fun char => isQuotedChar char && char != '"'
  let behind := text.drop content.length
  match content, behind with
  | _ :: _, '"' :: rest => behindQuoted? rest
  | [], '"' :: rest =>
    let content := rest.takeWhile fun char => isQuotedChar char && char != '"'
    match rest.drop content.length with
    | '"' :: rest => behindQuoted? rest
    | _ => none
  | _, _ => none

/-- The text behind a parameter, or nothing if there is none where one should be. -/
def skipParameter? (text : List Char) : Option (List Char) :=
  let text := text.dropWhile (· == ' ')
  let name := text.takeWhile fun char => isTokenChar char && char != '='
  match text.drop name.length with
  | [] => if text = [] then some [] else none
  | '=' :: '"' :: rest => if name = [] then none else skipQuoted? rest
  | '=' :: rest =>
    let value := rest.takeWhile isTokenChar
    if name = [] then none
    else
      match rest.drop value.length with
      | [] => some []
      | ';' :: rest => if value = [] then none else some rest
      | _ => none
  | _ => none

/-- Whether a text is a list of parameters. The bound is the length of the text. -/
def areParameters : Nat → List Char → Bool
  | 0, text => text.isEmpty
  | bound + 1, text =>
    text.isEmpty ||
      match skipParameter? text with
      | some rest => areParameters bound rest
      | none => false

/-- Splits the second word of a media type at its last plus sign that is not its first
character. -/
def splitSuffix (word : List Char) : List Char × Option (List Char) :=
  let suffix := (word.reverse.takeWhile (· != '+')).reverse
  let subtype := word.take (word.length - suffix.length - 1)
  if subtype = [] || suffix.length == word.length then (word, none) else (subtype, some suffix)

/-- Whether a media type is a type of JSON documents. -/
def isJsonType (header : String) : Bool :=
  let text := header.toList.map Char.toLower
  let type := text.takeWhile isTokenChar
  let rest := text.drop type.length
  let word := rest.tail.takeWhile isTokenChar
  let behind := rest.tail.drop word.length
  let isWellFormed := rest.head? == some '/' && word != [] &&
    (behind.isEmpty || (behind.head? == some ';' && areParameters behind.length behind.tail))
  let (subtype, suffix) := splitSuffix word
  text.all (fun char => (' ' ≤ char && char ≤ '~') || char == '\t') && isWellFormed &&
    type == "application".toList &&
    (subtype == "json".toList || suffix == some "json".toList)

example : isJsonType "APPLICATION/vnd.api+JSON; charset=utf-8" = true := by decide +kernel

example : isJsonType "text/json" = false ∧ isJsonType "application/json; charset" = false := by
  decide +kernel

end RecordRules.Service
