import RecordRules.Json.Container
import RecordRules.Json.Numeral

/-!
# Documents

A document as a value: null, a boolean, a number, a string, a list or an object, whose members
stay in the order in which they are written, repeated keys included. Reading one takes any
document whose containers are nested at most 127 deep.
-/

namespace RecordRules

/-- A document. -/
inductive Json
  | null
  | boolean (value : Bool)
  | number (value : Json.Numeral)
  | string (content : String)
  | list (items : List Json)
  | object (members : List (String × Json))

namespace Json

/-- How deeply the containers of a document may be nested. -/
def maximumNesting : Nat := 127

/-- One member of an object: the colon, the value, and the members before it. -/
def readMember (value : Reader Json) (before : List (String × Json)) (key : String) :
    Reader (List (String × Json)) := fun text => do
  let text ← skipColon text
  let (value, rest) ← value text
  return (before ++ [(key, value)], rest)

/-- Reads a value from its first character on; lists and objects are left to two readers. -/
def readPlain (list object : Reader Json) : Reader Json := fun text =>
  match skipSpace text with
  | [] => .error (.atNext .endInValue [])
  | next :: rest =>
    if next = 'n' then readWord null ['u', 'l', 'l'] rest
    else if next = 't' then readWord (boolean true) ['r', 'u', 'e'] rest
    else if next = 'f' then readWord (boolean false) ['a', 'l', 's', 'e'] rest
    else if next = '-' ∨ next.isDigit then do
      let (value, rest) ← readNumber (next :: rest)
      return (number value, rest)
    else if next = '"' then do
      let (content, rest) ← readString rest
      return (string content, rest)
    else if next = '[' then list (next :: rest)
    else if next = '\x7b' then object (next :: rest)
    else .error (.atNext .expectedValue (next :: rest))

/-- Refuses a container that is nested too deeply, at its bracket. -/
def tooDeep : Reader α := fun text => .error (.atNext .nestedTooDeeply text)

/-- Reads any value whose containers are nested no deeper than the allowance. -/
def readValue : Nat → Reader Json
  | 0 => readPlain tooDeep tooDeep
  | allowance + 1 =>
    readPlain
      (fun text => do
        let (items, rest) ← readList (readValue allowance) text.tail
        return (list items, rest))
      (fun text => do
        let (members, rest) ← readObject (readMember (readValue allowance)) [] text.tail
        return (object members, rest))

/-- Reads a whole document. -/
def read (text : String) : Except Fault Json := readDocument (readValue maximumNesting) text

/-- What a document is, where another kind of value is required. -/
def unexpected : Json → Unexpected
  | null => .null
  | boolean value => .boolean value
  | number (.integer value) => .integer value
  | number (.floating value) => .floating value
  | string content => .string content
  | list _ => .list
  | object _ => .object

end Json

end RecordRules
