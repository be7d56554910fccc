import RecordRules.Condition.Scan

/-!
# From words to trees

A condition is one operand, or several joined by connectives from left to right. An operand is a
comparison or a condition between parentheses.

Reading goes on after an error, so that one text can have several. After a mismatch it resumes at
the next connective or closing parenthesis. A condition that is too deep is the one exception:
nothing is read behind it.

The number of parentheses that may still be opened is the measure of the recursion. Each of them
adds a level to the tree, so it never refuses a tree that the limit on the depth allows.
-/

namespace RecordRules

open Text

/-- How far the words of a text have been read, and the errors met so far, the latest first. -/
structure Cursor where
  ahead : List Token
  finish : Place
  reported : List SyntaxError
  tooDeep : Bool

namespace Cursor

/-- The cursor in front of all words of a text. -/
def start (scan : Scan) : Cursor := ⟨scan.tokens, scan.finish, [], false⟩

/-- The kind of the next word, if there is one. -/
def kind? (cursor : Cursor) : Option Token.Kind := cursor.ahead.head?.map Token.kind

/-- What stands ahead, as errors show it. -/
def found (cursor : Cursor) : Found :=
  match cursor.ahead with
  | [] => .endOfText
  | token :: _ => .word token.text

/-- Where the next word stands, or the end of the text. -/
def place (cursor : Cursor) : Place :=
  match cursor.ahead with
  | [] => cursor.finish
  | token :: _ => token.place

/-- The cursor behind the next word. -/
def advance (cursor : Cursor) : Cursor := { cursor with ahead := cursor.ahead.tail }

/-- Notes an error. -/
def report (cursor : Cursor) (cause : SyntaxError.Cause) (place : Place) : Cursor :=
  { cursor with reported := ⟨cause, place⟩ :: cursor.reported }

/-- Whether reading resumes at a word after a mismatch. -/
def resumesAt (token : Token) : Bool :=
  match token.kind with
  | .connective _ => true
  | .closing => true
  | _ => false

/-- Notes that something else may stand ahead, and skips to where reading resumes. -/
def mismatch (cursor : Cursor) (expected : Expected) : Cursor :=
  let noted := cursor.report (.mismatched cursor.found expected) cursor.place
  { noted with ahead := noted.ahead.dropWhile fun token => !resumesAt token }

/-- Notes that the condition is too deep and leaves the remaining words unread. -/
def abandon (cursor : Cursor) (place : Place) : Cursor :=
  { cursor.report .nestedTooDeeply place with ahead := [], tooDeep := true }

/-- Reads a closing parenthesis, or notes that it is missing. -/
def close (cursor : Cursor) : Cursor :=
  if cursor.kind? = some .closing then cursor.advance
  else cursor.report (.missingClosing cursor.found) cursor.place

/-- Notes that a word stands where the text should end, if one does. -/
def finished (cursor : Cursor) : Cursor :=
  match cursor.ahead with
  | [] => cursor
  | token :: _ => cursor.report (.extraneous (.word token.text)) token.place

end Cursor

namespace Token.Kind

/-- What an operator is followed by, if the word is an operator. -/
def literal? : Token.Kind → Option Expected
  | greater | less | atLeast | atMost => some .number
  | equal | notEqual => some .numberOrText
  | contains | excludes => some .text
  | among | notAmong => some .list
  | _ => none

/-- The test that an operator makes with a literal, if it takes literals of that kind. -/
def test? : Token.Kind → Token.Kind → Option Test
  | greater, number value => some (.numeric .greater value)
  | less, number value => some (.numeric .less value)
  | atLeast, number value => some (.numeric .atLeast value)
  | atMost, number value => some (.numeric .atMost value)
  | equal, number value => some (.numeric .equal value)
  | notEqual, number value => some (.numeric .notEqual value)
  | equal, text content => some (.text .equal content)
  | notEqual, text content => some (.text .notEqual content)
  | contains, text content => some (.text .contains content)
  | excludes, text content => some (.text .excludes content)
  | among, list literal => some (.list .among literal)
  | notAmong, list literal => some (.list .notAmong literal)
  | _, _ => none

end Token.Kind

namespace Parsing

/-- What reading leads to: a tree unless there was an error, and the cursor behind it. -/
abbrev Result := Option Expression × Cursor

/-- Reads the operator and the literal of a comparison. -/
def comparison (field : FieldReference) (cursor : Cursor) : Result :=
  match cursor.ahead with
  | [] => (none, cursor.mismatch .operator)
  | token :: _ =>
    match token.kind.literal? with
    | none => (none, cursor.mismatch .operator)
    | some expected =>
      let behind := cursor.advance
      match behind.kind?.bind token.kind.test? with
      | some test => (some (.comparison ⟨field, test⟩), behind.advance)
      | none => (none, behind.mismatch expected)

/-- Reads connectives with an operand behind each, and joins what they join to what is on their
left. Every round reads a word, so as many rounds as there are words are enough. -/
def links (operand : Cursor → Result) : Nat → Option Expression → Cursor → Result
  | 0, left, cursor => (left, cursor)
  | rounds + 1, left, cursor =>
    match cursor.ahead with
    | ⟨.connective connective, _, place⟩ :: _ =>
      let (right, behind) := operand cursor.advance
      match left, right with
      | some left, some right =>
        let joined := Expression.joined connective left right
        if maximumDepth < joined.depth then (none, behind.abandon place)
        else links operand rounds (some joined) behind
      | _, _ => links operand rounds none behind
    | _ => (left, cursor)

/-- Reads operands joined by connectives. -/
def chain (operand : Cursor → Result) (cursor : Cursor) : Result :=
  let (first, behind) := operand cursor
  links operand behind.ahead.length first behind

/-- Ends a group that was opened at a place. -/
def group (place : Place) : Result → Result
  | (inner, cursor) =>
    if cursor.tooDeep then (none, cursor)
    else
      match inner with
      | none => (none, cursor.close)
      | some inner =>
        if maximumDepth < (Expression.grouped inner).depth then (none, cursor.close.abandon place)
        else (some (.grouped inner), cursor.close)

/-- Reads an operand in which so many parentheses may be opened one inside the other. -/
def operand : Nat → Cursor → Result
  | allowance, cursor =>
    match cursor.ahead with
    | ⟨.opening, _, place⟩ :: _ =>
      match allowance with
      | 0 => (none, cursor.abandon place)
      | allowance + 1 => group place (chain (operand allowance) cursor.advance)
    | ⟨.field name, _, place⟩ :: _ => comparison ⟨name, place.column⟩ cursor.advance
    | _ => (none, cursor.mismatch .operand)

end Parsing

namespace Expression

/-- Reads a condition, or tells every error of its text in the order of their places. -/
def parse (text : String) : Except (List SyntaxError) Expression :=
  let scan := Scan.ofText text.toList
  let (root, cursor) := Parsing.chain (Parsing.operand maximumDepth) (.start scan)
  match root, SyntaxError.inOrder (scan.faults ++ cursor.finished.reported.reverse) with
  | some expression, [] => .ok expression
  | _, errors => .error errors

end Expression

end RecordRules
