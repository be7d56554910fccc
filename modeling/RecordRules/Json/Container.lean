import RecordRules.Json.Literal

/-!
# Lists and objects of a document

The steps by which a list or an object is read: whether another item follows, the colon of a
member, and the closing bracket. Items are read by whatever reader the asking shape provides, so
the same steps serve documents of any shape.
-/

namespace RecordRules.Json

/-- Whether another item of a list follows, and the text it begins at. At the end of the list the
text begins with the closing bracket. -/
def nextItem (isFirst : Bool) (text : List Char) : Except Failure (Bool × List Char) :=
  match skipSpace text with
  | [] => .error (.atNext .endInList [])
  | next :: rest =>
    if next = ']' then .ok (false, next :: rest)
    else if isFirst then .ok (true, next :: rest)
    else if next = ',' then
      match skipSpace rest with
      | [] => .error (.atNext .endInValue [])
      | ']' :: rest => .error (.atNext .trailingComma (']' :: rest))
      | rest => .ok (true, rest)
    else .error (.atNext .expectedListEnd (next :: rest))

/-- The key of the next member of an object, if there is one, and the text behind it. At the end
of the object the text begins with the closing brace. -/
def nextKey (isFirst : Bool) (text : List Char) : Except Failure (Option String × List Char) :=
  match skipSpace text with
  | [] => .error (.atNext .endInObject [])
  | next :: rest =>
    if next = '\x7d' then .ok (none, next :: rest)
    else if isFirst then
      if next = '"' then do
        let (key, rest) ← readString rest
        return (some key, rest)
      else .error (.atNext .keyNotString (next :: rest))
    else if next = ',' then
      match skipSpace rest with
      | [] => .error (.atNext .endInValue [])
      | next :: rest =>
        if next = '"' then do
          let (key, rest) ← readString rest
          return (some key, rest)
        else if next = '\x7d' then .error (.atNext .trailingComma (next :: rest))
        else .error (.atNext .keyNotString (next :: rest))
    else .error (.atNext .expectedObjectEnd (next :: rest))

/-- The colon between a key and its value. -/
def skipColon (text : List Char) : Except Failure (List Char) :=
  match skipSpace text with
  | [] => .error (.atNext .endInObject [])
  | next :: rest =>
    if next = ':' then .ok rest else .error (.atNext .expectedColon (next :: rest))

/-- The end of a list from which no further item is wanted. -/
def closeList (text : List Char) : Except Failure (List Char) :=
  match skipSpace text with
  | [] => .error (.atNext .endInList [])
  | next :: rest =>
    if next = ']' then .ok rest
    else if next = ',' then
      match skipSpace rest with
      | ']' :: rest => .error (.atNext .trailingComma (']' :: rest))
      | rest => .error (.atNext .trailingCharacters rest)
    else .error (.atNext .trailingCharacters (next :: rest))

/-- The end of an object from which no further member is wanted. -/
def closeObject (text : List Char) : Except Failure (List Char) :=
  match skipSpace text with
  | [] => .error (.atNext .endInObject [])
  | next :: rest =>
    if next = '\x7d' then .ok rest
    else if next = ',' then .error (.atNext .trailingComma (next :: rest))
    else .error (.atNext .trailingCharacters (next :: rest))

/-- Ends a container after its contents. A failure that the contents have left open is settled at
the point that the closing bracket, or the attempt to read one, has reached. -/
def closing (close : List Char → Except Failure (List Char)) (contents : Except Failure (α × List Char)) :
    Except Failure (α × List Char) :=
  match contents with
  | .ok (value, text) => do
    let rest ← close text
    return (value, rest)
  | .error failure =>
    if failure.isOpen then
      match close failure.rest with
      | .ok rest => .error (failure.settle rest)
      | .error stopped => .error (failure.settle stopped.rest)
    else .error failure

/-- The items of a list up to its closing bracket. The bound is a length that the text has not:
every item takes a character of it or more. -/
def readItems (item : Reader α) : Nat → Bool → Reader (List α)
  | 0, _, text => .error (.atNext .endInList text)
  | bound + 1, isFirst, text => do
    let (more, text) ← nextItem isFirst text
    if more then
      let (value, text) ← item text
      let (values, text) ← readItems item bound false text
      return (value :: values, text)
    else return ([], text)

/-- The members of an object up to its closing brace, gathered by a step that reads the colon and
the value of a member and adds them to what was gathered before. -/
def readMembers (member : σ → String → Reader σ) : Nat → Bool → σ → Reader σ
  | 0, _, _, text => .error (.atNext .endInObject text)
  | bound + 1, isFirst, gathered, text => do
    let (key, text) ← nextKey isFirst text
    match key with
    | none => return (gathered, text)
    | some key =>
      let (gathered, text) ← member gathered key text
      readMembers member bound false gathered text

/-- A list behind its opening bracket. -/
def readList (item : Reader α) : Reader (List α) := fun text =>
  closing closeList (readItems item (text.length + 1) true text)

/-- An object behind its opening brace. -/
def readObject (member : σ → String → Reader σ) (start : σ) : Reader σ := fun text =>
  closing closeObject (readMembers member (text.length + 1) true start text)

end RecordRules.Json
