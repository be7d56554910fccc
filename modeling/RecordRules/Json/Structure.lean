import RecordRules.Json.Document
import RecordRules.Json.Skipping

/-!
# Structures from documents

A structure has named fields. It is written as an object, where fields may come in any order,
none of them twice, and members of other names are passed over; or as a list of its fields in
their order, where fields at the end that need not be there may be left out.

While a structure is read its fields are gathered one by one. Only when all are there is the
structure built.
-/

namespace RecordRules.Json

/-- Reads a value that does not have the required type, to say what it is. Containers are not
entered, everything else is read to its end. -/
def readMismatch (expected : String) : Reader α := fun text => do
  let unopened (container : Json) : Reader Json := fun text => .ok (container, text)
  let (value, rest) ← readPlain (unopened (.list [])) (unopened (.object [])) text
  .error (.mismatched (.invalidType value.unexpected expected) rest)

/-- Reads a string. -/
def readText : Reader String := fun text =>
  match skipSpace text with
  | '"' :: rest => readString rest
  | text => readMismatch "a string" text

/-- Reads a list of items, with what is left of an allowance for nesting. -/
def readListOf (item : Nat → Reader α) (allowance : Nat) : Reader (List α) := fun text =>
  match skipSpace text with
  | '[' :: rest =>
    match allowance with
    | 0 => tooDeep ('[' :: rest)
    | allowance + 1 => readList (item allowance) rest
  | text => readMismatch "a sequence" text

/-- A field of a structure whose fields are gathered in `σ`. -/
structure NamedField (σ : Type) where
  name : String
  isRequired : Bool
  isSet : σ → Bool
  read : Nat → σ → Reader σ

/-- The field of this name that `set` puts into what is gathered. -/
def NamedField.make (name : String) (isRequired : Bool) (value? : σ → Option β) (set : σ → β → σ)
    (read : Nat → Reader β) : NamedField σ :=
  { name, isRequired
    isSet := fun gathered => (value? gathered).isSome
    read := fun allowance gathered text => do
      let (value, rest) ← read allowance text
      return (set gathered value, rest) }

/-- What a structure is called, its fields, and how it is built from them. -/
structure Shape (σ : Type) (α : Type) where
  name : String
  fields : List (NamedField σ)
  start : σ
  build : σ → α

namespace Shape

variable {σ α : Type}

/-- The structure as messages call it. -/
def title (shape : Shape σ α) : String := "struct " ++ shape.name

/-- The structure with its number of fields. -/
def titleWithLength (shape : Shape σ α) : String :=
  shape.title ++ " with " ++ toString shape.fields.length ++
    (if shape.fields.length = 1 then " element" else " elements")

/-- One member of an object that the structure is written as. -/
def readMember (shape : Shape σ α) (allowance : Nat) (gathered : σ) (key : String) : Reader σ :=
  fun text =>
    match shape.fields.find? fun field => field.name == key with
    | none => do
      let rest ← skipValue (← skipColon text)
      return (gathered, rest)
    | some field =>
      if field.isSet gathered then .error (.unsettled (.duplicateField key) text)
      else do field.read allowance gathered (← skipColon text)

/-- Ends a structure written as an object, in which no required field may be missing. -/
def complete (shape : Shape σ α) : Except Failure (σ × List Char) → Except Failure (α × List Char)
  | .error failure => .error failure
  | .ok (gathered, rest) =>
    match shape.fields.find? fun field => field.isRequired && !field.isSet gathered with
    | some field => .error (.unsettled (.missingField field.name) rest)
    | none => .ok (shape.build gathered, rest)

/-- The fields of a structure written as a list, of which `index` have been read. -/
def readFields (shape : Shape σ α) (allowance : Nat) : List (NamedField σ) → Nat → σ → Reader α
  | [], _, gathered, text => .ok (shape.build gathered, text)
  | field :: fields, index, gathered, text => do
    let (more, text) ← nextItem (index == 0) text
    if more then
      let (gathered, text) ← field.read allowance gathered text
      readFields shape allowance fields (index + 1) gathered text
    else if field.isRequired then
      .error (.unsettled (.invalidLength index shape.titleWithLength) text)
    else readFields shape allowance fields (index + 1) gathered text

/-- Reads a structure, with what is left of an allowance for nesting. -/
def read (shape : Shape σ α) (allowance : Nat) : Reader α := fun text =>
  match skipSpace text with
  | '[' :: rest =>
    match allowance with
    | 0 => tooDeep ('[' :: rest)
    | allowance + 1 =>
      closing closeList (shape.readFields allowance shape.fields 0 shape.start rest)
  | '\x7b' :: rest =>
    match allowance with
    | 0 => tooDeep ('\x7b' :: rest)
    | allowance + 1 =>
      closing closeObject
        (shape.complete
          (readMembers (shape.readMember allowance) (rest.length + 1) true shape.start rest))
  | text => readMismatch shape.title text

end Shape

end RecordRules.Json
