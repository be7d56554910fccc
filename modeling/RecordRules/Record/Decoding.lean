import RecordRules.Json.Structure
import RecordRules.Record.Value

/-!
# Records and lists from documents

A record is written as an object of flat values, and a list literal as a list of scalars. Each
value is first read as any value of the grammar, so a breach inside it is reported before its
shape is looked at. Of several members of one key the last one counts, but each of them must be
a value.
-/

namespace RecordRules

open Json

/-- The scalar that a value of the grammar is, if it is one. -/
def Scalar.ofJson? : Json → Option Scalar
  | .boolean value => some (.boolean value)
  | .number value => some (.number value.toBinary64)
  | .string content => some (.text content)
  | _ => none

/-- The value of a record that a value of the grammar is, if it is one. -/
def Value.ofJson? : Json → Option Value
  | .boolean value => some (.boolean value)
  | .number value => some (.number value.toBinary64)
  | .string content => some (.text content)
  | .list items => (items.mapM Scalar.ofJson?).map .list
  | _ => none

namespace Json

/-- Reads a value and takes it for what a type makes of it. -/
def readVariant (type : String) (choose : Json → Option α) (allowance : Nat) : Reader α :=
  fun text => do
    let (value, rest) ← readValue allowance text
    match choose value with
    | some chosen => .ok (chosen, rest)
    | none => .error (.unsettled (.noVariant type) rest)

/-- Reads one member of a record. -/
def readField (allowance : Nat) (record : Record) (name : String) : Reader Record := fun text => do
  let text ← skipColon text
  let (value, rest) ← readVariant "Value" Value.ofJson? allowance text
  return (record.insert name value, rest)

/-- Reads a record, with what is left of an allowance for nesting. -/
def readRecord (allowance : Nat) : Reader Record := fun text =>
  match skipSpace text with
  | '\x7b' :: rest =>
    match allowance with
    | 0 => tooDeep ('\x7b' :: rest)
    | allowance + 1 => readObject (readField allowance) .empty rest
  | text => readMismatch "a map" text

end Json

/-- The record written by a text. -/
def Record.read (text : String) : Except Fault Record :=
  readDocument (readRecord maximumNesting) text

/-- The items of a list literal. -/
def Scalar.readList (text : String) : Except Fault (List Scalar) :=
  readDocument (readListOf (readVariant "Scalar" Scalar.ofJson?) maximumNesting) text

/-- The record that a document is. It is not a text, so a refusal has no location. -/
def Record.ofJson : Json → Except Fault Record
  | .object members =>
    match (Table.ofList members).entries.mapM fun member =>
        (Value.ofJson? member.2).map fun value => (member.1, value) with
    | some bindings => .ok (Table.ofList bindings)
    | none => .error ⟨.shape (.noVariant "Value"), none⟩
  | document => .error ⟨.shape (.invalidType document.unexpected "a map"), none⟩

end RecordRules
