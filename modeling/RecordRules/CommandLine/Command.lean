import RecordRules.CommandLine.Option
import RecordRules.Settings.Basic

/-!
# Commands

The first argument names a command and the others are its options. Arguments that make no command
are a mistake in the use of the program, whatever the mistake is.
-/

namespace RecordRules.CommandLine

/-- Where a record comes from. -/
inductive RecordSource
  | none
  | inline (text : String)
  | file (path : String)

/-- What the program is asked to do. -/
inductive Command
  | eval (expression : String) (record : RecordSource)
  | check (expression : String)
  | rules (path : String) (record : String)
  | serve (portNumber : Option UInt16) (host : Option Address) (rulesPath : Option String)

namespace Command

/-- The path that the value of an option is: one that is not empty. -/
def path? (value : String) : Option String := if value = "" then none else some value

/-- Digits as a number. -/
def digits? (text : List Char) : Option Nat :=
  if text ≠ [] ∧ text.all Char.isDigit then
    some (text.foldl (fun value digit => 10 * value + (digit.toNat - '0'.toNat)) 0)
  else none

/-- The number to listen at that the value of an option is. It may have a sign, but is not
negative. -/
def portNumber? (value : String) : Option UInt16 := do
  let number ←
    match value.toList with
    | '+' :: digits => digits? digits
    | '-' :: digits => (digits? digits).filter (· == 0)
    | digits => digits? digits
  if number ≤ 65535 then some number.toUInt16 else none

/-- Reads the value of an option that need not be given. -/
def optional (given : Given) (name : String) (read : String → Option α) : Option (Option α) :=
  match given.lookup name with
  | none => some none
  | some value => (read value).map some

/-- The command that evaluates one condition on one record. -/
def evalOf? (arguments : List String) : Option Command := do
  let given ←
    readOptions [⟨"expr", some 'e'⟩, ⟨"record", some 'r'⟩, ⟨"file", some 'f'⟩] [] arguments
  let expression ← given.lookup "expr"
  match given.lookup "record", (← optional given "file" path?) with
  | none, none => return .eval expression .none
  | some record, none => return .eval expression (.inline record)
  | none, some path => return .eval expression (.file path)
  | some _, some _ => none

/-- The command that tells the errors of a condition. -/
def checkOf? (arguments : List String) : Option Command := do
  let given ← readOptions [⟨"expr", some 'e'⟩] [] arguments
  return .check (← given.lookup "expr")

/-- The command that evaluates a rule file on one record. -/
def rulesOf? (arguments : List String) : Option Command := do
  let given ← readOptions [⟨"file", some 'f'⟩, ⟨"record", some 'r'⟩] [] arguments
  return .rules (← path? (← given.lookup "file")) (← given.lookup "record")

/-- The command that starts the service. -/
def serveOf? (arguments : List String) : Option Command := do
  let given ←
    readOptions [⟨"port", some 'p'⟩, ⟨"host", none⟩, ⟨"rules", none⟩] [] arguments
  return .serve (← optional given "port" portNumber?) (← optional given "host" Address.ofText?)
    (← optional given "rules" path?)

/-- The command that arguments make. -/
def ofArguments? : List String → Option Command
  | "eval" :: arguments => evalOf? arguments
  | "check" :: arguments => checkOf? arguments
  | "rules" :: arguments => rulesOf? arguments
  | "serve" :: arguments => serveOf? arguments
  | _ => none

end Command

end RecordRules.CommandLine
