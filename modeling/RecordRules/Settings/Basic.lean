import RecordRules.Settings.Address
import RecordRules.Table

/-!
# Settings of the service

The service listens at an address and may be given rules to start with. Three variables of the
environment say so; what they leave open has a fixed value. The host is judged before the number
that is listened at, and no rules at all are meant by an empty path.
-/

namespace RecordRules

/-- The values of the variables of an environment. -/
abbrev Environment := Table String

/-- Where the service listens, and the file of the rules that it starts with. -/
structure Settings where
  host : Address
  portNumber : UInt16
  rulesPath? : Option String
  deriving DecidableEq

/-- Why a text is no number to listen at. -/
inductive PortFault
  | empty
  | digit
  | tooLarge
  deriving DecidableEq

/-- The wording of a fault. -/
def PortFault.message : PortFault → String
  | empty => "cannot parse integer from empty string"
  | digit => "invalid digit found in string"
  | tooLarge => "number too large to fit in target type"

/-- Why an environment has no settings, with the text that is to blame. -/
inductive SettingsError
  | host (text : String)
  | portNumber (text : String) (fault : PortFault)
  deriving DecidableEq

/-- The wording of an error. -/
def SettingsError.message : SettingsError → String
  | host text =>
    "Configuration error: CONDITION_HOST '" ++ text ++ "': invalid IP address syntax"
  | portNumber text fault =>
    "Configuration error: CONDITION_PORT '" ++ text ++ "': " ++ fault.message

namespace Settings

/-- The settings of an empty environment. -/
def initial : Settings := ⟨.loopback, 8080, none⟩

/-- Appends digits to a number below 65536. The first character that is no digit or that makes the
number too large decides the fault. -/
def appendDigits (number : Nat) : List Char → Except PortFault UInt16
  | [] => .ok number.toUInt16
  | char :: rest =>
    if !char.isDigit then .error .digit
    else
      let number := 10 * number + (char.toNat - '0'.toNat)
      if 65535 < number then .error .tooLarge else appendDigits number rest

/-- The number that a text writes in decimal, with or without a plus sign. -/
def readPortNumber (text : String) : Except PortFault UInt16 :=
  match text.toList with
  | [] => .error .empty
  | ['+'] => .error .digit
  | '+' :: digits => appendDigits 0 digits
  | digits => appendDigits 0 digits

/-- The host that an environment gives. -/
def readHost (environment : Environment) : Except SettingsError Address :=
  match environment.get? "CONDITION_HOST" with
  | none => .ok initial.host
  | some text =>
    match Address.ofText? text with
    | some address => .ok address
    | none => .error (.host text)

/-- The settings that an environment gives. -/
def ofEnvironment (environment : Environment) : Except SettingsError Settings := do
  let host ← readHost environment
  let portNumber ←
    match environment.get? "CONDITION_PORT" with
    | none => .ok initial.portNumber
    | some text => (readPortNumber text).mapError (.portNumber text)
  return ⟨host, portNumber, (environment.get? "CONDITION_RULES").filter (· != "")⟩

/-- Where the service listens, as a text. -/
def endpoint (settings : Settings) : String := settings.host.textWith settings.portNumber

end Settings

end RecordRules
