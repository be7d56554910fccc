import RecordRules.CommandLine.Command
import RecordRules.Rules.Loading
import RecordRules.Rules.Registry
import RecordRules.Settings.EnvironmentFile

/-!
# Runs of the program

A run of the program is a function of its arguments, its environment and the files around it. It
ends with an exit status and the texts that it writes, or with a service that is ready to listen.
A run that fails tells the error, and its cause if it has one.
-/

namespace RecordRules.CommandLine

/-- How a run ends. -/
structure Ending where
  status : Nat
  output : String
  errors : String
  deriving DecidableEq

/-- An error that ends a run: its message, and the message of its cause. -/
structure Failure where
  message : String
  cause? : Option String

namespace Failure

/-- Each line of a text behind four blanks. -/
def indent (text : String) : String :=
  "\n".intercalate ((text.toList.splitOn '\n').map fun line => "    " ++ String.ofList line)

/-- What is told of a failure. -/
def text (failure : Failure) : String :=
  "Error: " ++ failure.message ++ "\n" ++
    match failure.cause? with
    | none => ""
    | some cause => "\nCaused by:\n" ++ indent cause ++ "\n"

end Failure

/-- A run that ends with this output. -/
def Ending.success (output : String) : Ending := ⟨0, output, ""⟩

/-- A run that fails behind this text on the error output. -/
def Ending.failure (told : String) (failure : Failure) : Ending := ⟨1, "", told ++ failure.text⟩

/-- The record that a text writes. -/
def readRecord (text : String) : Except Failure Record :=
  (Record.read text).mapError fun fault =>
    ⟨"Record must be a JSON object of strings, numbers, booleans or flat arrays", some fault.message⟩

/-- The record of a source. -/
def RecordSource.read (files : Files) : RecordSource → Except Failure Record
  | .none => .ok .empty
  | .inline text => readRecord text
  | .file path =>
    match files.readText path with
    | .ok text => readRecord text
    | .error fault => .error ⟨"Failed to read " ++ path, some fault.message⟩

/-- The rule set that a file defines. -/
def loadRuleSet (files : Files) (path : String) : Except Failure RuleSet := do
  let definition ← (RuleSetDefinition.load files path).mapError fun error =>
    ⟨"Failed to load rules from " ++ path, some error.message⟩
  (RuleSet.compile definition).mapError fun error =>
    match error with
    | .compile _ errors => ⟨error.message, some (SyntaxError.summary errors)⟩
    | .duplicateRule _ => ⟨error.message, none⟩

/-- Evaluates a condition on a record. -/
def eval (files : Files) (expression : String) (source : RecordSource) :
    Except Failure String := do
  let record ← source.read files
  match Condition.compile expression with
  | .error errors => .error ⟨SyntaxError.summary errors, none⟩
  | .ok condition =>
    match condition.evaluate record with
    | .ok value => return toString value ++ "\n"
    | .error error =>
      .error ⟨error.message, error.cause?.map (·.message)⟩

/-- Tells the normal text of a condition, or every error in it, one a line. -/
def check (expression : String) : Ending :=
  match Condition.compile expression with
  | .ok condition => .success (condition.normalText ++ "\n")
  | .error errors =>
    .failure (String.join (errors.map fun error => error.text ++ "\n"))
      ⟨toString errors.length ++ " syntax error(s)", none⟩

/-- What came of a rule, as a line. -/
def outcomeLine (outcome : RuleOutcome) : String :=
  match outcome.result with
  | .ok value => outcome.rule ++ ": " ++ toString value ++ "\n"
  | .error error => outcome.rule ++ ": error: " ++ error.message ++ "\n"

/-- Evaluates the rules of a file on a record. -/
def rules (files : Files) (path record : String) : Except Failure String := do
  let set ← loadRuleSet files path
  let record ← readRecord record
  return String.join ((set.evaluate record).map outcomeLine)

/-- The settings that an environment and options give; the options have precedence, but do not
excuse an error in the environment. -/
def settings (environment : Environment) (portNumber : Option UInt16) (host : Option Address)
    (rulesPath : Option String) : Except Failure Settings := do
  let settings ← (Settings.ofEnvironment environment).mapError fun error => ⟨error.message, none⟩
  return {
    host := host.getD settings.host
    portNumber := portNumber.getD settings.portNumber
    rulesPath? := rulesPath <|> settings.rulesPath? }

/-- The registry that the service starts with. -/
def initialRegistry (files : Files) (settings : Settings) : Except Failure Registry :=
  match settings.rulesPath? with
  | none => .ok .empty
  | some path => do return Registry.load .empty (← loadRuleSet files path)

/-- What a run comes to. -/
inductive Result
  | misused
  | ended (ending : Ending)
  | ready (settings : Settings) (registry : Registry)

/-- The result of work that gives an output or fails. -/
def Result.ofOutput : Except Failure String → Result
  | .ok output => .ended (.success output)
  | .error failure => .ended (.failure "" failure)

/-- The environment of a run: what a file in the directory of the run adds to the given one. -/
def completeEnvironment (files : Files) (environment : Environment) : Environment :=
  match files ".env" with
  | .ok bytes => EnvironmentFile.addTo environment bytes
  | .error _ => environment

/-- The file that a run reads besides the one that adds to its environment, if it reads any. -/
def fileToRead? (environment : Environment) (arguments : List String) : Option String :=
  match Command.ofArguments? arguments with
  | some (.eval _ (.file path)) | some (.rules path _) | some (.serve _ _ (some path)) => some path
  | some (.serve _ _ none) => environment.get? "CONDITION_RULES"
  | _ => none

/-- Runs the program. -/
def run (files : Files) (environment : Environment) (arguments : List String) : Result :=
  match Command.ofArguments? arguments with
  | none => .misused
  | some (.eval expression record) => .ofOutput (eval files expression record)
  | some (.check expression) => .ended (check expression)
  | some (.rules path record) => .ofOutput (rules files path record)
  | some (.serve portNumber host rulesPath) =>
    let started := do
      let settings ← settings (completeEnvironment files environment) portNumber host rulesPath
      return (settings, ← initialRegistry files settings)
    match started with
    | .ok (settings, registry) => .ready settings registry
    | .error failure => .ended (.failure "" failure)

end RecordRules.CommandLine
