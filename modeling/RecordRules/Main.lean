import RecordRules.CommandLine.Run

/-!
# The program

The program gathers what a run depends on, which is the environment and at most two files, and
does what the run comes to. A service that is ready is left to whoever listens for it.
-/

namespace RecordRules

/-- Why a file could not be read. -/
def FileFault.ofError : IO.Error → FileFault
  | .noFileOrDirectory _ _ _ => .notFound
  | .inappropriateType _ code details =>
    if code = 20 then .notDirectory else if code = 21 then .isDirectory else .other details
  | error => .other (toString error)

namespace CommandLine

/-- The bytes of a file. -/
def readBytes (path : String) : IO (Except FileFault (List UInt8)) := do
  try
    return .ok (← IO.FS.readBinFile path).toList
  catch error =>
    return .error (.ofError error)

/-- The variables with these names. -/
def readEnvironment (names : List String) : IO Environment := do
  let values ← names.mapM fun name => do
    return (← IO.getEnv name).map fun value => (name, value)
  return .ofList (values.filterMap id)

/-- The names of variables that a file of variables may mention. -/
def mentionedNames : Except FileFault (List UInt8) → List String
  | .ok bytes => EnvironmentFile.names ((String.fromUTF8? ⟨bytes.toArray⟩).getD "")
  | .error _ => []

/-- Gathers what a run of the program depends on, and runs it. -/
def gatherAndRun (arguments : List String) : IO Result := do
  let added ← readBytes ".env"
  let environment ← readEnvironment
    (["CONDITION_HOST", "CONDITION_PORT", "CONDITION_RULES"] ++ mentionedNames added)
  let onlyAdded : Files := fun path =>
    if path = ".env" then added else .error .notFound
  let complete := completeEnvironment onlyAdded environment
  let file ← (fileToRead? complete arguments).mapM fun path => do
    return (path, ← readBytes path)
  let files : Files := fun path =>
    match file with
    | some (known, bytes) => if path = known then bytes else onlyAdded path
    | none => onlyAdded path
  return run files environment arguments

end CommandLine

end RecordRules

/-- Runs the program on its arguments. -/
def main (arguments : List String) : IO UInt32 := do
  match (← RecordRules.CommandLine.gatherAndRun arguments) with
  | .misused =>
    IO.eprintln "usage: eval, check, rules or serve, with options"
    return 2
  | .ended ending =>
    IO.print ending.output
    IO.eprint ending.errors
    return ending.status.toUInt32
  | .ready settings _ =>
    IO.eprintln ("ready to listen at " ++ settings.endpoint)
    return 0
