/-!
# Options of a command

A command is given options, each of which has a value. An option is written with its long name
behind two dashes or with its short name behind one; the value follows in the same argument, behind
an equals sign that a short name can do without, or is the next argument, which then must not look
like an option. No option may be given twice. Two dashes alone end the options, and nothing may
follow them.
-/

namespace RecordRules.CommandLine

/-- An option: its long name, and its short one if it has one. -/
structure OptionName where
  long : String
  short : Option Char
  deriving DecidableEq

/-- What an argument says of an option: the option, and its value if that is in the argument. -/
structure Mention where
  option : OptionName
  value? : Option String

namespace Mention

/-- What an argument with a long name says. -/
def ofLong? (known : List OptionName) (text : List Char) : Option Mention := do
  let name := text.takeWhile (· != '=')
  let option ← known.find? fun option => option.long.toList == name
  match text.drop name.length with
  | '=' :: value => return ⟨option, some (String.ofList value)⟩
  | _ => return ⟨option, none⟩

/-- What an argument with a short name says. -/
def ofShort? (known : List OptionName) (name : Char) (text : List Char) : Option Mention := do
  let option ← known.find? fun option => option.short == some name
  match text with
  | [] => return ⟨option, none⟩
  | '=' :: value => return ⟨option, some (String.ofList value)⟩
  | value => return ⟨option, some (String.ofList value)⟩

/-- What an argument says of the known options, if anything. -/
def ofArgument? (known : List OptionName) (argument : String) : Option Mention :=
  match argument.toList with
  | '-' :: '-' :: text => ofLong? known text
  | '-' :: name :: text => ofShort? known name text
  | _ => none

end Mention

/-- Whether an argument can be the value of the option in front of it: it does not begin with a
dash, or is a dash. -/
def isSeparateValue (argument : String) : Bool :=
  argument.toList.head? != some '-' || argument == "-"

/-- The values of options by their long names. -/
abbrev Given := List (String × String)

/-- Adds the value of an option that is not given yet. -/
def Given.add? (given : Given) (option : OptionName) (value : String) : Option Given :=
  if (given.lookup option.long).isSome then none else some ((option.long, value) :: given)

/-- The options that arguments give, behind those that are given already. -/
def readOptions (known : List OptionName) (given : Given) : List String → Option Given
  | [] | ["--"] => some given
  | argument :: rest => do
    let mention ← Mention.ofArgument? known argument
    match mention.value?, rest with
    | some value, rest => readOptions known (← given.add? mention.option value) rest
    | none, value :: rest =>
      if isSeparateValue value then readOptions known (← given.add? mention.option value) rest
      else none
    | none, [] => none

example : readOptions [⟨"expr", some 'e'⟩] [] ["-ea", "--"] = some [("expr", "a")] := by
  decide +kernel

example : readOptions [⟨"expr", some 'e'⟩] [] ["--expr", "-1"] = none := by decide +kernel

end RecordRules.CommandLine
