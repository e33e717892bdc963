/-!
# Arguments

The arguments of the command line: options of the program, the name of a command, and options and
a path for the command. Long options may have their value behind an equals sign, short ones behind
the letter; short options without a value may stand together behind one dash; two dashes end the
options.
-/

namespace AgentPackage.CommandLine

/-- Why arguments cannot be understood. -/
inductive UsageError where
  /-- There is no such option. -/
  | noSuchOption (name : String)
  /-- An option needs a value and has none. -/
  | missingValue (name : String)
  /-- An option has a value and takes none. -/
  | unexpectedValue (name : String)
  /-- There are more arguments than the command takes. -/
  | unexpectedArguments (args : List String)
  /-- There is no command. -/
  | missingCommand
  /-- There is no command of that name. -/
  | noSuchCommand (name : String)
  deriving DecidableEq, Repr

/-- The wording of a usage error. -/
def UsageError.message : UsageError → String
  | .noSuchOption name => "No such option: " ++ name
  | .missingValue name => "Option '" ++ name ++ "' requires an argument."
  | .unexpectedValue name => "Option '" ++ name ++ "' does not take a value."
  | .unexpectedArguments args => "Got unexpected extra arguments (" ++ " ".intercalate args ++ ")"
  | .missingCommand => "Missing command."
  | .noSuchCommand name => "No such command '" ++ name ++ "'."

/-- An option that can be given. -/
structure OptionSpec where
  /-- The name with two dashes. -/
  long : String
  /-- The letter behind one dash, if there is one. -/
  short : Option Char := none
  /-- Whether the option takes a value. -/
  takesValue : Bool := false
  deriving DecidableEq, Repr

/-- An option that was given. -/
structure Given where
  /-- The option. -/
  option : OptionSpec
  /-- Its value, if it takes one. -/
  value : String := ""
  deriving DecidableEq, Repr

/-- The options that were given, in order, and the other arguments. -/
structure Parsed where
  /-- The options. -/
  options : List Given := []
  /-- The other arguments. -/
  rest : List String := []
  deriving DecidableEq, Repr

namespace Parsed

/-- Puts options before those that were read. -/
def prepend (options : List Given) (p : Parsed) : Parsed :=
  { p with options := options ++ p.options }

/-- Whether an option was given. -/
def has (p : Parsed) (long : String) : Bool :=
  p.options.any fun g => g.option.long == long

/-- The value of an option, the last one if it was given several times. -/
def value? (p : Parsed) (long : String) : Option String :=
  (p.options.filter fun g => g.option.long == long).getLast?.map Given.value

end Parsed

/-- What an argument that starts with a dash says: options, and perhaps one that takes the next
argument as its value. -/
structure Dashed where
  /-- The options that are complete. -/
  options : List Given := []
  /-- The option that waits for its value, and the name by which it was given. -/
  waiting : Option (OptionSpec × String) := none
  deriving DecidableEq, Repr

/-- Reads letters behind one dash. -/
def readLetters (specs : List OptionSpec) : List Char → Except UsageError Dashed
  | [] => .ok {}
  | c :: cs =>
    let name := String.ofList ['-', c]
    match specs.find? fun s => s.short == some c with
    | none => .error (.noSuchOption name)
    | some s =>
      if s.takesValue then
        if cs.isEmpty then .ok { waiting := some (s, name) }
        else .ok { options := [⟨s, String.ofList cs⟩] }
      else do
        let d ← readLetters specs cs
        return { d with options := ⟨s, ""⟩ :: d.options }

/-- Reads an argument that starts with a dash and is not a dash alone. -/
def readDashed (specs : List OptionSpec) (arg : List Char) : Except UsageError Dashed :=
  let name := String.ofList (arg.takeWhile (· != '='))
  match specs.find? fun s => s.long == name with
  | some s =>
    match arg.dropWhile (· != '='), s.takesValue with
    | [], true => .ok { waiting := some (s, name) }
    | [], false => .ok { options := [⟨s, ""⟩] }
    | _ :: value, true => .ok { options := [⟨s, String.ofList value⟩] }
    | _ :: _, false => .error (.unexpectedValue name)
  | none =>
    match arg with
    | '-' :: '-' :: _ => .error (.noSuchOption name)
    | _ => readLetters specs (arg.drop 1)

/-- Whether an argument gives options. -/
def isDashed (arg : List Char) : Bool :=
  match arg with
  | '-' :: _ :: _ => true
  | _ => false

/-- Reads arguments. If `interspersed` is not set, the first argument that gives no option ends the
options. -/
def readArguments (specs : List OptionSpec) (interspersed : Bool) :
    List String → Except UsageError Parsed
  | [] => .ok {}
  | arg :: args =>
    if arg == "--" then .ok { rest := args }
    else if isDashed arg.toList then do
      let d ← readDashed specs arg.toList
      match d.waiting with
      | none => return (← readArguments specs interspersed args).prepend d.options
      | some (s, name) =>
        match args with
        | [] => throw (.missingValue name)
        | value :: args =>
          return (← readArguments specs interspersed args).prepend (d.options ++ [⟨s, value⟩])
    else if interspersed then do
      let p ← readArguments specs interspersed args
      return { p with rest := arg :: p.rest }
    else .ok { rest := arg :: args }

/-- What the program is asked to do. -/
inductive Command where
  /-- Audits the package at a path. -/
  | validate (path format config : Option String) (strict : Bool)
  /-- Shows the agents, toolsets and tools of the package at a path. -/
  | inventory (path : Option String)
  /-- Lists the packages in a directory. -/
  | roots (path : Option String)
  deriving DecidableEq, Repr

/-- What the arguments ask for. -/
inductive Request where
  /-- The version of the program. -/
  | version
  /-- How the program is used. -/
  | help
  /-- A command. -/
  | command (c : Command)
  deriving DecidableEq, Repr

/-- The option that asks for help. -/
def helpOption : OptionSpec := { long := "--help" }

/-- The option that asks for the version. -/
def versionOption : OptionSpec := { long := "--version", short := some 'v' }

/-- The options of the program. -/
def programOptions : List OptionSpec :=
  [versionOption, { long := "--verbose" }, helpOption]

/-- The options of the command that audits a package. -/
def validateOptions : List OptionSpec :=
  [{ long := "--format", short := some 'f', takesValue := true },
    { long := "--config", short := some 'c', takesValue := true },
    { long := "--strict" }, helpOption]

/-- Reads the arguments of a command that takes a path. -/
def readCommand (specs : List OptionSpec) (args : List String)
    (command : Parsed → Option String → Command) : Except UsageError Request := do
  let p ← readArguments specs true args
  if p.has "--help" then return .help
  match p.rest with
  | [] => return .command (command p none)
  | [path] => return .command (command p (some path))
  | _ :: extra => throw (.unexpectedArguments extra)

/-- Reads the name of a command and its arguments. -/
def readCommandName : List String → Except UsageError Request
  | [] => .error .missingCommand
  | name :: args =>
    match name with
    | "validate" =>
      readCommand validateOptions args fun p path =>
        .validate path (p.value? "--format") (p.value? "--config") (p.has "--strict")
    | "inventory" => readCommand [helpOption] args fun _ path => .inventory path
    | "roots" => readCommand [helpOption] args fun _ path => .roots path
    | _ => .error (.noSuchCommand name)

/-- Reads the arguments of the program. The version and help are given before anything behind the
options is looked at. -/
def readRequest (args : List String) : Except UsageError Request := do
  let p ← readArguments programOptions false args
  match p.options.find? fun g => g.option == versionOption || g.option == helpOption with
  | some g => return if g.option == versionOption then .version else .help
  | none => readCommandName p.rest

end AgentPackage.CommandLine
