import Enclosure.Command.Arguments
import Enclosure.Text.Decimal
import Enclosure.Text.Quoted

/-!
# Using the commands

The options of the program and of its command, the texts that explain them, and what is said about
arguments that do not fit.
-/

set_option autoImplicit false

namespace Enclosure

/-- The options of the program. -/
inductive ProgramOption
  | version
  | verbose
  | help
deriving DecidableEq

/-- The options of the program as they are written. -/
def ProgramOption.specs : List (OptionSpec ProgramOption) := [
  ⟨.version, "--version", none, false⟩,
  ⟨.verbose, "--verbose", some 'v', false⟩,
  ⟨.help, "--help", none, false⟩]

/-- The options of resolving a cursor. -/
inductive ResolveOption
  | line
  | column
  | endLine
  | endColumn
  | config
  | json
  | help
deriving DecidableEq

namespace ResolveOption

/-- The options of resolving a cursor as they are written. -/
def specs : List (OptionSpec ResolveOption) := [
  ⟨.line, "--line", some 'l', true⟩,
  ⟨.column, "--column", some 'c', true⟩,
  ⟨.endLine, "--end-line", none, true⟩,
  ⟨.endColumn, "--end-column", none, true⟩,
  ⟨.config, "--config", none, true⟩,
  ⟨.json, "--json", none, false⟩,
  ⟨.help, "--help", none, false⟩]

/-- How an option is named in messages. -/
def hint (o : ResolveOption) : String :=
  match specs.find? fun s => s.key = o with
  | some ⟨_, long, some letter, _⟩ => "'" ++ long ++ "' / '" ++ String.ofList ['-', letter] ++ "'"
  | some ⟨_, long, none, _⟩ => "'" ++ long ++ "'"
  | none => ""

end ResolveOption

/-- How arguments are taken apart into options and positional arguments. -/
structure ArgumentReaders where
  /-- The arguments of the program, where a command ends the options. -/
  program : List String → Except ArgumentFault (Arguments ProgramOption)
  /-- The arguments for resolving a cursor. -/
  resolve : List String → Except ArgumentFault (Arguments ResolveOption)

/-- Arguments are read by the options as they are written. -/
def ArgumentReaders.standard : ArgumentReaders where
  program := Arguments.read ProgramOption.specs true
  resolve := Arguments.read ResolveOption.specs false

/-- The names of the commands. -/
def commandNames : List String :=
  ["resolve"]

/-- What an argument is for. -/
inductive Parameter
  | path
  | option (o : ResolveOption)
deriving DecidableEq

/-- How a parameter is named in messages. -/
def Parameter.hint : Parameter → String
  | .path => "'PATH'"
  | .option o => o.hint

/-- Why arguments do not fit. -/
inductive UsageFault
  /-- Their form is wrong. -/
  | form (fault : ArgumentFault)
  | missingCommand
  | noSuchCommand (name : String)
  | missingPath
  | missingOption (o : ResolveOption)
  /-- An argument is not an integer, or has more digits than are read. -/
  | notInteger (o : ResolveOption) (text : String)
  /-- A coordinate is less than one. -/
  | outOfRange (o : ResolveOption) (value : Int)
  /-- There is no such file. -/
  | noFile (p : Parameter) (text : String)
  /-- A directory lies where a file is wanted. -/
  | directory (p : Parameter) (text : String)
  /-- There are positional arguments too many. -/
  | extraArguments (args : List String)
deriving DecidableEq

namespace UsageFault

/-- A value that a parameter does not accept. -/
def invalid (p : Parameter) (reason : String) : String :=
  "Invalid value for " ++ p.hint ++ ": " ++ reason

/-- What is said about names that may have been meant, after a name that does not exist. -/
def suggestion : List String → String
  | [] => ""
  | [name] => " Did you mean " ++ Quoted.text name ++ "?"
  | names => " (Did you mean one of: " ++ ", ".intercalate (names.map Quoted.text) ++ "?)"

/-- What is said about arguments that do not fit. -/
def message : UsageFault → String
  | .form (.noSuchOption name similar) =>
    "No such option " ++ Quoted.text name ++ "." ++ suggestion similar
  | .form (.needsValue name) => "Option " ++ Quoted.text name ++ " requires an argument."
  | .form (.takesNoValue name) => "Option " ++ Quoted.text name ++ " does not take a value."
  | .missingCommand => "Missing command."
  | .noSuchCommand name =>
    "No such command " ++ Quoted.text name ++ "."
      ++ suggestion (Similarity.closest commandNames name)
  | .missingPath => "Missing argument 'PATH'."
  | .missingOption o => "Missing option " ++ o.hint ++ "."
  | .notInteger o text =>
    invalid (.option o) (Quoted.text text ++ " is not a valid integer range.")
  | .outOfRange o value => invalid (.option o) (Decimal.text value ++ " is not in the range x>=1.")
  | .noFile p text => invalid p ("File " ++ Quoted.text text ++ " does not exist.")
  | .directory p text => invalid p ("File " ++ Quoted.text text ++ " is a directory.")
  | .extraArguments [arg] => "Got unexpected extra argument (" ++ arg ++ ")"
  | .extraArguments args => "Got unexpected extra arguments (" ++ " ".intercalate args ++ ")"

/-- Whether the usage is recalled before what is said: not where an option and its value do not go
together. -/
def recallsUsage : UsageFault → Bool
  | .form (.needsValue _) => false
  | .form (.takesNoValue _) => false
  | _ => true

end UsageFault

/-- The texts about a command. -/
structure CommandText where
  /-- How the command is called. -/
  name : String
  /-- What follows the name. -/
  arguments : String
  /-- The lines of the help below the usage. -/
  description : List String

namespace CommandText

/-- The line that shows how a command is used. -/
def usage (c : CommandText) : String :=
  "Usage: " ++ c.name ++ " " ++ c.arguments ++ "\n"

/-- The help of a command. -/
def help (c : CommandText) : String :=
  c.usage ++ String.join (c.description.map (· ++ "\n"))

/-- What is written about arguments that do not fit a command. -/
def complaint (c : CommandText) (fault : UsageFault) : String :=
  (if fault.recallsUsage then c.usage ++ "Try '" ++ c.name ++ " --help' for help.\n\n" else "")
    ++ "Error: " ++ fault.message ++ "\n"

/-- The texts about the program. -/
def program : CommandText where
  name := "codescope"
  arguments := "[OPTIONS] COMMAND [ARGS]..."
  description := [
    "",
    "  codescope - describe the declaration enclosing a cursor.",
    "",
    "Options:",
    "  --version      Show the version and exit.",
    "  -v, --verbose  Enable debug logging",
    "  --help         Show this message and exit.",
    "",
    "Commands:",
    "  resolve  Describe the declaration enclosing a cursor in PATH."]

/-- The texts about resolving a cursor. -/
def resolve : CommandText where
  name := "codescope resolve"
  arguments := "[OPTIONS] PATH"
  description := [
    "",
    "  Describe the declaration enclosing a cursor in PATH.",
    "",
    "  The cursor is --line/--column; add --end-line/--end-column for a selection.",
    "  Coordinates are 1-based, as shown by editors.",
    "",
    "Options:",
    "  -l, --line INTEGER RANGE    1-based line  [x>=1; required]",
    "  -c, --column INTEGER RANGE  1-based column  [x>=1]",
    "  --end-line INTEGER RANGE    Selection end line (1-based)  [x>=1]",
    "  --end-column INTEGER RANGE  Selection end column (1-based)  [x>=1]",
    "  --config FILE               Config file (default: .codescope/config.yaml)",
    "  --json                      Output as JSON",
    "  --help                      Show this message and exit."]

end CommandText

/-- What the program says about its version. -/
def versionText : String :=
  "codescope, version 0.1.0\n"

end Enclosure
