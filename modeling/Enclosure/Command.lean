import Enclosure.Command.Request
import Enclosure.Journal
import Enclosure.Scope.Document
import Enclosure.Settings.Load
import Enclosure.Text.Alphanumeric

/-!
# The command line

The program resolves the cursor that its arguments give and writes the answer as text or as JSON.
What does not fit is explained on the standard error stream. The log is set up by the settings, and
a verbose run logs everything.
-/

set_option autoImplicit false

namespace Enclosure

/-- What a run leaves to others: reading settings, reading arguments and writing the log. -/
structure Packages where
  settings : SettingReaders
  arguments : ArgumentReaders
  log : LogBackend

/-- Settings, arguments and the log in their standard forms. -/
def Packages.standard (stack : Stack) : Packages :=
  ⟨.standard stack, .standard, .standard⟩

/-- What a run of the program works with. -/
structure Workplace where
  packages : Packages
  stack : Stack
  files : Files
  homes : Homes
  environment : Environment
  /-- The user's own configuration file. -/
  userFile : FilePath
  /-- The working directory. -/
  directory : FilePath
  /-- Where the syntax trees of a language come from. -/
  provider : GrammarParser → TreeProvider
  /-- The time, for log lines. -/
  time : String

/-- What breaks off a run without a message. -/
inductive Breakdown
  | settings (failure : LoadFailure)
  | output (failure : OutputFailure)
  | tree (escape : Escape)
  /-- An argument names a path that holds the character that ends texts in a file system. -/
  | argument

/-- What comes of a run. -/
structure Outcome where
  exitCode : Nat
  /-- What was written, in order. -/
  written : List Written
  /-- What broke off the run, if something did. -/
  breakdown : Option Breakdown

namespace Outcome

/-- A run that ends with a text on the standard output. -/
def answer (text : String) : Outcome :=
  ⟨0, [⟨.stdout, text⟩], none⟩

/-- A run that ends with a complaint on the standard error stream. -/
def complain (exitCode : Nat) (text : String) : Outcome :=
  ⟨exitCode, [⟨.stderr, text⟩], none⟩

/-- A run whose arguments do not fit. -/
def misused (c : CommandText) (fault : UsageFault) : Outcome :=
  complain 2 (c.complaint fault)

/-- A run that is broken off. -/
def broken (cause : Breakdown) : Outcome :=
  ⟨1, [], some cause⟩

/-- A run that has already written something. -/
def after (written : List Written) (o : Outcome) : Outcome :=
  { o with written := written ++ o.written }

end Outcome

namespace Command

/-- The settings of a verbose run log everything. -/
def verboseSettings (verbose : Bool) (s : LoggingSettings) : LoggingSettings :=
  if verbose then { s with severity := .debug } else s

/-- Log events one after the other. -/
def logAll (time : String) : Journal → List Event → List Written × Journal
  | j, [] => ([], j)
  | j, e :: rest =>
    let (lines, j) := j.log (.ofEvent e time)
    let (more, j) := logAll time j rest
    (lines ++ more, j)

/-- The answer to a request, as it is written. -/
def answerText (json : Bool) (d : Descriptor) : String :=
  (if json then Json.write d.toValue else d.render) ++ "\n"

/-- Resolve a request with settings and a journal. -/
def resolveWith (w : Workplace) (r : ResolveRequest) (s : ResolverSettings) (j : Journal) :
    Outcome :=
  let path := FilePath.ofText r.path
  let found := (Document.open? j.files path s none w.provider).resolve r.range
  let (lines, j) := logAll w.time j found.events
  match found.value with
  | .error e => (Outcome.broken (.tree e)).after lines
  | .ok d =>
    let (last, _) := j.log (.ofEvent (.resolved path.text r.range d.isTop) w.time)
    (Outcome.answer (answerText r.json d)).after (lines ++ last)

/-- Where the settings for a request come from. -/
def sources (w : Workplace) (r : ResolveRequest) : SettingSources where
  stack := w.stack
  readers := w.packages.settings
  files := w.files
  homes := w.homes
  environment := w.environment
  userFile := w.userFile
  project := w.directory
  explicitFile := r.config.map .ofText
  overrides := .none

/-- Resolve a request. -/
def resolve (w : Workplace) (verbose : Bool) (r : ResolveRequest) : Outcome :=
  match Settings.load (sources w r) with
  | .error (.config e) => .complain 1 ("Error: " ++ e.report.text ++ "\n")
  | .error failure => .broken (.settings failure)
  | .ok s =>
    let journal := Journal.initial w.packages.log w.files
    match journal.configure (verboseSettings verbose s.logging) with
    | (some failure, _) => .broken (.output failure)
    | (none, j) => resolveWith w r s.resolver j

/-- Run the command that resolves a cursor. -/
def runResolve (w : Workplace) (verbose : Bool) (args : List String) : Outcome :=
  match w.packages.arguments.resolve args with
  | .error fault => .misused .resolve (.form fault)
  | .ok a =>
    if a.has .help then .answer CommandText.resolve.help
    else
      match ResolveArguments.request w.files a with
      | .error (.usage fault) => .misused .resolve fault
      | .error .zeroInPath => .broken .argument
      | .ok r => resolve w verbose r

/-- What the options of the program ask for by themselves, by the one given first. -/
def informed? (a : Arguments ProgramOption) : Option Outcome :=
  match a.keys.find? fun k => k ≠ .verbose with
  | some .version => some (.answer versionText)
  | some .help => some (.answer CommandText.program.help)
  | _ => none

/-- What an unknown command comes to, whose name comes first among arguments. If the name looks like
an option, the arguments are read as those of the program once more. -/
def unknown (w : Workplace) (name : String) (args : List String) : Outcome :=
  let missing := Outcome.misused .program (.noSuchCommand name)
  if name.toList.head?.all Alphanumeric.isAlphanumeric then missing
  else
    match w.packages.arguments.program args with
    | .error fault => .misused .program (.form fault)
    | .ok a => (informed? a).getD missing

/-- Run the program. -/
def run (w : Workplace) (args : List String) : Outcome :=
  if args.isEmpty then .complain 2 CommandText.program.help
  else
    match w.packages.arguments.program args with
    | .error fault => .misused .program (.form fault)
    | .ok a =>
      match informed? a, a.positional with
      | some o, _ => o
      | none, [] => .misused .program .missingCommand
      | none, "resolve" :: rest => runResolve w (a.has .verbose) rest
      | none, name :: rest => unknown w name (name :: rest)

end Command

end Enclosure
