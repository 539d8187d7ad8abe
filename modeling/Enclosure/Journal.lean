import Enclosure.Files
import Enclosure.Journal.Backend
import Enclosure.Text.Utf8

/-!
# The journal

The log of a run: its threshold, its outputs and the files that it has written to. An entry reaches
an output if it is at least as severe as the threshold and as the severity of the output. Without
any output, warnings and what is more severe go to the standard error stream. The lines themselves
are written by a backend.
-/

set_option autoImplicit false

namespace Enclosure

/-- Where an output writes. -/
inductive LogTarget
  | stderr
  | stdout
  | file (place : Location)
deriving DecidableEq

/-- An output that is ready to be written to. -/
structure OpenOutput where
  severity : Severity
  format : LogFormat
  target : LogTarget
deriving DecidableEq

/-- A line for a target. -/
structure Written where
  target : LogTarget
  text : String

/-- The log of a run. -/
structure Journal where
  backend : LogBackend
  /-- The severity below which nothing is logged; none before the journal has been set up. -/
  threshold : Option Severity
  outputs : List OpenOutput
  files : Files

/-- Why an output could not be opened. -/
inductive OutputFailure
  /-- A directory for the file could not be made. -/
  | parent (cause : Files.DirectoryFailure)
  /-- A directory lies where the file would be. -/
  | directory
  /-- There can be no such file. -/
  | invalid (fault : PathFault)
deriving DecidableEq

namespace Journal

/-- The journal before it has been set up. -/
def initial (backend : LogBackend) (files : Files) : Journal :=
  ⟨backend, none, [], files⟩

/-! ## Setting up -/

/-- The place of a part below a directory. -/
def placeIn (directory : Location) (part : List Char) : Location :=
  if part = ['.', '.'] then directory.dropLast else directory ++ [part]

/-- What is wrong with a path to a file whose directory is there, if something is. -/
def nameFault? (path : FilePath) : Option PathFault :=
  path.fault?.or (if FilePath.isLongName path.name then some .tooLong else none)

/-- Open a file for log lines: its directories are made, and so is the file if it is not there. -/
def openFile (files : Files) (path : FilePath) : Except OutputFailure (Files × Location) := do
  let (files, directory) ← (files.makeDirectories path.parent).mapError .parent
  match nameFault? path with
  | some fault => throw (.invalid fault)
  | none =>
    let place := if path.parts.isEmpty then [] else placeIn directory path.name
    match files.entry? place with
    | some .directory => throw .directory
    | some (.file _) => return (files, place)
    | none => return (files.put place (.file []), place)

/-- Open an output. -/
def openTarget (files : Files) : Destination → Except OutputFailure (Files × LogTarget)
  | .stderr => .ok (files, .stderr)
  | .stdout => .ok (files, .stdout)
  | .file path => (openFile files path).map fun (files, place) => (files, .file place)

/-- Open outputs one after the other, up to the first one that cannot be opened. -/
def openAll (threshold : Severity) (j : Journal) : List LogOutput → Option OutputFailure × Journal
  | [] => (none, j)
  | o :: rest =>
    match openTarget j.files o.destination with
    | .error e => (some e, j)
    | .ok (files, target) =>
      let opened : OpenOutput := ⟨o.severity.getD threshold, o.format, target⟩
      openAll threshold { j with outputs := j.outputs ++ [opened], files := files } rest

/-- Set up the journal anew. Its earlier outputs are given up first, so that they are gone even when
an output cannot be opened. -/
def configure (j : Journal) (settings : LoggingSettings) : Option OutputFailure × Journal :=
  openAll settings.severity { j with threshold := some settings.severity, outputs := [] }
    settings.outputs

/-! ## Writing -/

/-- Whether a severity is at least another one. -/
def reaches (s least : Severity) : Bool :=
  least.rank ≤ s.rank

/-- The outputs that an entry of some severity reaches. -/
def receivers (j : Journal) (s : Severity) : List OpenOutput :=
  if reaches s (j.threshold.getD .warning) then j.outputs.filter fun o => reaches s o.severity
  else []

/-- The text that stands for an entry where there is no output. -/
def lastResort (r : LogRecord) : String :=
  match r.message with
  | some m => m
  | none => (Value.map r.fields).nestedText

/-- The line of an entry. -/
def line (target : LogTarget) (text : String) : Written :=
  ⟨target, text ++ "\n"⟩

/-- Whether the filter lets an entry of some severity through; before the journal has been set up,
it lets all through. -/
def passes (j : Journal) (s : Severity) : Bool :=
  j.threshold.all fun least => j.backend.passes least s

/-- The line of an entry of the program before the journal has been set up. -/
def firstLine (j : Journal) (r : LogRecord) : List Written :=
  match j.backend.first r.fields with
  | .ok text => [line .stdout text]
  | .error _ => []

/-- The lines that an entry makes. Entries of the program itself go through the filter, and to the
standard output before the journal has been set up. An output that cannot show an entry gets no line
of it. -/
def linesOf (j : Journal) (r : LogRecord) : List Written :=
  if r.message.isNone && !j.passes r.severity then []
  else if j.threshold.isNone && r.message.isNone then j.firstLine r
  else if j.outputs.isEmpty then
    if reaches r.severity (j.threshold.getD .warning) && reaches r.severity .warning then
      [line .stderr (lastResort r)]
    else []
  else
    (j.receivers r.severity).filterMap fun o =>
      (j.backend.text? o.format r.fields).map (line o.target)

/-- Write a line, if it goes to a file. -/
def append (files : Files) (w : Written) : Files :=
  match w.target with
  | .file place =>
    match files.entry? place with
    | some (.file content) => files.put place (.file (content ++ Utf8.encode w.text))
    | _ => files
  | _ => files

/-- Log an entry: the lines that it makes and the journal after it. -/
def log (j : Journal) (r : LogRecord) : List Written × Journal :=
  let lines := j.linesOf r
  (lines, { j with files := lines.foldl append j.files })

/-- Log fields and an event with some severity at some time, after fields that were set before. Some
names are not for fields, and what stands below a line must be a text. -/
def logFields (j : Journal) (bound fields : Entries) (event : Value) (severity : Severity)
    (time : String) : Except LogRecord.FieldFault (List Written × Journal) := do
  let slight := !j.passes severity
  if let some fault := LogRecord.nameFault? slight bound fields then throw fault
  let record := LogRecord.own bound fields event severity time
  if j.threshold.isNone then
    if let .error v := j.backend.first record.fields then throw (.notText v)
  return j.log record

end Journal

end Enclosure
