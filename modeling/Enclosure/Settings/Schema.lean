import Enclosure.Event
import Enclosure.FilePath
import Enclosure.Number.Positive
import Enclosure.Scope.Notes

/-!
# Settings

The settings of the program: where and how it logs, and how it resolves cursors. Every setting has a
default. A log file is always given by an absolute path, and the limit on the size of documents is
always positive.
-/

set_option autoImplicit false

namespace Enclosure

/-- How log lines are written. -/
inductive LogFormat
  | json
  | console
deriving DecidableEq

/-- The word for a format. -/
def LogFormat.setting : LogFormat → String
  | .json => "json"
  | .console => "console"

/-- Where log lines go. -/
inductive Destination
  | stderr
  | stdout
  | file (path : FilePath)
deriving DecidableEq

/-- The text of a destination. -/
def Destination.text : Destination → String
  | .stderr => "stderr"
  | .stdout => "stdout"
  | .file path => path.text

/-- One output of the log; without a severity of its own it takes that of the whole log. -/
structure LogOutput where
  format : LogFormat
  destination : Destination
  severity : Option Severity
deriving DecidableEq

/-- An output unless something else is set. -/
def LogOutput.default : LogOutput :=
  ⟨.console, .stderr, none⟩

/-- The settings of the log. -/
structure LoggingSettings where
  severity : Severity
  outputs : List LogOutput
deriving DecidableEq

/-- The settings of the log unless something else is set. -/
def LoggingSettings.default : LoggingSettings :=
  ⟨.warning, [.default]⟩

/-- The settings of resolving cursors. -/
structure ResolverSettings where
  /-- The language of documents without an extension. -/
  language : String
  /-- What is put between notes. -/
  noteSeparator : String
  /-- Whether trees with syntax errors are used. -/
  acceptPartialTrees : Bool
  /-- The size, in units of 1024 bytes, over which documents are not read. -/
  maxFileSizeKb : Positive
deriving DecidableEq

/-- The settings of resolving cursors unless something else is set. -/
def ResolverSettings.default : ResolverSettings :=
  ⟨"swift", Notes.defaultSeparator, false, ⟨1024, by decide⟩⟩

/-- All settings. -/
structure Settings where
  logging : LoggingSettings
  resolver : ResolverSettings
deriving DecidableEq

/-- All settings unless something else is set. -/
def Settings.default : Settings :=
  ⟨.default, .default⟩

/-- An output as a mapping. -/
def LogOutput.toValue (o : LogOutput) : Value :=
  .object [("format", .str o.format.setting), ("destination", .str o.destination.text),
    ("level", (o.severity.map fun s => .str s.setting).getD .null)]

/-- The settings of the log as a mapping. -/
def LoggingSettings.toValue (s : LoggingSettings) : Value :=
  .object [("level", .str s.severity.setting), ("outputs", .list (s.outputs.map LogOutput.toValue))]

/-- The settings of resolving cursors as a mapping. -/
def ResolverSettings.toValue (s : ResolverSettings) : Value :=
  .object [("language", .str s.language), ("note_separator", .str s.noteSeparator),
    ("accept_partial_trees", .bool s.acceptPartialTrees),
    ("max_file_size_kb", .int s.maxFileSizeKb.number)]

/-- All settings as a mapping. -/
def Settings.toValue (s : Settings) : Value :=
  .object [("logging", s.logging.toValue), ("resolver", s.resolver.toValue)]

end Enclosure
