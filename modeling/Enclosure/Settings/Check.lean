import Enclosure.Settings.Coercion
import Enclosure.Settings.Schema
import Enclosure.Text.LowerCase

/-!
# Checking settings

What each setting accepts and what it makes of it, given how values are taken for those of another
type. The language is trimmed and put in lower case, and the path of a log file is put in normal
form with its home directory filled in. Members that no setting has are ignored; a member that is
absent leaves the default.
-/

set_option autoImplicit false

namespace Enclosure

namespace Check

/-- Accept what was found, or report what is wrong with a value. -/
def ofFound {α : Type} (found : Except IssueKind α) (v : Value) : Checked α :=
  match found with
  | .ok a => .accepted a
  | .error kind => .issue kind v

/-- One of a list of words. -/
def word {α : Type} (choices : List (String × α)) (v : Value) : Checked α :=
  let refuse : Checked α := .issue (.notWord (choices.map Prod.fst)) v
  match v with
  | .str s =>
    match choices.find? fun c => c.1 = s with
    | some c => .accepted c.2
    | none => refuse
  | _ => refuse

/-- A text. -/
def text (c : Coercion) (v : Value) : Checked String :=
  ofFound (c.text v) v

/-- A truth value. -/
def truth (c : Coercion) (v : Value) : Checked Bool :=
  ofFound (c.truth v) v

/-- An integer. -/
def integer (c : Coercion) (v : Value) : Checked Int :=
  ofFound (c.integer v) v

/-- A positive integer. -/
def positive (c : Coercion) (v : Value) : Checked Positive :=
  (integer c v).andThen fun i =>
    match Positive.ofInt? i with
    | some n => .accepted n
    | none => .issue (.notPositive i) v

/-- The severities by their words. -/
def severities : List (String × Severity) :=
  Severity.all.map fun s => (s.setting, s)

/-- A severity. -/
def severity (v : Value) : Checked Severity :=
  word severities v

/-- A format of log lines. -/
def format (v : Value) : Checked LogFormat :=
  word [(LogFormat.json.setting, .json), (LogFormat.console.setting, .console)] v

/-- A severity or nothing. -/
def severity? (v : Value) : Checked (Option Severity) :=
  match v with
  | .null => .accepted none
  | v => (severity v).map some

/-- Where a text sends log lines. -/
def destinationOf (homes : Homes) (v : Value) (s : String) : Checked Destination :=
  if s = "stderr" then .accepted .stderr
  else if s = "stdout" then .accepted .stdout
  else
    match (FilePath.ofText s).expand homes with
    | .error .unknown => .homeless
    | .error .zeroCharacter => .issue .zeroCharacter v
    | .ok path =>
      if path.isAbsolute then .accepted (.file path) else .issue (.relativeDestination s) v

/-- Where log lines go. -/
def destination (c : Coercion) (homes : Homes) (v : Value) : Checked Destination :=
  (text c v).andThen (destinationOf homes v)

/-- A language, trimmed and in lower case. -/
def language (c : Coercion) (v : Value) : Checked String :=
  (text c v).map fun s => LowerCase.lower (Blank.trim s)

/-- The members of a group of settings. -/
def group (name : String) (v : Value) : Checked Entries :=
  match v.opened with
  | .map entries => .accepted entries
  | _ => .issue (.notGroup name) v

/-- One member of a group, or its default when it is absent. -/
def member {α : Type} (entries : Entries) (name : String) (default : α)
    (check : Value → Checked α) : Checked α :=
  match Entries.get? (.str name) entries with
  | some v => (check v).under (.member name)
  | none => .accepted default

/-- Values one after the other, one check each, from the one with a number on. -/
def inTurn {α : Type} (check : Value → Checked α) : Nat → List Value → Checked (List α)
  | _, [] => .accepted []
  | k, v :: rest =>
    (((check v).under (.item k)).map List.cons).both (inTurn check (k + 1) rest)

/-- A list of settings. -/
def listOf {α : Type} (c : Coercion) (check : Value → Checked α) (v : Value) :
    Checked (List α) :=
  (ofFound (c.items v) v).andThen (inTurn check 0)

end Check

/-- Check one output of the log. -/
def LogOutput.check (c : Coercion) (homes : Homes) (v : Value) : Checked LogOutput :=
  (Check.group "LogOutputConfig" v).andThen fun entries =>
    (((Check.member entries "format" LogOutput.default.format Check.format).map LogOutput.mk).both
      (Check.member entries "destination" LogOutput.default.destination
        (Check.destination c homes))).both
      (Check.member entries "level" LogOutput.default.severity Check.severity?)

/-- Check the settings of the log. -/
def LoggingSettings.check (c : Coercion) (homes : Homes) (v : Value) : Checked LoggingSettings :=
  (Check.group "LoggingConfig" v).andThen fun entries =>
    ((Check.member entries "level" LoggingSettings.default.severity Check.severity).map
      LoggingSettings.mk).both
      (Check.member entries "outputs" LoggingSettings.default.outputs
        (Check.listOf c (LogOutput.check c homes)))

/-- The severity of a log with one output unless another one is set. -/
def LoggingSettings.singleSeverity : Severity :=
  .info

/-- Check the severity of a log with one output on the standard error stream. -/
def LoggingSettings.checkSingle (format : LogFormat) (severity : Option Value) :
    Checked LoggingSettings :=
  let found := match severity with
    | some v => (Check.severity v).under (.member "level")
    | none => .accepted LoggingSettings.singleSeverity
  found.map fun s => ⟨s, [{ LogOutput.default with format := format }]⟩

/-- Check the settings of resolving cursors. -/
def ResolverSettings.check (c : Coercion) (v : Value) : Checked ResolverSettings :=
  (Check.group "ResolverConfig" v).andThen fun entries =>
    ((((Check.member entries "language" ResolverSettings.default.language (Check.language c)).map
      ResolverSettings.mk).both
      (Check.member entries "note_separator" ResolverSettings.default.noteSeparator
        (Check.text c))).both
      (Check.member entries "accept_partial_trees" ResolverSettings.default.acceptPartialTrees
        (Check.truth c))).both
      (Check.member entries "max_file_size_kb" ResolverSettings.default.maxFileSizeKb
        (Check.positive c))

/-- Check all settings. -/
def Settings.check (c : Coercion) (homes : Homes) (v : Value) : Checked Settings :=
  (Check.group "CodeScopeConfig" v).andThen fun entries =>
    ((Check.member entries "logging" Settings.default.logging
      (LoggingSettings.check c homes)).map Settings.mk).both
      (Check.member entries "resolver" Settings.default.resolver
        (ResolverSettings.check c))

end Enclosure
