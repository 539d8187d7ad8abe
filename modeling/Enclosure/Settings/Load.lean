import Enclosure.Settings.File
import Enclosure.Settings.Overrides
import Enclosure.Settings.Readers

/-!
# Loading settings

Settings come from four sources: what the caller overrides, the environment, the configuration file
of the project, or another one in its place, and the user's own configuration file. Groups are
merged member by member, and of the sources that set a member the first one counts. Checking comes
after merging, so a value that is set aside need not be acceptable; but all values are read and
merged, and that can go wrong too.
-/

set_option autoImplicit false

namespace Enclosure

/-- Where settings come from. -/
structure SettingSources where
  stack : Stack
  readers : SettingReaders
  files : Files
  homes : Homes
  environment : Environment
  /-- The user's own configuration file. -/
  userFile : FilePath
  /-- The directory of the project. -/
  project : FilePath
  /-- The file that takes the place of the project's. -/
  explicitFile : Option FilePath
  /-- What the caller overrides. -/
  overrides : Overrides

namespace SettingSources

/-- Where a project keeps its configuration file. -/
def projectFile (s : SettingSources) : FilePath :=
  s.project.join (.ofText ".codescope/config.yaml")

/-- The entries of a configuration file. -/
def readFile (s : SettingSources) (path : FilePath) : Except LoadFailure Entries :=
  ConfigFile.read s.readers.document s.files path

/-- The entries of the project's file, or of the one in its place, which must exist. -/
def projectEntries (s : SettingSources) : Except LoadFailure Entries :=
  match s.explicitFile with
  | none => s.readFile s.projectFile
  | some path =>
    match s.files.lookup path with
    | .ok _ => s.readFile path
    | .error (.invalid .tooLong) => .error .longPath
    | .error _ => .error (.config (.fileNotFound path.text))

/-- The entries of an override merged into those of a base, where as many merges as there are levels
can lie within each other. -/
def laid (levels : Nat) (base override : Entries) : Except LoadFailure Entries :=
  match Entries.merge? levels base override with
  | some merged => .ok merged
  | none => .error .tooDeep

/-- The entries of both files together. -/
def fileEntries (s : SettingSources) : Except LoadFailure Entries := do
  let project ← s.projectEntries
  let user ← s.readFile s.userFile
  laid s.stack.files user project

/-- The entries that variables give. -/
def environmentEntries (s : SettingSources) : Except LoadFailure Entries :=
  (s.readers.environment s.overrides.naming s.environment).mapError .ofVariables

/-- The entries of all sources together. -/
def merged (s : SettingSources) : Except LoadFailure Entries := do
  let files ← s.fileEntries
  let environment ← s.environmentEntries
  let given ← laid s.stack.sources environment s.overrides.entries
  laid s.stack.sources files given

end SettingSources

namespace Settings

/-- The names of the groups of settings. -/
def groupNames : List String :=
  ["logging", "resolver"]

/-- The issue with an entry that is no group of settings. -/
def strayIssue? (e : Value × Value) : Option Issue :=
  match e.1 with
  | .str s => if s ∈ groupNames then none else some ⟨.unknownSetting, [.member s], e.2⟩
  | _ => none

/-- Check entries that may hold nothing but groups of settings. -/
def checkStrict (c : Coercion) (homes : Homes) (entries : Entries) : Checked Settings :=
  ((Settings.check c homes (.map entries)).map fun s _ => s).both
    (.ofIssues () (entries.filterMap strayIssue?))

/-- The failure that an issue is: a fault in the configuration, if the value found can be shown. -/
def failure (levels : Nat) (i : Issue) : LoadFailure :=
  match i.input.textFault? levels with
  | none => .config (.invalidValue i.placeText i.input i.kind.message)
  | some fault => .ofWriting fault

/-- The settings that a check accepts, or the failure that its first issue is. -/
def ofChecked (levels : Nat) : Checked Settings → Except LoadFailure Settings
  | .accepted s => .ok s
  | .homeless => .error .homeless
  | .rejected first _ => .error (failure levels first)

/-- Whether a key is a text. -/
def isNamed (e : Value × Value) : Bool :=
  match e.1 with
  | .str _ => true
  | _ => false

/-- The settings that entries give. -/
def ofEntries (s : SettingSources) (entries : Entries) : Except LoadFailure Settings :=
  if entries.all isNamed then
    ofChecked s.stack.messages (checkStrict s.readers.coercion s.homes entries)
  else .error .unnamed

/-- Settings as they are when they are read back. -/
def readBack (c : Coercion) (homes : Homes) (s : Settings) : Except LoadFailure Settings :=
  match Settings.check c homes s.toValue with
  | .accepted s => .ok s
  | .homeless => .error .homeless
  | .rejected first others => .error (.unstable first others)

/-- Load the settings. -/
def load (s : SettingSources) : Except LoadFailure Settings := do
  let entries ← s.merged
  let settings ← ofEntries s entries
  readBack s.readers.coercion s.homes settings

end Settings

end Enclosure
