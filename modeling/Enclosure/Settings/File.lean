import Enclosure.Files
import Enclosure.Settings.Failure
import Enclosure.Yaml.Fault

/-!
# Configuration files

A configuration file is a document that is a mapping. How the value of a document is read from its
bytes is left open. A file that does not exist, and a document that counts as nothing, give no
entries.
-/

set_option autoImplicit false

namespace Enclosure.ConfigFile

/-- What is said about a document that is not well formed. -/
def malformedReason : String :=
  "<yaml error>"

/-- What is said about a document that is not a mapping. -/
def notMappingReason : String :=
  "top level must be a mapping"

/-- The failure that a fault of a document at a path is. -/
def failure (path : FilePath) : Yaml.Fault → LoadFailure
  | .notText => .notText
  | .malformed => .config (.unreadable path.text malformedReason)
  | .scalar cause => .scalar cause
  | .tooDeep => .tooDeep

/-- The entries that the value of a document at a path gives. -/
def entriesOf (path : FilePath) (v : Value) : Except LoadFailure Entries :=
  if v.isEmpty then .ok []
  else
    match v.opened with
    | .map entries => .ok entries
    | _ => .error (.config (.unreadable path.text notMappingReason))

/-- How the value of a document is read from its bytes. -/
abbrev DocumentReader :=
  List UInt8 → Except Yaml.Fault Value

/-- The entries that the bytes of a file at a path give. -/
def ofBytes (document : DocumentReader) (path : FilePath) (bytes : List UInt8) :
    Except LoadFailure Entries :=
  match document bytes with
  | .ok v => entriesOf path v
  | .error fault => .error (failure path fault)

/-- The entries of the file at a path. -/
def read (document : DocumentReader) (files : Files) (path : FilePath) :
    Except LoadFailure Entries :=
  match files.lookup path with
  | .error (.invalid .tooLong) => .error .longPath
  | .error _ => .ok []
  | .ok .directory => .error .directory
  | .ok (.file bytes) => ofBytes document path bytes

end Enclosure.ConfigFile
