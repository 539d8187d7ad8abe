import Enclosure.Fault
import Enclosure.Settings.Environment
import Enclosure.Settings.Issue
import Enclosure.Yaml.Fault

/-!
# Failures to load settings

Most of what can go wrong is a fault in the configuration, which has a report. The other failures
have none.
-/

set_option autoImplicit false

namespace Enclosure

/-- Why there are no settings. -/
inductive LoadFailure
  /-- The configuration is at fault. -/
  | config (e : ConfigError)
  /-- A directory lies where a file is to be read. -/
  | directory
  /-- The path of a file is longer than paths may be. -/
  | longPath
  /-- A file is not UTF-8. -/
  | notText
  /-- A scalar in a file is not a value of its type. -/
  | scalar (cause : Yaml.ScalarFault)
  /-- A value lies within itself more often than what goes through it can go on. -/
  | tooDeep
  /-- An environment variable does not hold JSON where a group of settings needs it. -/
  | environment (group : String)
  /-- A name at the top level is not a text. -/
  | unnamed
  /-- A value that is to be shown holds an integer with more digits than are written. -/
  | unwritable
  /-- A path names a home directory that does not exist. -/
  | homeless
  /-- The settings are not accepted when they are read back. -/
  | unstable (first : Issue) (others : List Issue)

namespace LoadFailure

/-- Whether a failure is a fault in the configuration, and so has a report. -/
def isReported : LoadFailure → Bool
  | .config _ => true
  | _ => false

/-- The failure that a fault of the environment is. -/
def ofVariables : VariableFault → LoadFailure
  | .misstated group => .environment group
  | .tooDeep => .tooDeep

/-- The failure that it is that a value cannot be shown. -/
def ofWriting : Value.WritingFault → LoadFailure
  | .tooLong => .unwritable
  | .tooDeep => .tooDeep

end LoadFailure

end Enclosure
