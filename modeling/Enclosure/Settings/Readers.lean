import Enclosure.Settings.Check
import Enclosure.Settings.Environment
import Enclosure.Stack
import Enclosure.Yaml.Document

/-!
# Readers of settings

How documents and variables are read, and how values are taken for those of another type, is not
decided here: loading settings goes by whatever readers it is given. The standard ones read YAML and
JSON.
-/

set_option autoImplicit false

namespace Enclosure

/-- How the sources of settings are read. -/
structure SettingReaders where
  /-- The value of the document that bytes hold. -/
  document : List UInt8 → Except Yaml.Fault Value
  /-- What variables set, if they are named in some way. -/
  environment : VariableNaming → Environment → Except VariableFault Entries
  coercion : Coercion

/-- Documents are YAML, variables hold JSON or a text, and values are taken for others in the lax
way. -/
def SettingReaders.standard (stack : Stack) : SettingReaders where
  document := Yaml.ofBytes stack.documents
  environment naming env := env.entries stack.environment naming
  coercion := .lax

end Enclosure
