import Enclosure.Proofs.Except
import Enclosure.Settings.Environment

/-!
# Variables that cannot be read

The environment is at fault through its first group of settings that is, and a group is at fault
when the variable of the whole group holds no JSON that can be read, when the variable of a member
that is given as JSON does not, or when what the members say lies too deep to be merged into what
the whole group says.
-/

set_option autoImplicit false

namespace Enclosure.Environment

variable {levels : Nat} {naming : VariableNaming} {g : VariableGroup} {env : Environment}
  {f : Json.Fault}

end Enclosure.Environment
