import Enclosure.Yaml.Node.Reader
import Enclosure.Yaml.Node.Value
import Enclosure.Yaml.Token.Stream

/-!
# YAML documents

The value of a YAML document, from its bytes. A text without a document is null. Reading goes from
node to node in calls within each other, and the frames for these are limited: each collection takes
two of them, and a document whose collections lie within each other too often has no value.
-/

set_option autoImplicit false

namespace Enclosure.Yaml

/-- The value of a text. -/
def ofSource (frames : Nat) (source : Source) : Except Fault Value := do
  match ← Graph.ofTokens? frames (TokenList.ofSource source) with
  | some (graph, root) => graph.value frames root
  | none => return .null

/-- The value of the document that bytes hold. -/
def ofBytes (frames : Nat) (bytes : List UInt8) : Except Fault Value :=
  ofSource frames (.ofBytes bytes)

end Enclosure.Yaml
