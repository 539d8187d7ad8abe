import Enclosure.Yaml.Node.Object

/-!
# The values of nodes

The objects of a document put together to a value. A collection that lies within itself becomes a
knot, and stands as its label there. A value without knots is put together once, however often it
stands in the document.
-/

set_option autoImplicit false

namespace Enclosure.Yaml

/-- A value with the labels in it whose knots are around it. -/
structure Loose where
  value : Value
  labels : List Label

namespace Loose

/-- A value without such labels. -/
def closed (v : Value) : Loose :=
  ⟨v, []⟩

/-- Whether a value has no such labels. -/
def isClosed (l : Loose) : Bool :=
  l.labels.isEmpty

/-- The labels in several values. -/
def allLabels (ls : List Loose) : List Label :=
  (ls.flatMap labels).eraseDups

/-- A collection of which some values are part, tied to a knot if its label or one around it is in
them. -/
def tie (label : Label) (parts : List Loose) (collection : Value) : Loose :=
  let labels := allLabels parts
  if labels.isEmpty then closed collection
  else ⟨.knot label collection, labels.filter (· ≠ label)⟩

end Loose

namespace Assembly

/-- The values that have been put together, by the numbers of their nodes. -/
abbrev Known :=
  Array (Option Value)

variable (objects : Array (Option Object))

/-- The value of a key or of a member of a set. -/
def atomValue (n : Nat) : Value :=
  match objects[n]? with
  | some (some (.atom v _)) => v
  | _ => .null

/-- Keep the value of a node, if it has no knots around it. -/
def keep (n : Nat) (l : Loose) : StateM Known Loose := do
  if l.isClosed then modify fun known => known.setIfInBounds n (some l.value)
  return l

/-- The value of a node, given the labels around it. The labels around a node are different from
each other and of different nodes but for the parts of pairs, so the number of nodes bounds the
depth. -/
def assemble : Nat → List Label → Nat → StateM Known Loose
  | 0, _, n => return ⟨.again ⟨n, 0⟩, [⟨n, 0⟩]⟩
  | depth + 1, around, n => do
    let here : Label := ⟨n, 0⟩
    if around.contains here then return ⟨.again here, [here]⟩
    match (← get)[n]? with
    | some (some v) => return .closed v
    | _ =>
      match objects[n]? with
      | some (some (.atom v _)) => return .closed v
      | some (some (.list items)) =>
        let parts ← items.mapM (assemble depth (here :: around))
        keep n (.tie here parts (.list (parts.map Loose.value)))
      | some (some (.map entries)) =>
        let parts ← entries.mapM fun e => assemble depth (here :: around) e.2
        let keys := entries.map fun e => atomValue objects e.1
        keep n (.tie here parts (.map (keys.zip (parts.map Loose.value))))
      | some (some (.set members)) => return .closed (.set (members.map (atomValue objects)))
      | some (some (.pairs entries)) =>
        let parts ← entries.zipIdx.mapM fun e => do
          let label : Label := ⟨n, e.2 + 1⟩
          let first ← assemble depth (label :: here :: around) e.1.1
          let second ← assemble depth (label :: here :: around) e.1.2
          return Loose.tie label [first, second] (.pair first.value second.value)
        keep n (.tie here parts (.list (parts.map Loose.value)))
      | _ => return .closed .null

end Assembly

/-- The value of a node. -/
def Graph.value (frames : Nat) (g : Graph) (root : Nat) : Except Fault Value := do
  let objects ← g.objects frames root
  let known : Assembly.Known := Array.replicate g.size none
  return ((Assembly.assemble objects (g.size + 1) [] root).run known).1.value

end Enclosure.Yaml
