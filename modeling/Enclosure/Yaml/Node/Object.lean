import Enclosure.Value
import Enclosure.Yaml.Node.Merge
import Enclosure.Yaml.Scalar

/-!
# What nodes stand for

Scalars are read as values when something that holds them is gone through; collections are begun
then, and gone through later, in the order in which they were begun. So of several faults in a
document the one that lies least deep counts, and of those the first. A node stands for the same
thing wherever an alias puts it. What goes from node to node takes a frame each time.
-/

set_option autoImplicit false

namespace Enclosure.Yaml

/-- What a node stands for. What lies in a collection is given by the numbers of its nodes. -/
inductive Object
  /-- A scalar's value. A value that is not equal to itself is told apart by a number. -/
  | atom (value : Value) (own : Option Nat)
  | list (items : List Nat)
  | map (entries : List (Nat × Nat))
  | set (members : List Nat)
  | pairs (entries : List (Nat × Nat))

/-- What tells the keys of a mapping apart. -/
structure Key where
  identity : KeyIdentity
  own : Option Nat
deriving DecidableEq

/-- A key of a mapping with the nodes of its entry. -/
structure KeyedEntry where
  key : Key
  keyNode : Nat
  valueNode : Nat

namespace KeyedEntry

/-- Entries with one more. If its key is there, the entry only gives it another value. -/
def insert (e : KeyedEntry) : List KeyedEntry → List KeyedEntry
  | [] => [e]
  | f :: rest =>
    if f.key = e.key then { f with valueNode := e.valueNode } :: rest else f :: insert e rest

/-- The nodes of an entry. -/
def nodes (e : KeyedEntry) : Nat × Nat :=
  (e.keyNode, e.valueNode)

end KeyedEntry

/-- The nodes of a document, what those stand for that have been reached, and the collections among
them in the order in which they were begun; and how many frames are left. -/
structure Workshop where
  frames : Nat
  graph : Graph
  objects : Array (Option Object)
  begun : Array Nat

namespace Workshop

/-- Nothing has been reached yet. -/
def start (frames : Nat) (g : Graph) : Workshop :=
  ⟨frames, g, Array.replicate g.size none, #[]⟩

/-- What the node with a number stands for, if it has been reached. -/
def object? (w : Workshop) (n : Nat) : Option Object :=
  (w.objects[n]?).join

/-- Let a node stand for something. -/
def put (w : Workshop) (n : Nat) (o : Object) : Workshop :=
  { w with objects := w.objects.setIfInBounds n (some o) }

/-- Begin a collection. -/
def begin (w : Workshop) (n : Nat) (o : Object) : Workshop :=
  { w.put n o with begun := w.begun.push n }

/-- The text that a node stands for where a scalar is wanted: a mapping stands for what it has under
the default key. A node that stands for itself has none. -/
def scalarText (g : Graph) : Nat → Nat → Except Fault (List Char)
  | 0, _ => .error .tooDeep
  | frames + 1, n =>
    match g.content n with
    | .scalar text => .ok text
    | .sequence _ => .error .malformed
    | .mapping entries =>
      match entries.find? fun e => g.tag e.1 = .default with
      | some e => scalarText g frames e.2
      | none => .error .malformed

/-- A date must be written as a scalar, since its form is looked at before what it stands for. -/
def checkDate (tag : Tag) : Content → Except Fault Unit
  | .scalar _ => .ok ()
  | _ => if tag = .timestamp then .error (.scalar .collectedDate) else .ok ()

/-- The scalar that the node with a number is. -/
def atom (w : Workshop) (n : Nat) : Except Fault Object := do
  let tag := w.graph.tag n
  require tag.hasScalars
  let text ← scalarText w.graph w.frames n
  checkDate tag (w.graph.content n)
  let value ← Scalar.value tag text
  return .atom value (if value.isNotNumber && !Scalar.isNotNumberWord text then some n else none)

/-- Reach a node: a scalar is read, and a collection is begun. -/
def reach (w : Workshop) (n : Nat) : Except Fault Workshop :=
  match w.object? n with
  | some _ => .ok w
  | none =>
    match w.graph.tag n with
    | .seq => .ok (w.begin n (.list []))
    | .map => .ok (w.begin n (.map []))
    | .set => .ok (w.begin n (.set []))
    | .omap | .pairs => .ok (w.begin n (.pairs []))
    | _ => do return w.put n (← w.atom n)

/-- The key that a node is; a collection is none. -/
def key (w : Workshop) (n : Nat) : Except Fault Key :=
  match w.object? n with
  | some (.atom value own) => .ok ⟨value.identity, own⟩
  | _ => .error .malformed

/-- Go through the entries of a mapping. -/
def reachEntries (w : Workshop) (seen : List KeyedEntry) :
    List (Nat × Nat) → Except Fault (Workshop × List (Nat × Nat))
  | [] => .ok (w, seen.map KeyedEntry.nodes)
  | (k, v) :: rest => do
    let w ← w.reach k
    let key ← w.key k
    let w ← w.reach v
    reachEntries w (KeyedEntry.insert ⟨key, k, v⟩ seen) rest

/-- Go through a mapping. -/
def reachMapping (w : Workshop) (n : Nat) : Except Fault (Workshop × List (Nat × Nat)) :=
  match w.graph.content n with
  | .mapping _ => do
    let g ← w.graph.merge w.frames n
    reachEntries { w with graph := g } [] (g.entries n)
  | _ => .error .malformed

/-- Go through mappings of one entry each. -/
def reachPairs (w : Workshop) (seen : List (Nat × Nat)) :
    List Nat → Except Fault (Workshop × List (Nat × Nat))
  | [] => .ok (w, seen.reverse)
  | item :: rest =>
    match w.graph.content item with
    | .mapping [(k, v)] => do
      let w ← w.reach k
      let w ← w.reach v
      reachPairs w ((k, v) :: seen) rest
    | _ => .error .malformed

/-- Go through a collection. -/
def complete (w : Workshop) (n : Nat) : Except Fault Workshop :=
  match w.graph.tag n, w.graph.content n with
  | .seq, .sequence items => do
    let w ← items.foldlM reach w
    return w.put n (.list items)
  | .map, _ => do
    let (w, entries) ← w.reachMapping n
    return w.put n (.map entries)
  | .set, _ => do
    let (w, entries) ← w.reachMapping n
    return w.put n (.set (entries.map Prod.fst))
  | .omap, .sequence items | .pairs, .sequence items => do
    let (w, entries) ← w.reachPairs [] items
    return w.put n (.pairs entries)
  | _, _ => .error .malformed

/-- Go through all collections from the one that was begun at some place on. Every node is begun at
most once, so the number of nodes is enough for the number of steps. -/
def completeFrom : Nat → Nat → Workshop → Except Fault Workshop
  | 0, _, w => .ok w
  | fuel + 1, place, w =>
    match w.begun[place]? with
    | none => .ok w
    | some n => do
      let w ← w.complete n
      completeFrom fuel (place + 1) w

end Workshop

/-- What the nodes stand for that are reached from one of them. -/
def Graph.objects (frames : Nat) (g : Graph) (root : Nat) :
    Except Fault (Array (Option Object)) := do
  let w ← (Workshop.start frames g).reach root
  return (← w.completeFrom (g.size + 1) 0).objects

end Enclosure.Yaml
