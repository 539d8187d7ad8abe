import Enclosure.Yaml.Fault
import Enclosure.Yaml.Node

/-!
# Merge keys

The entries of a mapping under a merge key, or those of each of a sequence of mappings, are put in
front of the entries of the mapping around it. The default key is a text where it is a key. Both
change the nodes themselves, so the change shows wherever an alias stands for one of them. Merging
in a mapping goes on to the mappings that are merged into it, one frame for each.
-/

set_option autoImplicit false

namespace Enclosure.Yaml.Graph

/-- The value under the first merge key of some entries, and the entries without it. -/
def splitMerge? (g : Graph) : List (Nat × Nat) → Option (Nat × List (Nat × Nat))
  | [] => none
  | (k, v) :: rest =>
    if g.tag k = .merge then some (v, rest)
    else (splitMerge? g rest).map fun (source, others) => (source, (k, v) :: others)

/-- The nodes with texts in the place of the default keys of a mapping. -/
def spellDefaults (g : Graph) (n : Nat) : Graph :=
  (g.entries n).foldl (fun g e => if g.tag e.1 = .default then g.setTag e.1 .str else g) g

/-- The number of merge keys of all mappings. -/
def mergeCount (g : Graph) : Nat :=
  (List.range g.size).foldl
    (fun total n => total + (g.entries n).countP fun e => g.tag e.1 = .merge) 0

/-- Take the merge keys out of a mapping one by one, and put `inherited` and the entries under them
in front of what is left. Every step takes out one merge key for good, so the number of all merge
keys bounds the number of steps. -/
def mergeWithin : Nat → Nat → Graph → Nat → List (Nat × Nat) → Except Fault Graph
  | 0, _, g, n, inherited => .ok (g.setContent n (.mapping (inherited ++ g.entries n)))
  | steps + 1, frames, g, n, inherited =>
    match g.splitMerge? (g.entries n) with
    | none =>
      let g := g.spellDefaults n
      .ok (g.setContent n (.mapping (inherited ++ g.entries n)))
    | some (source, others) =>
      let g := g.setContent n (.mapping others)
      match g.content source with
      | .scalar _ => .error .malformed
      | .mapping _ => do
        let inner ← descend 1 frames
        let g ← mergeWithin steps inner g source []
        mergeWithin steps frames g n (inherited ++ g.entries source)
      | .sequence items => do
        let (g, found) ← items.foldlM
          (fun (g, found) item =>
            match g.content item with
            | .mapping _ => do
              let inner ← descend 1 frames
              let g ← mergeWithin steps inner g item []
              return (g, g.entries item ++ found)
            | _ => .error .malformed)
          (g, [])
        mergeWithin steps frames g n (inherited ++ found)

/-- The nodes after all merging in a mapping. -/
def merge (frames : Nat) (g : Graph) (n : Nat) : Except Fault Graph :=
  mergeWithin (g.mergeCount + 1) frames g n []

end Enclosure.Yaml.Graph
