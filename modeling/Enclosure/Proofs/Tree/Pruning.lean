import Enclosure.Proofs.Tree.Mapping

/-!
# Pruned trees

To prune a tree is to leave nothing below the nodes that may not be entered. A search that goes only
into nodes around a range finds the same place in a tree and in the tree pruned to these nodes, so
what lies below any other node does not matter.
-/

set_option autoImplicit false

namespace Enclosure

namespace Node

mutual

/-- A tree with nothing left below the nodes whose spans may not be entered. -/
def prune (enter : CursorRange → Bool) : Node → Node
  | .mk kind span children => .mk kind span (if enter span then pruneAll enter children else [])

/-- Several trees with nothing left below the nodes whose spans may not be entered. -/
def pruneAll (enter : CursorRange → Bool) : List Node → List Node
  | [] => []
  | n :: rest => prune enter n :: pruneAll enter rest

end

variable {enter : CursorRange → Bool}

/-- Nodes are pruned one by one. -/
theorem pruneAll_eq_map (ns : List Node) : pruneAll enter ns = ns.map (prune enter) := by
  induction ns with
  | nil => rfl
  | cons n rest ih => rw [pruneAll, ih, List.map_cons]

/-- Pruning keeps the kind of a node. -/
@[simp] theorem kind_prune (n : Node) : (n.prune enter).kind = n.kind := by
  cases n
  rfl

/-- Pruning keeps the range of a node. -/
@[simp] theorem span_prune (n : Node) : (n.prune enter).span = n.span := by
  cases n
  rfl

/-- A node that is entered keeps its children, which are pruned. -/
theorem children_prune {n : Node} (h : enter n.span = true) :
    (n.prune enter).children = n.children.map (prune enter) := by
  cases n with
  | mk kind span children =>
    rw [prune, Node.children, Node.children, ← pruneAll_eq_map]
    exact if_pos h

mutual

/-- Pruning a pruned node changes nothing. -/
theorem prune_prune : ∀ n : Node, (n.prune enter).prune enter = n.prune enter
  | .mk kind span children => by
    rw [prune, prune]
    by_cases h : enter span = true
    · rw [if_pos h, if_pos h, pruneAll_pruneAll children]
    · rw [if_neg h, if_neg h]

/-- Pruning pruned nodes changes nothing. -/
theorem pruneAll_pruneAll : ∀ ns : List Node,
    pruneAll enter (pruneAll enter ns) = pruneAll enter ns
  | [] => rfl
  | n :: rest => by rw [pruneAll, pruneAll, prune_prune n, pruneAll_pruneAll rest]

end

/-- A search does not notice that the tree is pruned to the nodes around its range. -/
theorem unnoticed_prune (range : CursorRange) {accepts : Node → Bool}
    (haccepts : ∀ n : Node, accepts (n.prune fun span => span.Contains range) = accepts n) :
    Unnoticed (prune fun span => span.Contains range) range range accepts where
  contains_iff n := by rw [span_prune]
  extent_eq n := by rw [span_prune]
  accepts_eq := haccepts
  children_eq _ h := children_prune (decide_eq_true h)

end Node

namespace Place

/-- A place of a tree as a place of the pruned tree. -/
def prune (enter : CursorRange → Bool) (p : Place) : Place :=
  ⟨p.node.prune enter, p.path⟩

end Place

namespace Search

/-- The loop takes the same steps on pruned places. -/
theorem loop_prune (range : CursorRange) (accepts : Node → Bool)
    (haccepts : ∀ n : Node, accepts (n.prune fun span => span.Contains range) = accepts n)
    (stack : List Place) (best : Option Place) :
    loop range accepts (stack.map (Place.prune fun span => span.Contains range))
        (best.map (Place.prune fun span => span.Contains range)) =
      (loop range accepts stack best).map (Place.prune fun span => span.Contains range) :=
  loop_map (Node.unnoticed_prune range haccepts) stack best

end Search

namespace Node

/-- A search finds the same node in a tree and in the tree pruned to the nodes around the range. -/
theorem smallest?_prune (root : Node) (range : CursorRange) (accepts : Node → Bool)
    (haccepts : ∀ n : Node, accepts (n.prune fun span => span.Contains range) = accepts n) :
    (root.prune fun span => span.Contains range).smallest? range accepts =
      (root.smallest? range accepts).map (prune fun span => span.Contains range) := by
  have hloop := Search.loop_prune range accepts haccepts [Place.root root] none
  rw [List.map_cons, List.map_nil, Option.map_none] at hloop
  rw [smallest?, smallest?, smallestPlace?, smallestPlace?]
  change (Search.loop range accepts [Place.prune _ (Place.root root)] none).map Place.node = _
  rw [hloop, Option.map_map, Option.map_map]
  rfl

end Node

end Enclosure
