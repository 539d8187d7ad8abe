import Enclosure.Tree

/-!
# The smallest node around a range

The search looks for the smallest accepted node whose span contains a range. It goes down only into
nodes that contain the range. Of two accepted nodes the one with the smaller extent is kept, at
equal extent the deeper one, and at equal depth the one that comes first in the document.
-/

set_option autoImplicit false

namespace Enclosure

namespace Place

/-- Whether a place is to be preferred to another: a smaller extent, or the same extent further
down. -/
def Beats (p q : Place) : Prop :=
  p.node.span.extent < q.node.span.extent ∨
    p.node.span.extent = q.node.span.extent ∧ q.depth < p.depth

instance (p q : Place) : Decidable (p.Beats q) :=
  inferInstanceAs (Decidable (_ ∨ _))

/-- The better of the best place so far and a place that comes later in the document. -/
def better (best : Option Place) (p : Place) : Option Place :=
  match best with
  | none => some p
  | some b => if p.Beats b then some p else some b

end Place

namespace Search

/-- Look at the places of a stack, the first one next, and put the children of every place that
contains the range in front of the others. -/
def loop (range : CursorRange) (accepts : Node → Bool) :
    List Place → Option Place → Option Place
  | [], best => best
  | p :: stack, best =>
    if p.node.span.Contains range then
      loop range accepts (p.children ++ stack)
        (if accepts p.node then Place.better best p else best)
    else loop range accepts stack best
termination_by stack => Node.sizeAll (stack.map Place.node)
decreasing_by
  · rw [List.map_append, Place.map_node_children, List.map_cons, Node.sizeAll, Node.sizeAll_append,
      Node.size_eq]
    omega
  · rw [List.map_cons, Node.sizeAll, Node.size_eq]
    omega

end Search

namespace Node

/-- The place of the smallest accepted node of a tree that contains a range together with all nodes
above it. -/
def smallestPlace? (root : Node) (range : CursorRange) (accepts : Node → Bool) : Option Place :=
  Search.loop range accepts [Place.root root] none

/-- The smallest accepted node of a tree that contains a range together with all nodes above it. -/
def smallest? (root : Node) (range : CursorRange) (accepts : Node → Bool) : Option Node :=
  (root.smallestPlace? range accepts).map Place.node

end Node

end Enclosure
