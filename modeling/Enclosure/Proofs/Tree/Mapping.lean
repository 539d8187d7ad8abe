import Enclosure.Tree.Search

/-!
# Searching changed trees

A search compares spans with a range, compares extents, asks whether a node is accepted and goes
down into the children of the nodes around the range. A change of the nodes of a tree that respects
all of this is not noticed: the search goes through the changed tree place by place as through the
tree itself, and finds the changed node at the same place.
-/

set_option autoImplicit false

namespace Enclosure

namespace Node

/-- A change of nodes that a search for another range, in the changed tree, does not notice. -/
structure Unnoticed (f : Node → Node) (range other : CursorRange) (accepts : Node → Bool) :
    Prop where
  contains_iff : ∀ n, (f n).span.Contains other ↔ n.span.Contains range
  extent_eq : ∀ n, (f n).span.extent = n.span.extent
  accepts_eq : ∀ n, accepts (f n) = accepts n
  children_eq : ∀ n, n.span.Contains range → (f n).children = n.children.map f

end Node

namespace Place

/-- The changed node of a place, at the end of the same way. -/
def map (f : Node → Node) (p : Place) : Place :=
  ⟨f p.node, p.path⟩

/-- The children of a changed place are the changed children. -/
theorem children_map {f : Node → Node} {p : Place}
    (h : (f p.node).children = p.node.children.map f) :
    (p.map f).children = p.children.map (map f) := by
  rw [children, children, map, h, List.zipIdx_map, List.map_map, List.map_map]
  rfl

/-- Of two changed places, the better one is that of the better place. -/
theorem better_map {f : Node → Node} (hextent : ∀ n, (f n).span.extent = n.span.extent)
    (best : Option Place) (p : Place) :
    better (best.map (map f)) (p.map f) = (better best p).map (map f) := by
  cases best with
  | none => rfl
  | some b =>
    have hbeats : (p.map f).Beats (b.map f) ↔ p.Beats b := by
      simp only [Beats, map, depth, hextent]
    rw [Option.map_some, better, better]
    by_cases h : p.Beats b
    · rw [if_pos h, if_pos (hbeats.mpr h), Option.map_some]
    · rw [if_neg h, if_neg (fun hb => h (hbeats.mp hb)), Option.map_some]

end Place

namespace Search

/-- The loop takes the same steps on the changed places. -/
theorem loop_map {f : Node → Node} {range other : CursorRange} {accepts : Node → Bool}
    (hf : Node.Unnoticed f range other accepts) (stack : List Place) (best : Option Place) :
    loop other accepts (stack.map (Place.map f)) (best.map (Place.map f)) =
      (loop range accepts stack best).map (Place.map f) := by
  have hcontained (p : Place) :
      (p.map f).node.span.Contains other ↔ p.node.span.Contains range := hf.contains_iff p.node
  have haccepted (p : Place) : accepts (p.map f).node = accepts p.node := hf.accepts_eq p.node
  fun_induction loop range accepts stack best with
  | case1 best => rw [List.map_nil, loop]
  | case2 p stack best hcontains ih =>
    rw [dite_eq_ite] at ih
    rw [← ih, List.map_cons, loop, if_pos ((hcontained p).mpr hcontains), haccepted,
      Place.children_map (hf.children_eq p.node hcontains), List.map_append]
    -- the stacks agree; the best place so far is changed like any other
    congr 1
    by_cases h : accepts p.node = true
    · rw [if_pos h, if_pos h, Place.better_map hf.extent_eq]
    · rw [if_neg h, if_neg h]
  | case3 p stack best hcontains ih =>
    rw [← ih, List.map_cons, loop, if_neg (mt (hcontained p).mp hcontains)]

end Search

namespace Node

/-- A change that the search does not notice changes what is found and nothing else. -/
theorem smallestPlace?_map {f : Node → Node} {range other : CursorRange} {accepts : Node → Bool}
    (hf : Unnoticed f range other accepts) (root : Node) :
    (f root).smallestPlace? other accepts =
      (root.smallestPlace? range accepts).map (Place.map f) :=
  Search.loop_map hf [Place.root root] none

end Node

end Enclosure
