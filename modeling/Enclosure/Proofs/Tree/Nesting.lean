import Enclosure.Proofs.CursorRange
import Enclosure.Proofs.Tree.SmallestPlace

/-!
# Nested trees

A tree is nested when every node lies inside the node above it. Whatever a node of a nested tree
contains is then contained in every node above it, so a wider range loses candidates of a search but
never those that contain it themselves: the smallest place around a range is also the smallest place
around every range between that range and its own span. Where one span lies inside another, in any
tree, the search prefers the inner one, since the extent is strictly monotone for containment.
-/

set_option autoImplicit false

namespace Enclosure

namespace Node

/-- Every node of a tree contains the spans of its children. -/
def Nested (root : Node) : Prop :=
  ∀ way n, root.at? way = some n → ∀ c ∈ n.children, n.span.Contains c.span

/-- A node with nested trees inside it makes a nested tree. -/
theorem nested_of_children {n : Node}
    (h : ∀ c ∈ n.children, n.span.Contains c.span ∧ c.Nested) : n.Nested :=
  forall_at?_of_children (fun c hc => (h c hc).1) fun c hc => (h c hc).2

/-- A node is nested when it contains its children and each of them is nested. -/
theorem nested_mk_iff {kind : String} {span : CursorRange} {children : List Node} :
    (Node.mk kind span children).Nested ↔
      (∀ c ∈ children, span.Contains c.span) ∧ ∀ c ∈ children, c.Nested :=
  forall_at?_mk_iff

/-- The children of a nested node are nested. -/
theorem Nested.child {n c : Node} {i : Nat} (h : n.Nested) (hc : n.children[i]? = some c) :
    c.Nested :=
  forall_at?_below h ((n.at?_singleton i).trans hc)

/-- In a nested tree all nodes on the way to a node contain its span. -/
theorem Nested.along {root n : Node} {way : List Nat} (h : root.Nested)
    (hn : root.at? way = some n) : root.Along way fun m => m.span.Contains n.span := by
  induction way generalizing root with
  | nil =>
    cases hn
    exact along_nil.mpr (CursorRange.contains_refl _)
  | cons i way ih =>
    obtain ⟨c, hc, hat⟩ := Option.bind_eq_some_iff.mp hn
    have hbelow := ih (h.child hc) hat
    have hroot : root.span.Contains c.span := h [] root rfl c (List.mem_of_getElem? hc)
    have hstep : c.span.Contains n.span := hbelow [] c List.nil_prefix rfl
    exact (along_cons hc).mpr ⟨CursorRange.contains_trans hroot hstep, hbelow⟩

end Node

namespace Place

/-- A place with a smaller span inside the span of another place is preferred to it. -/
theorem beats_of_contains_of_ne {inner outer : Place}
    (h : outer.node.span.Contains inner.node.span) (hne : inner.node.span ≠ outer.node.span) :
    inner.Beats outer ∧ ¬ outer.Beats inner := by
  have hlt := CursorRange.extent_lt_of_contains h hne
  refine ⟨Or.inl hlt, ?_⟩
  rintro (hgt | ⟨heq, -⟩)
  · exact Extent.not_lt.mpr (CursorRange.extent_le_of_contains h) hgt
  · exact hne (CursorRange.eq_of_contains_of_extent_eq h heq.symm)

/-- A candidate for a range is one for every narrower range. -/
theorem Candidate.narrow {root : Node} {inner outer : CursorRange} {accepts : Node → Bool}
    {p : Place} (hp : p.Candidate root outer accepts) (h : outer.Contains inner) :
    p.Candidate root inner accepts :=
  ⟨hp.located, fun part m hpart hm => CursorRange.contains_trans (hp.enclosing part m hpart hm) h,
    hp.accepted⟩

/-- In a nested tree the smallest place around a range is the smallest place around every range
between that one and its own span. -/
theorem Smallest.widen {root : Node} {inner outer : CursorRange} {accepts : Node → Bool} {p : Place}
    (hnested : root.Nested) (hp : p.Smallest root inner accepts) (hinner : outer.Contains inner)
    (houter : p.node.span.Contains outer) : p.Smallest root outer accepts := by
  refine ⟨⟨hp.located, ?_, hp.accepted⟩, ?_⟩
  · intro part m hpart hm
    exact CursorRange.contains_trans (hnested.along hp.located part m hpart hm) houter
  · intro q hq
    exact hp.least q (hq.narrow hinner)

end Place

namespace CursorRange

/-- Containment is a partial order of ranges, and the extent is strictly monotone for it: a range
inside another one has no greater extent, and the same only if it is the same range. So of two
places with nested spans the one around the other never has the smaller extent, and unless the spans
are the same the search prefers the inner one. -/
theorem extent_strictly_monotone :
    IsPartialOrder CursorRange Contains ∧
      (∀ outer inner : CursorRange, outer.Contains inner →
        inner.extent ≤ outer.extent ∧ (inner.extent = outer.extent ↔ inner = outer)) ∧
      ∀ outer inner : Place, outer.node.span.Contains inner.node.span →
        ¬ outer.node.span.extent < inner.node.span.extent ∧
          (inner.node.span ≠ outer.node.span → inner.Beats outer ∧ ¬ outer.Beats inner) := by
  refine ⟨isPartialOrder_contains, ?_, ?_⟩
  · intro outer inner h
    exact ⟨extent_le_of_contains h, eq_of_contains_of_extent_eq h, congrArg extent⟩
  · intro outer inner h
    exact ⟨Extent.not_lt.mpr (extent_le_of_contains h), Place.beats_of_contains_of_ne h⟩

/-- Both ranges go over two rows and back by several columns, the inner one by more. -/
theorem extent_strictly_monotone_backwardColumns :
    let outer : CursorRange := ⟨⟨-1, 5⟩, ⟨1, 1⟩, by decide⟩
    let inner : CursorRange := ⟨⟨-1, 7⟩, ⟨1, 0⟩, by decide⟩
    outer.Contains inner ∧ inner ≠ outer ∧ outer.extent = ⟨2, -4⟩ ∧ inner.extent = ⟨2, -7⟩ ∧
      inner.extent ≤ outer.extent ∧ inner.extent ≠ outer.extent ∧
      (Place.mk (.mk "ERROR" inner []) [0]).Beats (.mk (.mk "ERROR" outer []) [1, 0]) := by
  intro outer inner
  have hcontains : outer.Contains inner := by decide
  have hne : inner ≠ outer := by decide
  obtain ⟨-, hextent, hplaces⟩ := extent_strictly_monotone
  obtain ⟨hle, hiff⟩ := hextent outer inner hcontains
  have hbeats := (hplaces (.mk (.mk "ERROR" outer []) [1, 0]) (.mk (.mk "ERROR" inner []) [0])
    hcontains).2 hne
  exact ⟨hcontains, hne, rfl, rfl, hle, mt hiff.mp hne, hbeats.1⟩

end CursorRange

end Enclosure
