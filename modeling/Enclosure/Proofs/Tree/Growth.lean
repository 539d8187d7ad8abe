import Enclosure.Proofs.Tree.Scan

/-!
# Ranges that grow

A range inside another one is contained wherever the other one is, in any tree, nested or not. So
the search for the inner range has every candidate that the search for the outer one has, and what
it finds is no larger: its key, the extent and then the depth, is at most the other's. Growing a
range therefore never leads from no node to a node, and never from a node to a smaller one.
-/

set_option autoImplicit false

namespace Enclosure

namespace Place

/-- What the search compares places by: the extent, and then the depth, of which the greater comes
first. -/
def key (p : Place) : ℤ ×ₗ ℤ ×ₗ ℤ :=
  toLex (p.node.span.extent.lines, toLex (p.node.span.extent.columns, -(p.depth : ℤ)))

/-- A place has a lesser key than another one exactly when it beats that. -/
theorem key_lt_key_iff {p q : Place} : p.key < q.key ↔ p.Beats q := by
  rw [key, key, Prod.Lex.toLex_lt_toLex, Prod.Lex.toLex_lt_toLex, Beats, Extent.lt_def,
    Extent.eq_iff]
  dsimp only
  omega

/-- The smallest place has the least key of all candidates. -/
theorem Smallest.key_le {root : Node} {range : CursorRange} {accepts : Node → Bool} {p q : Place}
    (hp : p.Smallest root range accepts) (hq : q.Candidate root range accepts) :
    p.key ≤ q.key := by
  have hbeats := hp.not_beats hq
  rw [← key_lt_key_iff] at hbeats
  exact not_lt.mp hbeats

/-- A place with at most the key of another one has at most its extent. -/
theorem extent_le_of_key_le {p q : Place} (h : p.key ≤ q.key) :
    p.node.span.extent ≤ q.node.span.extent := by
  have hbeats : ¬ q.Beats p := mt key_lt_key_iff.mpr (not_lt.mpr h)
  have hextent : ¬ q.node.span.extent < p.node.span.extent := fun hlt => hbeats (Or.inl hlt)
  rw [Extent.lt_def] at hextent
  rw [Extent.le_def]
  omega

end Place

namespace Node

/-- Where a range finds a place, a narrower one finds a place with at most its key. -/
theorem smallestPlace?_narrow {root : Node} {accepts : Node → Bool} {inner outer : CursorRange}
    (h : outer.Contains inner) {q : Place} (hq : root.smallestPlace? outer accepts = some q) :
    ∃ p, root.smallestPlace? inner accepts = some p ∧ p.key ≤ q.key := by
  have houter := smallestPlace?_eq_some_iff.mp hq
  have hcandidate : q.Candidate root inner accepts := houter.toCandidate.narrow h
  rcases smallestPlace?_cases root inner accepts with ⟨-, hempty⟩ | ⟨p, hsome, hp⟩
  · exact absurd hcandidate (hempty q)
  · exact ⟨p, hsome, hp.key_le hcandidate⟩

/-- In every tree, whatever is found around a range is found around every range inside it too, or a
place of a smaller key is. So from a range to one that contains it no node is found where there was
none, and none that is smaller. -/
theorem smallestPlace?_of_grown (root : Node) (accepts : Node → Bool) (inner outer : CursorRange)
    (h : outer.Contains inner) :
    (∀ q, root.smallestPlace? outer accepts = some q →
        ∃ p, root.smallestPlace? inner accepts = some p ∧ p.key ≤ q.key) ∧
      (root.smallest? inner accepts = none → root.smallest? outer accepts = none) ∧
      ∀ n m, root.smallest? inner accepts = some n → root.smallest? outer accepts = some m →
        n.span.extent ≤ m.span.extent := by
  refine ⟨fun q hq => smallestPlace?_narrow h hq, ?_, ?_⟩
  · intro hnone
    rw [smallest?, Option.map_eq_none_iff] at hnone ⊢
    by_contra hsome
    obtain ⟨q, hq⟩ := Option.ne_none_iff_exists'.mp hsome
    obtain ⟨p, hp, -⟩ := smallestPlace?_narrow h hq
    rw [hnone] at hp
    cases hp
  · intro n m hn hm
    obtain ⟨p, hp, rfl⟩ := Option.map_eq_some_iff.mp hn
    obtain ⟨q, hq, rfl⟩ := Option.map_eq_some_iff.mp hm
    obtain ⟨p', hp', hkey⟩ := smallestPlace?_narrow h hq
    obtain rfl : p = p' := Option.some.inj (hp.symm.trans hp')
    exact Place.extent_le_of_key_le hkey

/-- A declaration with a member that goes beyond it. -/
def overhanging : Node :=
  .mk "class_declaration" ⟨⟨0, 0⟩, ⟨8, 2⟩, by decide⟩
    [.mk "function_declaration" ⟨⟨1, 1⟩, ⟨2, 7⟩, by decide⟩
      [.mk "class_declaration" ⟨⟨0, 0⟩, ⟨9, 3⟩, by decide⟩ []]]

/-- A selection that leaves the member leads to the declaration, a caret inside the member to
something that is no larger. -/
theorem smallestPlace?_of_grown_overhanging :
    let outer : CursorRange := ⟨⟨1, 3⟩, ⟨3, 0⟩, by decide⟩
    outer.Contains (.caret 1 3) ∧
      overhanging.smallestPlace? outer (fun _ => true) = some (.root overhanging) ∧
      ∃ p, overhanging.smallestPlace? (.caret 1 3) (fun _ => true) = some p ∧
        p.key ≤ (Place.root overhanging).key := by
  intro outer
  have hcontains : outer.Contains (.caret 1 3) := by decide
  have houter : overhanging.smallestPlace? outer (fun _ => true) = some (.root overhanging) := by
    apply smallestPlace?_eq_root (by decide) rfl
    intro c hc
    obtain rfl := List.mem_singleton.mp hc
    decide
  obtain ⟨hgrown, -, -⟩ :=
    smallestPlace?_of_grown overhanging (fun _ => true) (.caret 1 3) outer hcontains
  exact ⟨hcontains, houter, hgrown _ houter⟩

end Node

end Enclosure
