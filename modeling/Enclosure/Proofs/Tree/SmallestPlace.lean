import Enclosure.Proofs.CursorRange
import Enclosure.Proofs.Tree.Walk
import Mathlib.Data.Prod.Lex

/-!
# What the search for the smallest place finds

A candidate is an accepted place whose node contains the range, as does every node above it.
Candidates are ranked by extent, by depth, the deeper first, and by document order. The loop over
the stack does the same as a walk over the nodes that contain the range which keeps the better of
the best accepted place so far and the next one; so what it finds is the candidate of least rank,
and it finds nothing only if there is no candidate.
-/

set_option autoImplicit false

namespace Enclosure

namespace Place

/-- What places are compared by: the extent, then the depth, of which the greater comes first, then
the way from the root. -/
def rank (p : Place) : ℤ ×ₗ ℤ ×ₗ ℕᵒᵈ ×ₗ List ℕ :=
  toLex (p.node.span.extent.lines, toLex (p.node.span.extent.columns,
    toLex (OrderDual.toDual p.depth, p.path)))

/-- An accepted place of a tree whose node contains a range together with every node above it. -/
structure Candidate (root : Node) (range : CursorRange) (accepts : Node → Bool) (p : Place) :
    Prop where
  located : root.at? p.path = some p.node
  enclosing : root.Along p.path fun n => n.span.Contains range
  accepted : accepts p.node = true

/-- The candidate of least rank. -/
structure Smallest (root : Node) (range : CursorRange) (accepts : Node → Bool) (p : Place) :
    Prop extends Candidate root range accepts p where
  least : ∀ q, Candidate root range accepts q → p.rank ≤ q.rank

/-- A place that beats another one ranks before it. -/
theorem rank_lt_of_beats {p q : Place} (h : p.Beats q) : p.rank < q.rank := by
  rw [rank, rank, Prod.Lex.toLex_lt_toLex, Prod.Lex.toLex_lt_toLex, Prod.Lex.toLex_lt_toLex]
  rcases h with hextent | ⟨hextent, hdepth⟩
  · rcases Extent.lt_def.mp hextent with hlines | ⟨hlines, hcolumns⟩
    · exact Or.inl hlines
    · exact Or.inr ⟨hlines, Or.inl hcolumns⟩
  · right
    rw [hextent]
    exact ⟨rfl, Or.inr ⟨rfl, Or.inl (OrderDual.toDual_lt_toDual.mpr hdepth)⟩⟩

/-- A place that comes earlier in the document and is not beaten has the smaller rank. -/
theorem rank_lt_of_not_beats {p q : Place} (h : ¬ q.Beats p) (hpath : p.path < q.path) :
    p.rank < q.rank := by
  have hextent : ¬ q.node.span.extent < p.node.span.extent := fun hlt => h (Or.inl hlt)
  have hdepth : q.node.span.extent = p.node.span.extent → q.depth ≤ p.depth := by
    intro heq
    by_contra hlt
    exact h (Or.inr ⟨heq, by omega⟩)
  rw [rank, rank, Prod.Lex.toLex_lt_toLex, Prod.Lex.toLex_lt_toLex, Prod.Lex.toLex_lt_toLex]
  rw [Extent.lt_def] at hextent
  by_cases heq : q.node.span.extent = p.node.span.extent
  · right
    rw [heq]
    refine ⟨rfl, Or.inr ⟨rfl, ?_⟩⟩
    rcases Nat.lt_or_eq_of_le (hdepth heq) with hlt | hsame
    · exact Or.inl (OrderDual.toDual_lt_toDual.mpr hlt)
    · exact Or.inr ⟨congrArg OrderDual.toDual hsame.symm, hpath⟩
  · rw [Extent.eq_iff] at heq
    simp only
    omega

/-- Of a best place so far and a later one the better is kept, and it ranks no higher than
either. -/
theorem better_spec {b p : Place} (hpath : b.path < p.path) :
    ∃ d, better (some b) p = some d ∧ (d = b ∨ d = p) ∧ d.rank ≤ b.rank ∧ d.rank ≤ p.rank := by
  by_cases h : p.Beats b
  · exact ⟨p, if_pos h, Or.inr rfl, (rank_lt_of_beats h).le, le_rfl⟩
  · exact ⟨b, if_neg h, Or.inl rfl, le_rfl, (rank_lt_of_not_beats h hpath).le⟩

/-- Going through later places one by one keeps the one of least rank. -/
theorem foldl_better_some (b : Place) (ps : List Place)
    (h : (b :: ps).Pairwise fun p q => p.path < q.path) :
    ∃ d ∈ b :: ps, ps.foldl better (some b) = some d ∧ ∀ q ∈ b :: ps, d.rank ≤ q.rank := by
  induction ps generalizing b with
  | nil => exact ⟨b, List.mem_singleton_self b, rfl, by simp⟩
  | cons p ps ih =>
    obtain ⟨hb, hps⟩ := List.pairwise_cons.mp h
    obtain ⟨d, hd, hcase, hdb, hdp⟩ := better_spec (hb p List.mem_cons_self)
    -- the better of the two still comes before all later places, so the rest may start from it
    have hlater : (d :: ps).Pairwise fun p q => p.path < q.path := by
      rcases hcase with rfl | rfl
      · exact List.pairwise_cons.mpr
          ⟨fun q hq => hb q (List.mem_cons_of_mem p hq), hps.of_cons⟩
      · exact hps
    obtain ⟨e, he, hfold, hleast⟩ := ih d hlater
    refine ⟨e, ?_, ?_, ?_⟩
    · rcases List.mem_cons.mp he with rfl | he
      · rcases hcase with rfl | rfl <;> simp
      · exact List.mem_cons_of_mem b (List.mem_cons_of_mem p he)
    · rw [List.foldl_cons, hd]
      exact hfold
    · have hed : e.rank ≤ d.rank := hleast d List.mem_cons_self
      intro q hq
      rcases List.mem_cons.mp hq with rfl | hq
      · exact hed.trans hdb
      · rcases List.mem_cons.mp hq with rfl | hq
        · exact hed.trans hdp
        · exact hleast q (List.mem_cons_of_mem d hq)

/-- Going through places in document order finds one of least rank, and nothing only among none. -/
theorem foldl_better_none (ps : List Place) (h : ps.Pairwise fun p q => p.path < q.path) :
    (ps = [] ∧ ps.foldl better none = none) ∨
      ∃ d ∈ ps, ps.foldl better none = some d ∧ ∀ q ∈ ps, d.rank ≤ q.rank := by
  cases ps with
  | nil => exact Or.inl ⟨rfl, rfl⟩
  | cons p ps => exact Or.inr (foldl_better_some p ps h)

end Place

namespace Search

/-- The loop keeps the best of the accepted places that walks from the stack meet, after the best
place so far. -/
theorem loop_eq_foldl_walk (range : CursorRange) (accepts : Node → Bool) (stack : List Place)
    (best : Option Place) :
    loop range accepts stack best =
      ((stack.flatMap (Place.walk fun n => n.span.Contains range)).filter
        fun p => accepts p.node).foldl Place.better best := by
  fun_induction loop range accepts stack best with
  | case1 best => rfl
  | case2 p stack best hcontains ih =>
    rw [dite_eq_ite] at ih
    rw [ih, List.flatMap_append, List.flatMap_cons, Place.walk_of_enter (decide_eq_true hcontains),
      List.cons_append]
    by_cases haccept : accepts p.node = true
    · rw [if_pos haccept, List.filter_cons, if_pos haccept, List.foldl_cons]
    · rw [if_neg haccept, List.filter_cons, if_neg haccept]
  | case3 p stack best hcontains ih =>
    rw [ih, List.flatMap_cons, Place.walk_of_not_enter (by simpa using hcontains), List.nil_append]

end Search

namespace Node

/-- The candidates are the accepted places that the walk over the nodes around the range meets. -/
theorem mem_filter_walk_iff {root : Node} {range : CursorRange} {accepts : Node → Bool}
    {p : Place} :
    p ∈ ((Place.root root).walk fun n => n.span.Contains range).filter (fun p => accepts p.node) ↔
      p.Candidate root range accepts := by
  rw [List.mem_filter, Place.mem_walk_iff]
  constructor
  · rintro ⟨⟨way, hpath, hat, halong⟩, haccept⟩
    rw [Place.root, List.nil_append] at hpath
    refine ⟨hpath ▸ hat, ?_, haccept⟩
    rw [hpath]
    exact fun part m hpart hm => of_decide_eq_true (halong part m hpart hm)
  · rintro ⟨hat, halong, haccept⟩
    refine ⟨⟨p.path, rfl, hat, ?_⟩, haccept⟩
    exact fun part m hpart hm => decide_eq_true (halong part m hpart hm)

/-- Two places of a tree with the same rank are the same. -/
theorem eq_of_rank_eq {root : Node} {p q : Place} (hp : root.at? p.path = some p.node)
    (hq : root.at? q.path = some q.node) (h : p.rank = q.rank) : p = q := by
  have hpath : p.path = q.path :=
    congrArg (fun r : ℤ ×ₗ ℤ ×ₗ ℕᵒᵈ ×ₗ List ℕ => (ofLex (ofLex (ofLex r).2).2).2) h
  cases p
  cases q
  simp only at hp hq hpath
  rw [hpath, hq] at hp
  rw [hpath, Option.some.inj hp]

/-- The search ends with the smallest candidate, or with nothing if there is none. -/
theorem smallestPlace?_cases (root : Node) (range : CursorRange) (accepts : Node → Bool) :
    (root.smallestPlace? range accepts = none ∧ ∀ p, ¬ Place.Candidate root range accepts p) ∨
      ∃ p, root.smallestPlace? range accepts = some p ∧ p.Smallest root range accepts := by
  have hsorted := (Place.pairwise_path_walk (fun n => n.span.Contains range)
    (Place.root root)).sublist (List.filter_sublist (p := fun p => accepts p.node))
  rw [smallestPlace?, Search.loop_eq_foldl_walk, List.flatMap_cons, List.flatMap_nil,
    List.append_nil]
  rcases Place.foldl_better_none _ hsorted with ⟨hnil, hfold⟩ | ⟨d, hd, hfold, hleast⟩
  · left
    refine ⟨hfold, ?_⟩
    intro p hp
    have hmem := mem_filter_walk_iff.mpr hp
    rw [hnil] at hmem
    cases hmem
  · right
    refine ⟨d, hfold, mem_filter_walk_iff.mp hd, ?_⟩
    intro q hq
    exact hleast q (mem_filter_walk_iff.mpr hq)

/-- The search finds a place exactly when it is the smallest candidate. -/
theorem smallestPlace?_eq_some_iff {root : Node} {range : CursorRange} {accepts : Node → Bool}
    {p : Place} :
    root.smallestPlace? range accepts = some p ↔ p.Smallest root range accepts := by
  rcases smallestPlace?_cases root range accepts with ⟨hnone, hempty⟩ | ⟨d, hsome, hd⟩
  · rw [hnone]
    constructor
    · intro h
      cases h
    · intro hp
      exact absurd hp.toCandidate (hempty p)
  · rw [hsome, Option.some.injEq]
    constructor
    · rintro rfl
      exact hd
    · intro hp
      exact eq_of_rank_eq hd.located hp.located
        (le_antisymm (hd.least p hp.toCandidate) (hp.least d hd.toCandidate))

/-- The search finds nothing exactly when there is no candidate. -/
theorem smallestPlace?_eq_none_iff {root : Node} {range : CursorRange} {accepts : Node → Bool} :
    root.smallestPlace? range accepts = none ↔ ∀ p, ¬ Place.Candidate root range accepts p := by
  rcases smallestPlace?_cases root range accepts with ⟨hnone, hempty⟩ | ⟨d, hsome, hd⟩
  · exact ⟨fun _ => hempty, fun _ => hnone⟩
  · rw [hsome]
    constructor
    · intro h
      cases h
    · intro h
      exact absurd hd.toCandidate (h d)

/-- An accepted root is found around a range that none of its children contains. -/
theorem smallestPlace?_eq_root {root : Node} {range : CursorRange} {accepts : Node → Bool}
    (hroot : root.span.Contains range) (haccept : accepts root = true)
    (hchildren : ∀ c ∈ root.children, ¬ c.span.Contains range) :
    root.smallestPlace? range accepts = some (.root root) := by
  rw [smallestPlace?_eq_some_iff]
  refine ⟨⟨rfl, along_nil.mpr hroot, haccept⟩, ?_⟩
  rintro ⟨n, way⟩ hq
  cases way with
  | nil =>
    cases hq.located
    exact le_rfl
  | cons i way =>
    obtain ⟨c, hc, -⟩ := Option.bind_eq_some_iff.mp hq.located
    have hbelow := ((along_cons hc).mp hq.enclosing).2
    exact absurd (hbelow [] c List.nil_prefix rfl) (hchildren c (List.mem_of_getElem? hc))

/-- For every tree, range and condition on nodes the search finds the candidate of least extent, of
these the deepest and of these the first in the document, and nothing exactly if there is no
candidate. -/
theorem smallestPlace?_is_least_candidate (root : Node) (range : CursorRange)
    (accepts : Node → Bool) :
    (∀ p, root.smallestPlace? range accepts = some p ↔ p.Smallest root range accepts) ∧
      (∀ n, root.smallest? range accepts = some n ↔
        ∃ p : Place, p.Smallest root range accepts ∧ p.node = n) ∧
      (root.smallest? range accepts = none ↔ ∀ p, ¬ Place.Candidate root range accepts p) := by
  refine ⟨fun p => smallestPlace?_eq_some_iff, ?_, ?_⟩
  · intro n
    rw [smallest?, Option.map_eq_some_iff]
    exact exists_congr fun p => and_congr_left fun _ => smallestPlace?_eq_some_iff
  · rw [smallest?, Option.map_eq_none_iff]
    exact smallestPlace?_eq_none_iff

end Node

end Enclosure
