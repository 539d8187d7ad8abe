import Enclosure.Proofs.Tree.Nesting

/-!
# Looking at all nodes

A scan looks at every node of a tree, keeps the accepted ones that contain the range and takes the
one of least extent, of these the deepest and of these the first. In a nested tree a node that
contains the range is contained in nodes that all contain it, so the search, which never goes below
a node that does not contain the range, misses none of them and finds what the scan finds. Below
that node no accepted node contains the range: it would be no larger and lie deeper, hence be
preferred.
-/

set_option autoImplicit false

namespace Enclosure

namespace Node

/-- The accepted places of a whole tree that contain a range, in document order. -/
def placesAround (root : Node) (range : CursorRange) (accepts : Node → Bool) : List Place :=
  root.places.filter fun p => accepts p.node && decide (p.node.span.Contains range)

/-- The place that a scan of a whole tree finds: of all accepted places around the range the first
to which no other is preferred for a smaller extent, or for the same extent further down. -/
def scan? (root : Node) (range : CursorRange) (accepts : Node → Bool) : Option Place :=
  let around := root.placesAround range accepts
  around.find? fun p => around.all fun q => !decide (q.Beats p)

end Node

namespace Place

variable {root : Node} {range : CursorRange} {accepts : Node → Bool}

/-- In a nested tree the candidates are the accepted places around the range. -/
theorem candidate_iff_of_nested (hnested : root.Nested) {p : Place} :
    p.Candidate root range accepts ↔
      root.at? p.path = some p.node ∧ accepts p.node = true ∧ p.node.span.Contains range := by
  constructor
  · intro hp
    exact ⟨hp.located, hp.accepted,
      hp.enclosing p.path p.node (List.prefix_refl p.path) hp.located⟩
  · rintro ⟨hat, haccept, hcontains⟩
    refine ⟨hat, ?_, haccept⟩
    intro part m hpart hm
    exact CursorRange.contains_trans (hnested.along hat part m hpart hm) hcontains

/-- A deeper place inside the span of another one is preferred to it. -/
theorem beats_of_contains {p q : Place} (hcontains : p.node.span.Contains q.node.span)
    (hdepth : p.depth < q.depth) : q.Beats p := by
  rcases Extent.lt_or_eq_of_le (CursorRange.extent_le_of_contains hcontains) with hlt | heq
  · exact Or.inl hlt
  · exact Or.inr ⟨heq, hdepth⟩

/-- No candidate beats the smallest place. -/
theorem Smallest.not_beats {p q : Place} (hp : p.Smallest root range accepts)
    (hq : q.Candidate root range accepts) : ¬ q.Beats p := by
  intro hbeats
  exact absurd (hp.least q hq) (not_le_of_gt (rank_lt_of_beats hbeats))

/-- The smallest candidate is preferred to those that come earlier in the document. -/
theorem Smallest.beats_of_path_lt {p q : Place} (hp : p.Smallest root range accepts)
    (hq : q.Candidate root range accepts) (hpath : q.path < p.path) : p.Beats q := by
  by_contra hbeats
  exact absurd (hp.least q hq) (not_le_of_gt (rank_lt_of_not_beats hbeats hpath))

/-- In a nested tree no accepted node below the smallest place contains the range. -/
theorem Smallest.not_contains_below {p : Place} (hnested : root.Nested)
    (hp : p.Smallest root range accepts) {way : List Nat} {m : Node} (hway : way ≠ [])
    (hm : p.node.at? way = some m) (haccept : accepts m = true) : ¬ m.span.Contains range := by
  intro hcontains
  have hat : root.at? (p.path ++ way) = some m := by
    rw [Node.at?_append, hp.located, Option.bind_some, hm]
  have hbelow : (⟨m, p.path ++ way⟩ : Place).Candidate root range accepts :=
    (candidate_iff_of_nested hnested).mpr ⟨hat, haccept, hcontains⟩
  have hinside : p.node.span.Contains m.span :=
    hnested.along hat p.path p.node (List.prefix_append p.path way) hp.located
  have hdepth : p.depth < (⟨m, p.path ++ way⟩ : Place).depth := by
    have := List.length_pos_iff.mpr hway
    simp only [depth, List.length_append]
    omega
  exact hp.not_beats hbelow (beats_of_contains hinside hdepth)

end Place

namespace Node

variable {root : Node} {range : CursorRange} {accepts : Node → Bool}

/-- In a nested tree a scan chooses among the candidates. -/
theorem mem_placesAround_iff (hnested : root.Nested) {p : Place} :
    p ∈ root.placesAround range accepts ↔ p.Candidate root range accepts := by
  rw [placesAround, List.mem_filter, mem_places_iff, Bool.and_eq_true, decide_eq_true_eq,
    Place.candidate_iff_of_nested hnested]

/-- In a nested tree a scan finds the smallest candidate. -/
theorem scan?_of_smallest (hnested : root.Nested) {p : Place}
    (hp : p.Smallest root range accepts) : root.scan? range accepts = some p := by
  have hmem : p ∈ root.placesAround range accepts :=
    (mem_placesAround_iff hnested).mpr hp.toCandidate
  have hsorted : (root.placesAround range accepts).Pairwise fun p q => p.path < q.path :=
    root.pairwise_path_places.sublist List.filter_sublist
  have hcandidate : ∀ q ∈ root.placesAround range accepts, q.Candidate root range accepts :=
    fun q hq => (mem_placesAround_iff hnested).mp hq
  unfold scan?
  obtain ⟨before, later, hsplit⟩ := List.append_of_mem hmem
  rw [hsplit] at hmem hsorted hcandidate ⊢
  have hearlier : ∀ q ∈ before, p.Beats q := by
    intro q hq
    have hpath : q.path < p.path :=
      (List.pairwise_append.mp hsorted).2.2 q hq p List.mem_cons_self
    exact hp.beats_of_path_lt (hcandidate q (List.mem_append_left _ hq)) hpath
  rw [List.find?_eq_some_iff_append]
  refine ⟨?_, before, later, rfl, ?_⟩
  · rw [List.all_eq_true]
    intro q hq
    simpa using hp.not_beats (hcandidate q hq)
  · intro q hq
    rw [Bool.not_eq_true', List.all_eq_false]
    exact ⟨p, hmem, by simpa using hearlier q hq⟩

/-- In a nested tree, the search finds what a scan of all places finds. -/
theorem smallestPlace?_eq_scan? (hnested : root.Nested) :
    root.smallestPlace? range accepts = root.scan? range accepts := by
  rcases smallestPlace?_cases root range accepts with ⟨hnone, hempty⟩ | ⟨p, hsome, hp⟩
  · have hnil : root.placesAround range accepts = [] := by
      refine List.eq_nil_iff_forall_not_mem.mpr fun p hp => ?_
      exact hempty p ((mem_placesAround_iff hnested).mp hp)
    unfold scan?
    rw [hnone, hnil]
    rfl
  · rw [hsome, scan?_of_smallest hnested hp]

/-- For every nested tree, range and condition on nodes the search finds the place that a scan of
all nodes finds, and no accepted node below it contains the range. -/
theorem smallestPlace?_agrees_with_scan (root : Node) (hnested : root.Nested) (range : CursorRange)
    (accepts : Node → Bool) :
    root.smallestPlace? range accepts = root.scan? range accepts ∧
      root.smallest? range accepts = (root.scan? range accepts).map Place.node ∧
      ∀ p, root.smallestPlace? range accepts = some p →
        ∀ way m, way ≠ [] → p.node.at? way = some m → accepts m = true →
          ¬ m.span.Contains range := by
  have hplace : root.smallestPlace? range accepts = root.scan? range accepts :=
    smallestPlace?_eq_scan? hnested
  refine ⟨hplace, ?_, ?_⟩
  · rw [smallest?, hplace]
  · intro p hp way m hway hm haccept
    exact (smallestPlace?_eq_some_iff.mp hp).not_contains_below hnested hway hm haccept

/-- A declaration around another one with the same span, which has a name. -/
def twins : Node :=
  .mk "class_declaration" ⟨⟨0, 0⟩, ⟨5, 1⟩, by decide⟩
    [.mk "class_declaration" ⟨⟨0, 0⟩, ⟨5, 1⟩, by decide⟩
      [.mk "type_identifier" ⟨⟨0, 6⟩, ⟨0, 7⟩, by decide⟩ []]]

/-- Of the two declarations the inner one is found, around a cursor that its name does not
contain. -/
theorem smallestPlace?_agrees_with_scan_twins :
    twins.Nested ∧
      ∃ p, twins.scan? (.caret 0 3) (fun _ => true) = some p ∧ p.path = [0] ∧
        ∃ name, p.node.at? [0] = some name ∧ ¬ name.span.Contains (.caret 0 3) := by
  have hnested : twins.Nested := by
    apply nested_of_children
    intro c hc
    obtain rfl := List.mem_singleton.mp hc
    refine ⟨by decide, ?_⟩
    apply nested_of_children
    intro d hd
    obtain rfl := List.mem_singleton.mp hd
    exact ⟨by decide, nested_of_children fun e he => absurd he List.not_mem_nil⟩
  obtain ⟨hplace, -, hbelow⟩ :=
    smallestPlace?_agrees_with_scan twins hnested (.caret 0 3) fun _ => true
  have hfound : twins.smallestPlace? (.caret 0 3) (fun _ => true) =
      some ⟨.mk "class_declaration" ⟨⟨0, 0⟩, ⟨5, 1⟩, by decide⟩
        [.mk "type_identifier" ⟨⟨0, 6⟩, ⟨0, 7⟩, by decide⟩ []], [0]⟩ := by
    -- the outer declaration, the inner one and its name are looked at in turn
    rw [smallestPlace?, Search.loop, if_pos (by decide)]
    change Search.loop _ _ [_] _ = _
    rw [Search.loop, if_pos (by decide)]
    change Search.loop _ _ [_] _ = _
    rw [Search.loop, if_neg (by decide), Search.loop]
    rfl
  refine ⟨hnested, _, hplace ▸ hfound, rfl, _, rfl, ?_⟩
  exact hbelow _ hfound [0] _ (List.cons_ne_nil 0 []) rfl rfl

end Node

end Enclosure
