import Enclosure.Proofs.Tree.Scan
import Mathlib.Data.List.Pairwise

/-!
# Going down through ordered trees

A tree is ordered when the children of every node follow one another without overlap, though they
may touch. A range that is not empty then lies inside at most one child of a node, for a child that
starts where another one stops holds nothing of it. So from the root one way leads down, into the
only child that contains the range, again and again until no child does. In a tree that is nested as
well, the search finds the deepest accepted place on this way: there a smaller extent and a greater
depth are the same.
-/

set_option autoImplicit false

namespace Enclosure

namespace Node

/-- The children of every node of a tree are in order without overlap: each stops no later than the
next one starts. -/
def Ordered (root : Node) : Prop :=
  ∀ way n, root.at? way = some n → n.children.IsChain fun c d => c.span.stop ≤ d.span.start

/-- What lies in an ordered tree is ordered. -/
theorem Ordered.below {root n : Node} {way : List Nat} (h : root.Ordered)
    (hn : root.at? way = some n) : n.Ordered :=
  forall_at?_below h hn

/-- A node is ordered when its children follow each other and each of them is ordered. -/
theorem ordered_mk_iff {kind : String} {span : CursorRange} {children : List Node} :
    (Node.mk kind span children).Ordered ↔
      (children.IsChain fun c d => c.span.stop ≤ d.span.start) ∧ ∀ c ∈ children, c.Ordered :=
  forall_at?_mk_iff

/-- Of two children of an ordered node, the later one starts where the earlier one stops or behind.
-/
theorem Ordered.pairwise {n : Node} (h : n.Ordered) :
    n.children.Pairwise fun c d => c.span.stop ≤ d.span.start := by
  have htrans : IsTrans Node fun c d => c.span.stop ≤ d.span.start :=
    ⟨fun c d e hcd hde => Position.le_trans hcd (Position.le_trans d.span.start_le_stop hde)⟩
  exact (h [] n rfl).pairwise

end Node

namespace Place

/-- The only child of a place that contains a range, if there is exactly one. -/
def onlyChild? (range : CursorRange) (p : Place) : Option Place :=
  match p.children.filter fun c => c.node.span.Contains range with
  | [c] => some c
  | _ => none

variable {range : CursorRange} {p c : Place}

/-- A child is the only one around a range exactly when no other child is around it. -/
theorem onlyChild?_eq_some_iff :
    p.onlyChild? range = some c ↔
      (p.children.filter fun c => c.node.span.Contains range) = [c] := by
  unfold onlyChild?
  constructor
  · intro h
    split at h
    · next d hd =>
      rw [hd, Option.some.inj h]
    · cases h
  · intro h
    rw [h]

/-- The only child around a range is a child and around it. -/
theorem mem_children_of_onlyChild? (h : p.onlyChild? range = some c) :
    c ∈ p.children ∧ c.node.span.Contains range := by
  have hmem : c ∈ p.children.filter fun c => c.node.span.Contains range := by
    rw [onlyChild?_eq_some_iff.mp h]
    exact List.mem_singleton_self c
  simpa using hmem

/-- The places that one comes through from a place down, going again and again into the only child
that contains the range. -/
def descent (range : CursorRange) (p : Place) : List Place :=
  match _ : p.onlyChild? range with
  | some c => p :: descent range c
  | none => [p]
termination_by p.node.size
decreasing_by exact size_lt_of_mem_children (mem_children_of_onlyChild? ‹_›).1

/-- The descent from a place is the place and the descent from its only child around the range. -/
theorem descent_eq (range : CursorRange) (p : Place) :
    p.descent range = p :: (p.onlyChild? range).toList.flatMap (descent range) := by
  rw [descent]
  split
  · next c hc => rw [hc, Option.toList_some, List.flatMap_singleton]
  · next hc => rw [hc, Option.toList_none, List.flatMap_nil]

/-- A place of a chain of accepted places below which no other accepted one lies. -/
structure Deepest (accepts : Node → Bool) (chain : List Place) (p : Place) : Prop where
  mem : p ∈ chain
  accepted : accepts p.node = true
  deepest : ∀ q ∈ chain, accepts q.node = true → q.depth ≤ p.depth

/-- Of two children of an ordered place, the later one starts where the earlier one stops or behind.
-/
theorem pairwise_children (hordered : p.node.Ordered) :
    p.children.Pairwise fun c d => c.node.span.stop ≤ d.node.span.start := by
  rw [← List.pairwise_map (f := Place.node) (R := fun c d => c.span.stop ≤ d.span.start),
    map_node_children]
  exact hordered.pairwise

/-- In an ordered tree at most one child contains a range that is not empty. -/
theorem filter_children_eq (hordered : p.node.Ordered) (hrange : range.start < range.stop) :
    (p.children.filter fun c => c.node.span.Contains range) = (p.onlyChild? range).toList := by
  have hsorted := (pairwise_children hordered).filter fun c => c.node.span.Contains range
  have hcontains : ∀ c ∈ p.children.filter fun c => c.node.span.Contains range,
      c.node.span.Contains range := by
    intro c hc
    simpa using (List.mem_filter.mp hc).2
  unfold onlyChild?
  generalize (p.children.filter fun c => c.node.span.Contains range) = around at hsorted hcontains
  match around with
  | [] => rfl
  | [c] => rfl
  | c :: d :: rest =>
    -- the range would stop before it starts, where the one child stops and the other starts
    have hapart : c.node.span.stop ≤ d.node.span.start :=
      (List.pairwise_cons.mp hsorted).1 d List.mem_cons_self
    have hstop : range.stop ≤ c.node.span.stop := (hcontains c List.mem_cons_self).2
    have hstart : d.node.span.start ≤ range.start :=
      (hcontains d (List.mem_cons_of_mem c List.mem_cons_self)).1
    have hback := Position.le_trans hstop (Position.le_trans hapart hstart)
    exact absurd hrange (Position.not_lt.mpr hback)

/-- Walking through places goes through those only that may be entered. -/
theorem flatMap_walk_filter (enter : Node → Bool) (ps : List Place) :
    ps.flatMap (walk enter) = (ps.filter fun p => enter p.node).flatMap (walk enter) := by
  induction ps with
  | nil => rfl
  | cons p ps ih =>
    rw [List.flatMap_cons, List.filter_cons, ih]
    by_cases h : enter p.node = true
    · rw [if_pos h, List.flatMap_cons]
    · rw [if_neg h, walk_of_not_enter h, List.nil_append]

/-- In an ordered tree the nodes around a range that is not empty lie on one way down. -/
theorem walk_eq_descent (hordered : p.node.Ordered) (hrange : range.start < range.stop)
    (hp : p.node.span.Contains range) :
    (p.walk fun n => n.span.Contains range) = p.descent range := by
  induction hs : p.node.size using Nat.strongRecOn generalizing p with
  | ind s ih =>
    -- only the child that contains the range is gone into, and below it the same holds
    rw [walk_of_enter (decide_eq_true hp), flatMap_walk_filter, filter_children_eq hordered hrange,
      descent_eq]
    congr 1
    apply List.flatMap_congr
    intro c hc
    obtain ⟨hmem, hcontains⟩ := mem_children_of_onlyChild? (Option.mem_toList.mp hc)
    obtain ⟨i, hi, -⟩ := mem_children_iff.mp hmem
    have hchild : c.node.Ordered := hordered.below ((p.node.at?_singleton i).trans hi)
    exact ih _ (hs ▸ size_lt_of_mem_children hmem) hchild hcontains rfl

/-- A place of a descent lies at the end of a way below its start. -/
theorem exists_way_of_mem_descent {q : Place} (h : q ∈ p.descent range) :
    ∃ way, q.path = p.path ++ way ∧ p.node.at? way = some q.node := by
  fun_induction descent range p with
  | case1 p c honly ih =>
    rcases List.mem_cons.mp h with rfl | h
    · exact ⟨[], (List.append_nil _).symm, rfl⟩
    · obtain ⟨i, hi, hstep⟩ := mem_children_iff.mp (mem_children_of_onlyChild? honly).1
      obtain ⟨way, hpath, hat⟩ := ih h
      refine ⟨i :: way, ?_, ?_⟩
      · rw [hpath, hstep, List.append_assoc, List.singleton_append]
      · rw [Node.at?_cons, hi]
        exact hat
  | case2 p honly =>
    obtain rfl := List.mem_singleton.mp h
    exact ⟨[], (List.append_nil _).symm, rfl⟩

/-- A place lies above another one: the other one lies deeper, inside its span. -/
def Above (p q : Place) : Prop :=
  p.depth < q.depth ∧ p.node.span.Contains q.node.span

/-- A place below another one beats it. -/
theorem Above.beats {q : Place} (h : p.Above q) : q.Beats p :=
  beats_of_contains h.2 h.1

/-- On the way down a nested tree every place lies above those after it. -/
theorem pairwise_descent (hnested : p.node.Nested) : (p.descent range).Pairwise Above := by
  fun_induction descent range p with
  | case1 p c honly ih =>
    obtain ⟨i, hi, hstep⟩ := mem_children_iff.mp (mem_children_of_onlyChild? honly).1
    refine List.pairwise_cons.mpr ⟨?_, ih (hnested.child hi)⟩
    intro r hr
    obtain ⟨way, hpath, hat⟩ := exists_way_of_mem_descent hr
    have hdown : p.node.at? (i :: way) = some r.node := by
      rw [Node.at?_cons, hi]
      exact hat
    constructor
    · simp only [depth, hpath, hstep, List.length_append, List.length_singleton]
      omega
    · exact hnested.along hdown [] p.node List.nil_prefix rfl
  | case2 p honly => exact List.pairwise_singleton _ _

/-- In an ordered tree, the candidates for a range that is not empty are the accepted places of the
descent. -/
theorem candidate_iff_mem_descent {root : Node} {accepts : Node → Bool} (hordered : root.Ordered)
    (hrange : range.start < range.stop) (hroot : root.span.Contains range) :
    p.Candidate root range accepts ↔
      p ∈ (Place.root root).descent range ∧ accepts p.node = true := by
  rw [← walk_eq_descent (p := Place.root root) hordered hrange hroot, ← Node.mem_filter_walk_iff,
    List.mem_filter]

/-- Of two places of a descent in a nested tree, one lies above the other. -/
theorem above_or_above_of_mem_descent {q r : Place} (hnested : p.node.Nested)
    (hq : q ∈ p.descent range) (hr : r ∈ p.descent range) (hne : q ≠ r) :
    q.Above r ∨ r.Above q := by
  have hpairs : (p.descent range).Pairwise fun q r => q.Above r ∨ r.Above q :=
    (pairwise_descent hnested).imp Or.inl
  have hsymm : Std.Symm fun q r : Place => q.Above r ∨ r.Above q := ⟨fun _ _ => Or.symm⟩
  exact hpairs.forall hq hr hne

/-- In an ordered and nested tree the smallest place around a range that is not empty is the deepest
accepted one on the way down. -/
theorem smallest_iff_deepest {root : Node} {accepts : Node → Bool} (hnested : root.Nested)
    (hordered : root.Ordered) (hrange : range.start < range.stop)
    (hroot : root.span.Contains range) :
    p.Smallest root range accepts ↔ p.Deepest accepts ((Place.root root).descent range) := by
  have hcandidate (q : Place) : q.Candidate root range accepts ↔
      q ∈ (Place.root root).descent range ∧ accepts q.node = true :=
    candidate_iff_mem_descent hordered hrange hroot
  constructor
  · intro hp
    obtain ⟨hmem, haccept⟩ := (hcandidate p).mp hp.toCandidate
    refine ⟨hmem, haccept, ?_⟩
    intro q hq hqaccept
    -- a deeper candidate would lie below the smallest place, and so be smaller still
    by_contra hdeeper
    have hne : q ≠ p := by
      rintro rfl
      exact hdeeper le_rfl
    rcases above_or_above_of_mem_descent hnested hq hmem hne with habove | hbelow
    · exact hdeeper habove.1.le
    · exact hp.not_beats ((hcandidate q).mpr ⟨hq, hqaccept⟩) hbelow.beats
  · intro hp
    refine ⟨(hcandidate p).mpr ⟨hp.mem, hp.accepted⟩, ?_⟩
    intro q hq
    obtain ⟨hmem, haccept⟩ := (hcandidate q).mp hq
    by_cases hne : q = p
    · rw [hne]
    · rcases above_or_above_of_mem_descent hnested hmem hp.mem hne with habove | hbelow
      · exact (rank_lt_of_beats habove.beats).le
      · exact absurd (hp.deepest q hmem haccept) (Nat.not_le.mpr hbelow.1)

end Place

namespace Node

/-- In a tree whose nodes are nested and in order without overlap, every place from which one goes
down has at most one child around a range that is not empty. The search finds the deepest accepted
place on the way down from the root, and nothing exactly if the root does not contain the range or
no node on the way is accepted. -/
theorem smallestPlace?_deepest_of_descent (root : Node) (hnested : root.Nested)
    (hordered : root.Ordered) (range : CursorRange) (hrange : range.start < range.stop)
    (accepts : Node → Bool) :
    let chain := (Place.root root).descent range
    (∀ p ∈ chain, ∀ c ∈ p.children, c.node.span.Contains range →
        p.onlyChild? range = some c) ∧
      (∀ p, root.smallestPlace? range accepts = some p ↔
        root.span.Contains range ∧ p.Deepest accepts chain) ∧
      (∀ n, root.smallest? range accepts = some n ↔
        root.span.Contains range ∧ ∃ p : Place, p.Deepest accepts chain ∧ p.node = n) ∧
      (root.smallest? range accepts = none ↔
        ¬ root.span.Contains range ∨ ∀ q ∈ chain, accepts q.node = false) := by
  intro chain
  have hplace (p : Place) : root.smallestPlace? range accepts = some p ↔
      root.span.Contains range ∧ p.Deepest accepts chain := by
    rw [smallestPlace?_eq_some_iff]
    constructor
    · intro hp
      have hroot : root.span.Contains range := hp.enclosing [] root List.nil_prefix rfl
      exact ⟨hroot, (Place.smallest_iff_deepest hnested hordered hrange hroot).mp hp⟩
    · rintro ⟨hroot, hp⟩
      exact (Place.smallest_iff_deepest hnested hordered hrange hroot).mpr hp
  refine ⟨?_, hplace, ?_, ?_⟩
  · intro p hp c hc hcontains
    obtain ⟨way, -, hat⟩ := Place.exists_way_of_mem_descent hp
    have hfilter := Place.filter_children_eq (p := p) (hordered.below hat) hrange
    have hmem : c ∈ (p.onlyChild? range).toList := by
      rw [← hfilter, List.mem_filter]
      exact ⟨hc, decide_eq_true hcontains⟩
    exact Option.mem_toList.mp hmem
  · intro n
    rw [smallest?, Option.map_eq_some_iff]
    simp only [hplace, and_assoc, exists_and_left]
  · rw [smallest?, Option.map_eq_none_iff, smallestPlace?_eq_none_iff]
    by_cases hroot : root.span.Contains range
    · have hcandidate (q : Place) : q.Candidate root range accepts ↔
          q ∈ chain ∧ accepts q.node = true :=
        Place.candidate_iff_mem_descent hordered hrange hroot
      simp only [hcandidate, hroot, not_true, false_or, not_and, Bool.not_eq_true]
    · refine iff_of_true ?_ (Or.inl hroot)
      intro p hp
      exact hroot (hp.enclosing [] root List.nil_prefix rfl)

def secondClass : Node :=
  .mk "class_declaration" ⟨⟨2, 5⟩, ⟨6, 1⟩, by decide⟩
    [.mk "function_declaration" ⟨⟨3, 2⟩, ⟨3, 9⟩, by decide⟩ []]

/-- A declaration, an empty node and another declaration that all touch. -/
def touchingClasses : Node :=
  .mk "source_file" ⟨⟨0, 0⟩, ⟨7, 0⟩, by decide⟩
    [.mk "class_declaration" ⟨⟨0, 0⟩, ⟨2, 5⟩, by decide⟩ [],
      .mk "comment" ⟨⟨2, 5⟩, ⟨2, 5⟩, by decide⟩ [], secondClass]

/-- From where all three touch to the next row there is one way down, to the second declaration. -/
theorem smallestPlace?_deepest_of_descent_touchingClasses :
    let range : CursorRange := ⟨⟨2, 5⟩, ⟨3, 0⟩, by decide⟩
    touchingClasses.Nested ∧ touchingClasses.Ordered ∧ range.start < range.stop ∧
      (Place.root touchingClasses).descent range =
        [.root touchingClasses, ⟨secondClass, [2]⟩] ∧
      touchingClasses.smallestPlace? range (fun n => n.kind == "class_declaration") =
        some ⟨secondClass, [2]⟩ ∧
      touchingClasses.smallest? range (fun n => n.kind == "function_declaration") = none := by
  intro range
  have hnested : touchingClasses.Nested := by
    simp +decide [touchingClasses, secondClass, nested_mk_iff]
  have hordered : touchingClasses.Ordered := by
    simp +decide [touchingClasses, secondClass, ordered_mk_iff]
  have hrange : range.start < range.stop := by decide
  have hsecond : (Place.root touchingClasses).onlyChild? range = some ⟨secondClass, [2]⟩ := rfl
  have hend : (Place.mk secondClass [2]).onlyChild? range = none := rfl
  have hdescent : (Place.root touchingClasses).descent range =
      [.root touchingClasses, ⟨secondClass, [2]⟩] := by
    rw [Place.descent_eq, hsecond, Option.toList_some, List.flatMap_singleton, Place.descent_eq,
      hend, Option.toList_none, List.flatMap_nil]
  refine ⟨hnested, hordered, hrange, hdescent, ?_, ?_⟩
  · obtain ⟨-, hplace, -, -⟩ := smallestPlace?_deepest_of_descent touchingClasses hnested hordered
      range hrange fun n => n.kind == "class_declaration"
    rw [hplace, hdescent]
    refine ⟨by decide, ⟨by simp, rfl, ?_⟩⟩
    intro q hq _
    rcases List.mem_pair.mp hq with rfl | rfl
    · decide
    · decide
  · obtain ⟨-, -, -, hnone⟩ := smallestPlace?_deepest_of_descent touchingClasses hnested hordered
      range hrange fun n => n.kind == "function_declaration"
    rw [hnone, hdescent]
    right
    intro q hq
    rcases List.mem_pair.mp hq with rfl | rfl
    · rfl
    · rfl

end Node

end Enclosure
