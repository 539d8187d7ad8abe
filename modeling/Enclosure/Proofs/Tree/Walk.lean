import Enclosure.Tree.Search
import Mathlib.Data.List.Basic
import Mathlib.Data.List.Lex

/-!
# Walks through a tree

A way is the list of child numbers that leads from a node to one below it. A walk lists the places
at and below a place in document order and passes over every node it may not enter, together with
all that lies below. A place is met by a walk exactly when every node on the way to it may be
entered, and the ways of the places met grow lexicographically, so that document order is the
lexicographic order of ways.
-/

set_option autoImplicit false

namespace Enclosure

namespace Node

/-- The node at the end of a way, if there is one. -/
def at? : Node → List Nat → Option Node
  | n, [] => some n
  | n, i :: way => n.children[i]?.bind fun c => c.at? way

/-- The empty way leads to the node itself. -/
@[simp] theorem at?_nil (n : Node) : n.at? [] = some n := rfl

/-- A way leads to a child first and on from there. -/
@[simp] theorem at?_cons (n : Node) (i : Nat) (way : List Nat) :
    n.at? (i :: way) = n.children[i]?.bind fun c => c.at? way := rfl

/-- A way of one step leads to a child. -/
theorem at?_singleton (n : Node) (i : Nat) : n.at? [i] = n.children[i]? := by
  rw [at?_cons]
  cases n.children[i]? <;> rfl

/-- Two ways in a row lead on from where the first one leads. -/
theorem at?_append (n : Node) (way rest : List Nat) :
    n.at? (way ++ rest) = (n.at? way).bind fun m => m.at? rest := by
  induction way generalizing n with
  | nil => rfl
  | cons i way ih =>
    rw [List.cons_append, at?_cons, at?_cons, Option.bind_assoc]
    simp only [ih]

/-- What holds of a node and of all nodes below its children holds of all nodes of the tree. -/
theorem forall_at?_of_children {n : Node} {good : Node → Prop} (hn : good n)
    (h : ∀ c ∈ n.children, ∀ way m, c.at? way = some m → good m) :
    ∀ way m, n.at? way = some m → good m := by
  intro way m hm
  cases way with
  | nil =>
    cases hm
    exact hn
  | cons i way =>
    obtain ⟨c, hc, hat⟩ := Option.bind_eq_some_iff.mp hm
    exact h c (List.mem_of_getElem? hc) way m hat

/-- All nodes of a tree are good when its root is and all nodes below each child are. -/
theorem forall_at?_mk_iff {kind : String} {span : CursorRange} {children : List Node}
    {good : Node → Prop} :
    (∀ way m, (Node.mk kind span children).at? way = some m → good m) ↔
      good (.mk kind span children) ∧ ∀ c ∈ children, ∀ way m, c.at? way = some m → good m := by
  constructor
  · intro h
    refine ⟨h [] _ rfl, ?_⟩
    intro c hc way m hm
    obtain ⟨i, hi⟩ := List.mem_iff_getElem?.mp hc
    apply h (i :: way) m
    rw [at?_cons, Node.children, hi]
    exact hm
  · rintro ⟨hn, h⟩
    exact forall_at?_of_children hn h

/-- What holds of all nodes of a tree holds of all nodes at and below one of them. -/
theorem forall_at?_below {root n : Node} {way : List Nat} {good : Node → Prop}
    (h : ∀ way m, root.at? way = some m → good m) (hn : root.at? way = some n) :
    ∀ rest m, n.at? rest = some m → good m := by
  intro rest m hm
  apply h (way ++ rest) m
  rw [at?_append, hn, Option.bind_some, hm]

/-- Every node on the way from one node to another satisfies a condition, both ends included. -/
def Along (n : Node) (way : List Nat) (good : Node → Prop) : Prop :=
  ∀ part m, part <+: way → n.at? part = some m → good m

/-- Along the empty way there is the node itself only. -/
theorem along_nil {n : Node} {good : Node → Prop} : n.Along [] good ↔ good n := by
  constructor
  · intro h
    exact h [] n (List.prefix_refl []) rfl
  · intro h part m hpart hm
    rw [List.prefix_nil.mp hpart, at?_nil] at hm
    cases hm
    exact h

/-- Along a way there are the node and what is along the rest from the child. -/
theorem along_cons {n c : Node} {i : Nat} {way : List Nat} {good : Node → Prop}
    (hc : n.children[i]? = some c) :
    n.Along (i :: way) good ↔ good n ∧ c.Along way good := by
  constructor
  · intro h
    refine ⟨h [] n List.nil_prefix rfl, ?_⟩
    intro part m hpart hm
    apply h (i :: part) m ((List.prefix_cons_inj i).mpr hpart)
    rw [at?_cons, hc]
    exact hm
  · rintro ⟨hn, h⟩ part m hpart hm
    cases part with
    | nil =>
      cases hm
      exact hn
    | cons j part =>
      obtain ⟨rfl, hrest⟩ := List.cons_prefix_cons.mp hpart
      rw [at?_cons, hc] at hm
      exact h part m hrest hm

end Node

namespace Place

/-- A place is a child when its node is one and its way goes one step further. -/
theorem mem_children_iff {p c : Place} :
    c ∈ p.children ↔ ∃ i, p.node.children[i]? = some c.node ∧ c.path = p.path ++ [i] := by
  rw [children, List.mem_map]
  constructor
  · rintro ⟨⟨n, i⟩, hmem, rfl⟩
    exact ⟨i, List.mk_mem_zipIdx_iff_getElem?.mp hmem, rfl⟩
  · rintro ⟨i, hn, hpath⟩
    refine ⟨(c.node, i), List.mk_mem_zipIdx_iff_getElem?.mpr hn, ?_⟩
    cases c
    simp only at hpath
    rw [hpath]

/-- A child is smaller in size. -/
theorem size_lt_of_mem_children {p c : Place} (h : c ∈ p.children) :
    c.node.size < p.node.size := by
  have hmem : c.node ∈ p.node.children := by
    rw [← map_node_children]
    exact List.mem_map_of_mem h
  have hle : ∀ ns : List Node, c.node ∈ ns → c.node.size ≤ Node.sizeAll ns := by
    intro ns
    induction ns with
    | nil => simp
    | cons n rest ih =>
      intro hn
      rw [Node.sizeAll]
      rcases List.mem_cons.mp hn with rfl | hrest
      · omega
      · have := ih hrest
        omega
  have := hle _ hmem
  rw [p.node.size_eq]
  omega

/-- The places at and below a place in document order, without the nodes that may not be entered and
whatever lies below these. -/
def walk (enter : Node → Bool) (p : Place) : List Place :=
  if enter p.node then p :: p.children.attach.flatMap fun c => walk enter c.1 else []
termination_by p.node.size
decreasing_by exact size_lt_of_mem_children c.2

/-- A place that is not entered has an empty walk. -/
theorem walk_of_not_enter {enter : Node → Bool} {p : Place} (h : ¬ enter p.node = true) :
    p.walk enter = [] := by
  rw [walk, if_neg h]

/-- The walk of a place that is entered is the place and then the walks of its children. -/
theorem walk_of_enter {enter : Node → Bool} {p : Place} (h : enter p.node = true) :
    p.walk enter = p :: p.children.flatMap (walk enter) := by
  rw [walk, if_pos h]
  congr 1
  rw [List.flatMap_subtype (fun _ _ => rfl), List.unattach_attach]

/-- A walk meets exactly the places below that are reached by entering every node on the way. -/
theorem mem_walk_iff {enter : Node → Bool} {p q : Place} :
    q ∈ p.walk enter ↔ ∃ way, q.path = p.path ++ way ∧ p.node.at? way = some q.node ∧
      p.node.Along way fun n => enter n = true := by
  induction hs : p.node.size using Nat.strongRecOn generalizing p with
  | ind s ih =>
    by_cases henter : enter p.node = true
    · -- the empty way leads to the place itself, every other way through one of its children
      rw [walk_of_enter henter, List.mem_cons, List.mem_flatMap]
      constructor
      · rintro (rfl | ⟨c, hc, hq⟩)
        · exact ⟨[], (List.append_nil _).symm, rfl, Node.along_nil.mpr henter⟩
        · obtain ⟨way, hpath, hat, halong⟩ := (ih _ (hs ▸ size_lt_of_mem_children hc) rfl).mp hq
          obtain ⟨i, hnode, hstep⟩ := mem_children_iff.mp hc
          refine ⟨i :: way, ?_, ?_, (Node.along_cons hnode).mpr ⟨henter, halong⟩⟩
          · rw [hpath, hstep, List.append_assoc, List.singleton_append]
          · rw [Node.at?_cons, hnode]
            exact hat
      · rintro ⟨way, hpath, hat, halong⟩
        cases way with
        | nil =>
          left
          rw [List.append_nil] at hpath
          cases q
          cases hat
          cases hpath
          rfl
        | cons i way =>
          right
          obtain ⟨n, hn, hat⟩ := Option.bind_eq_some_iff.mp hat
          have hc : (⟨n, p.path ++ [i]⟩ : Place) ∈ p.children := mem_children_iff.mpr ⟨i, hn, rfl⟩
          refine ⟨_, hc, (ih _ (hs ▸ size_lt_of_mem_children hc) rfl).mpr ⟨way, ?_, hat, ?_⟩⟩
          · rw [hpath, List.append_assoc, List.singleton_append]
          · exact ((Node.along_cons hn).mp halong).2
    · rw [walk_of_not_enter henter]
      constructor
      · intro h
        cases h
      · rintro ⟨way, -, -, halong⟩
        exact absurd (halong [] p.node List.nil_prefix rfl) henter

/-- Of two children, the later one has the greater number. -/
theorem pairwise_path_children (p : Place) :
    p.children.Pairwise fun c d =>
      ∃ i j, i < j ∧ c.path = p.path ++ [i] ∧ d.path = p.path ++ [j] := by
  have hnumbers : p.node.children.zipIdx.Pairwise fun c d => c.2 < d.2 := by
    rw [← List.pairwise_map (f := Prod.snd), List.zipIdx_map_snd]
    exact List.pairwise_lt_range'
  rw [children, List.pairwise_map]
  exact hnumbers.imp fun {c d} hlt => ⟨c.2, d.2, hlt, rfl, rfl⟩

/-- A walk meets its places in the lexicographic order of their ways, which is document order. -/
theorem pairwise_path_walk (enter : Node → Bool) (p : Place) :
    (p.walk enter).Pairwise fun q r => q.path < r.path := by
  induction hs : p.node.size using Nat.strongRecOn generalizing p with
  | ind s ih =>
    by_cases henter : enter p.node = true
    · -- the place comes before those below it, and those below one child before the next child's
      rw [walk_of_enter henter, List.pairwise_cons, List.pairwise_flatMap]
      refine ⟨?_, ?_, ?_⟩
      · intro q hq
        obtain ⟨c, hc, hq⟩ := List.mem_flatMap.mp hq
        obtain ⟨i, -, hstep⟩ := mem_children_iff.mp hc
        obtain ⟨way, hpath, -, -⟩ := mem_walk_iff.mp hq
        have hlt : p.path ++ [] < p.path ++ ([i] ++ way) :=
          List.append_left_lt (List.nil_lt_cons i way)
        rw [List.append_nil] at hlt
        rw [hpath, hstep, List.append_assoc]
        exact hlt
      · intro c hc
        exact ih _ (hs ▸ size_lt_of_mem_children hc) c rfl
      · apply (pairwise_path_children p).imp
        rintro c d ⟨i, j, hlt, hc, hd⟩ q hq r hr
        obtain ⟨way, hq, -, -⟩ := mem_walk_iff.mp hq
        obtain ⟨way', hr, -, -⟩ := mem_walk_iff.mp hr
        rw [hq, hr, hc, hd, List.append_assoc, List.append_assoc]
        apply List.append_left_lt
        exact List.cons_lt_cons_iff.mpr (Or.inl hlt)
    · rw [walk_of_not_enter henter]
      exact List.Pairwise.nil

end Place

namespace Node

/-- All places of a tree, in document order. -/
def places (root : Node) : List Place :=
  (Place.root root).walk fun _ => true

/-- The places of a tree are its nodes with the ways to them. -/
theorem mem_places_iff {root : Node} {p : Place} :
    p ∈ root.places ↔ root.at? p.path = some p.node := by
  rw [places, Place.mem_walk_iff]
  constructor
  · rintro ⟨way, hpath, hat, -⟩
    rw [Place.root, List.nil_append] at hpath
    rw [hpath]
    exact hat
  · intro hat
    exact ⟨p.path, rfl, hat, fun _ _ _ _ => rfl⟩

/-- Document order is the lexicographic order of ways. -/
theorem pairwise_path_places (root : Node) :
    root.places.Pairwise fun p q => p.path < q.path :=
  Place.pairwise_path_walk _ _

end Node

end Enclosure
