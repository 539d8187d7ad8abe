import Enclosure.Proofs.Parse.ColumnMap
import Enclosure.Proofs.Parse.WholeTree
import Enclosure.Proofs.Tree.Nesting
import Mathlib.Data.List.Forall2

/-!
# Nested trees of a parser

In a tree as a parser reports it the nodes run forward when none stops before it starts, and the
tree is nested when every node lies inside the node above it, both counted in bytes. Since the
column map keeps the order of points, a tree whose nodes run forward can be looked at in characters
wherever a search goes, and what is seen of a nested tree is nested as well.
-/

set_option autoImplicit false

namespace Enclosure

/-- The order of raw points is transitive. -/
theorem RawPoint.le_trans {p q r : RawPoint} (h₁ : p ≤ q) (h₂ : q ≤ r) : p ≤ r := by
  rw [le_def] at h₁ h₂ ⊢
  omega

/-- Steps that all succeed succeed one after the other. -/
theorem exists_mapM_eq_ok {ε α β : Type} {f : α → Except ε β} {xs : List α}
    (h : ∀ x ∈ xs, ∃ y, f x = .ok y) : ∃ ys, xs.mapM f = .ok ys := by
  induction xs with
  | nil => exact ⟨[], rfl⟩
  | cons x xs ih =>
    obtain ⟨y, hy⟩ := h x List.mem_cons_self
    obtain ⟨ys, hys⟩ := ih fun x' hx' => h x' (List.mem_cons_of_mem x hx')
    refine ⟨y :: ys, ?_⟩
    rw [List.mapM_cons, hy, hys]
    rfl

/-- What holds of two lists item by item holds of the items at each place. -/
theorem rel_getElem?_of_forall₂ {α β : Type} {r : α → β → Prop} {xs : List α} {ys : List β}
    (h : List.Forall₂ r xs ys) (i : Nat) : Option.Rel r xs[i]? ys[i]? := by
  induction h generalizing i with
  | nil => exact .none
  | cons hxy _ ih =>
    cases i with
    | zero => exact .some hxy
    | succ i => exact ih i

namespace RawNode

/-- The node at the end of a way, if there is one. -/
def at? : RawNode → List Nat → Option RawNode
  | n, [] => some n
  | n, i :: way => n.children[i]?.bind fun c => c.at? way

/-- What holds of a node and of all nodes below its children holds of all nodes of the tree. -/
theorem forall_at?_of_children {n : RawNode} {good : RawNode → Prop} (hn : good n)
    (h : ∀ c ∈ n.children, ∀ way m, c.at? way = some m → good m) :
    ∀ way m, n.at? way = some m → good m := by
  intro way m hm
  cases way with
  | nil =>
    cases hm
    exact hn
  | cons i way =>
    obtain ⟨c, hc, hat⟩ := Option.bind_eq_some_iff.mp hm
    exact h c (List.mem_of_getElem? hc) way m hat

/-- No node of a tree stops before it starts. -/
def Forward (root : RawNode) : Prop :=
  ∀ way n, root.at? way = some n → n.start ≤ n.stop

/-- Every node of a tree contains its children. -/
def Nested (root : RawNode) : Prop :=
  ∀ way n, root.at? way = some n → ∀ c ∈ n.children, n.start ≤ c.start ∧ c.stop ≤ n.stop

/-- The children of a node that runs forward do so as well. -/
theorem Forward.child {n c : RawNode} (h : n.Forward) (hc : c ∈ n.children) : c.Forward := by
  obtain ⟨i, hi⟩ := List.mem_iff_getElem?.mp hc
  intro way m hm
  apply h (i :: way) m
  rw [at?, hi, Option.bind_some, hm]

/-- A node that does not run backwards has the range between its positions. -/
theorem span_of_le (columns : ColumnMap) {n : RawNode} (h : n.start ≤ n.stop) :
    n.span columns =
      .ok ⟨columns.position n.start, columns.position n.stop, columns.position_le_position h⟩ :=
  columns.range_of_le h

/-- A node that has a span has it between the positions of its two points. -/
theorem span_eq_ok {columns : ColumnMap} {n : RawNode} {span : CursorRange}
    (h : n.span columns = .ok span) :
    span.start = columns.position n.start ∧ span.stop = columns.position n.stop := by
  unfold RawNode.span ColumnMap.range CursorRange.between at h
  split at h
  · cases h
    exact ⟨rfl, rfl⟩
  · cases h

/-- Inside and outside in bytes are inside and outside in characters. -/
theorem contains_of_span {columns : ColumnMap} {n c : RawNode} {outer inner : CursorRange}
    (hn : n.span columns = .ok outer) (hc : c.span columns = .ok inner)
    (hstart : n.start ≤ c.start) (hstop : c.stop ≤ n.stop) : outer.Contains inner := by
  obtain ⟨hn₁, hn₂⟩ := span_eq_ok hn
  obtain ⟨hc₁, hc₂⟩ := span_eq_ok hc
  constructor
  · rw [hn₁, hc₁]
    exact columns.position_le_position hstart
  · rw [hn₂, hc₂]
    exact columns.position_le_position hstop

variable {columns : ColumnMap} {enter : CursorRange → Bool}

mutual

/-- A tree whose nodes run forward can be looked at, however far one goes down. -/
theorem exists_view_eq_ok : ∀ raw : RawNode, raw.Forward → ∃ n, raw.view columns enter = .ok n
  | .mk kind start stop missing children, h => by
    have hle : start ≤ stop := h [] _ rfl
    have hspan := columns.range_of_le hle
    have hchildren : ∀ c ∈ children, c.Forward := fun c hc => h.child hc
    -- the spans of all children are needed before one goes down into any of them
    have hspans : ∃ spans, children.mapM (RawNode.span columns) = .ok spans :=
      exists_mapM_eq_ok fun c hc => ⟨_, c.span_of_le columns (hchildren c hc [] c rfl)⟩
    obtain ⟨spans, hspans⟩ := hspans
    obtain ⟨below, hbelow⟩ := exists_viewAll_eq_ok children hchildren
    rw [view, hspan]
    change ∃ n, (if enter _ = true then _ else _) = Except.ok n
    split
    · rw [hspans]
      change ∃ n, (viewAll columns enter children >>= _) = Except.ok n
      rw [hbelow]
      exact ⟨_, rfl⟩
    · exact ⟨_, rfl⟩

/-- Trees whose nodes run forward can be looked at, however far one goes down. -/
theorem exists_viewAll_eq_ok : ∀ raws : List RawNode, (∀ raw ∈ raws, raw.Forward) →
    ∃ ns, viewAll columns enter raws = .ok ns
  | [], _ => ⟨[], rfl⟩
  | raw :: rest, h => by
    obtain ⟨first, hfirst⟩ := exists_view_eq_ok raw (h raw List.mem_cons_self)
    obtain ⟨others, hothers⟩ :=
      exists_viewAll_eq_ok rest fun r hr => h r (List.mem_cons_of_mem raw hr)
    refine ⟨first :: others, ?_⟩
    rw [viewAll, hfirst]
    change (viewAll columns enter rest >>= _) = _
    rw [hothers]
    rfl

end

/-- The nodes of a list are seen one by one. -/
theorem forall₂_of_viewAll {raws : List RawNode} {ns : List Node}
    (h : viewAll columns enter raws = .ok ns) :
    List.Forall₂ (fun raw n => raw.view columns enter = .ok n) raws ns := by
  induction raws generalizing ns with
  | nil =>
    cases h
    exact .nil
  | cons raw rest ih =>
    rw [viewAll] at h
    obtain ⟨first, hfirst, h⟩ := bind_eq_ok_iff.mp h
    obtain ⟨others, hothers, h⟩ := bind_eq_ok_iff.mp h
    cases h
    exact .cons hfirst (ih hothers)

/-- What is seen of a node: its kind, its span, and either the children as they are seen or none of
them. -/
structure Shows (columns : ColumnMap) (enter : CursorRange → Bool) (raw : RawNode) (n : Node) :
    Prop where
  kind_eq : n.kind = raw.kind
  span_eq : raw.span columns = .ok n.span
  entered : enter n.span = true →
    List.Forall₂ (fun r c => r.view columns enter = .ok c) raw.children n.children
  closed : enter n.span ≠ true → n.children = []

/-- A node that is seen shows what the raw node holds. -/
theorem shows_of_view {raw : RawNode} {n : Node} (h : raw.view columns enter = .ok n) :
    raw.Shows columns enter n := by
  cases raw with
  | mk kind start stop missing children =>
    rw [view] at h
    obtain ⟨span, hspan, h⟩ := bind_eq_ok_iff.mp h
    split at h
    · next henter =>
      obtain ⟨spans, -, h⟩ := bind_eq_ok_iff.mp h
      obtain ⟨below, hbelow, h⟩ := bind_eq_ok_iff.mp h
      cases h
      exact ⟨rfl, hspan, fun _ => forall₂_of_viewAll hbelow, fun hnot => absurd henter hnot⟩
    · next henter =>
      cases h
      exact ⟨rfl, hspan, fun hyes => absurd hyes henter, fun _ => rfl⟩

/-- Every child that is seen is a child of the tree. -/
theorem Shows.exists_child {raw : RawNode} {n c : Node} (h : raw.Shows columns enter n)
    {i : Nat} (hc : n.children[i]? = some c) :
    ∃ r, raw.children[i]? = some r ∧ r.view columns enter = .ok c := by
  by_cases henter : enter n.span = true
  · have hrel := rel_getElem?_of_forall₂ (h.entered henter) i
    rw [hc] at hrel
    cases hraw : raw.children[i]? with
    | none =>
      rw [hraw] at hrel
      cases hrel
    | some r =>
      rw [hraw] at hrel
      cases hrel with
      | some hview => exact ⟨r, rfl, hview⟩
  · rw [h.closed henter] at hc
    cases hc

/-- Every node that is seen is the node of the tree at the end of the same way. -/
theorem exists_at?_of_view {raw : RawNode} {tree n : Node} {way : List Nat}
    (h : raw.view columns enter = .ok tree) (hn : tree.at? way = some n) :
    ∃ r, raw.at? way = some r ∧ r.view columns enter = .ok n := by
  induction way generalizing raw tree with
  | nil =>
    cases hn
    exact ⟨raw, rfl, h⟩
  | cons i way ih =>
    obtain ⟨c, hc, hat⟩ := Option.bind_eq_some_iff.mp hn
    obtain ⟨r, hr, hview⟩ := (shows_of_view h).exists_child hc
    obtain ⟨r', hr', hview'⟩ := ih hview hat
    refine ⟨r', ?_, hview'⟩
    rw [at?, hr, Option.bind_some, hr']

/-- What is seen of a nested tree is nested. -/
theorem Nested.view {raw : RawNode} {tree : Node} (hraw : raw.Nested)
    (h : raw.view columns enter = .ok tree) : tree.Nested := by
  intro way n hn c hc
  obtain ⟨r, hr, hview⟩ := exists_at?_of_view h hn
  have hshows := shows_of_view hview
  obtain ⟨i, hi⟩ := List.mem_iff_getElem?.mp hc
  obtain ⟨r', hr', hview'⟩ := hshows.exists_child hi
  obtain ⟨hstart, hstop⟩ := hraw way r hr r' (List.mem_of_getElem? hr')
  exact contains_of_span hshows.span_eq (shows_of_view hview').span_eq hstart hstop

/-- The whole of a tree in characters has the nodes of the tree, each between the positions of its
points. -/
theorem map_at?_of_whole {raw : RawNode} {tree : Node}
    (h : raw.view columns (fun _ => true) = .ok tree) (way : List Nat) :
    (tree.at? way).map (fun n => (n.kind, n.span.start, n.span.stop)) =
      (raw.at? way).map fun r => (r.kind, columns.position r.start, columns.position r.stop) := by
  induction way generalizing raw tree with
  | nil =>
    have hshows := shows_of_view h
    obtain ⟨hstart, hstop⟩ := span_eq_ok hshows.span_eq
    rw [at?, Node.at?_nil, Option.map_some, Option.map_some, hshows.kind_eq, hstart, hstop]
  | cons i way ih =>
    have hrel := rel_getElem?_of_forall₂ ((shows_of_view h).entered rfl) i
    rw [at?, Node.at?_cons]
    generalize raw.children[i]? = found at hrel ⊢
    generalize tree.children[i]? = seen at hrel ⊢
    cases hrel with
    | none => rfl
    | some hview => exact ih hview

end RawNode

/-- The column map of any bytes keeps the order of points, in the text and outside of it, within
characters and between them. So a node that does not stop before it starts has a span, and a node
inside another in bytes is inside it in characters. A tree whose nodes run forward has a whole in
characters, node for node, and every search for a range can look at it; if it is nested, so are its
whole and what the search looks at. -/
theorem ColumnMap.keeps_order_and_nesting (bytes : List UInt8) :
    (∀ p q : RawPoint, p ≤ q → (ofBytes bytes).position p ≤ (ofBytes bytes).position q) ∧
      (∀ n : RawNode, n.start ≤ n.stop → ∃ span, n.span (ofBytes bytes) = .ok span ∧
        span.start = (ofBytes bytes).position n.start ∧
        span.stop = (ofBytes bytes).position n.stop) ∧
      (∀ n c : RawNode, n.start ≤ c.start → c.start ≤ c.stop → c.stop ≤ n.stop →
        ∃ outer inner, n.span (ofBytes bytes) = .ok outer ∧ c.span (ofBytes bytes) = .ok inner ∧
          outer.Contains inner) ∧
      ∀ (root : RawNode) (language : String) (errorCount : Nat), root.Forward →
        ∃ tree, (SyntaxTree.parsed ⟨root, language, errorCount, ofBytes bytes⟩).whole = .ok tree ∧
          (∀ way, (tree.at? way).map (fun n => (n.kind, n.span.start, n.span.stop)) =
            (root.at? way).map fun r =>
              (r.kind, (ofBytes bytes).position r.start, (ofBytes bytes).position r.stop)) ∧
          (root.Nested → tree.Nested) ∧
          ∀ range, ∃ seen,
            (SyntaxTree.parsed ⟨root, language, errorCount, ofBytes bytes⟩).around range =
              .ok seen ∧ (root.Nested → seen.Nested) := by
  refine ⟨?_, ?_, ?_, ?_⟩
  · intro p q h
    exact position_le_position _ h
  · intro n h
    exact ⟨_, n.span_of_le _ h, rfl, rfl⟩
  · intro n c hstart hc hstop
    have hn : n.start ≤ n.stop := RawPoint.le_trans hstart (RawPoint.le_trans hc hstop)
    have houter := n.span_of_le (ofBytes bytes) hn
    have hinner := c.span_of_le (ofBytes bytes) hc
    exact ⟨_, _, houter, hinner, RawNode.contains_of_span houter hinner hstart hstop⟩
  · intro root language errorCount hforward
    have hlook (enter : CursorRange → Bool) : ∃ n, root.view (ofBytes bytes) enter = .ok n :=
      root.exists_view_eq_ok hforward
    obtain ⟨tree, hwhole⟩ := hlook fun _ => true
    refine ⟨tree, hwhole, RawNode.map_at?_of_whole hwhole, fun hroot => hroot.view hwhole, ?_⟩
    intro range
    obtain ⟨seen, hseen⟩ := hlook fun span => span.Contains range
    exact ⟨seen, hseen, fun hroot => hroot.view hseen⟩

/-- A node that starts within `é` and stops behind the end of a row of ASCII. -/
def RawNode.halvedLetter : RawNode :=
  .mk "ERROR" ⟨0, 1⟩ ⟨1, 5⟩ false []

/-- A tree that stops on a row behind the end of the text. -/
def RawNode.aroundHalvedLetter : RawNode :=
  .mk "source_file" ⟨0, 0⟩ ⟨7, 2⟩ false [halvedLetter]

/-- A node that starts within a letter of two bytes keeps its place in the order and among the
nodes. -/
theorem ColumnMap.keeps_order_and_nesting_halvedLetter :
    RawNode.aroundHalvedLetter.Forward ∧ RawNode.aroundHalvedLetter.Nested ∧
      (⟨0, 1⟩ : RawPoint) ≤ ⟨1, 5⟩ ∧
      (ofBytes [0xC3, 0xA9, 10, 97]).position ⟨0, 1⟩ = ⟨0, 0⟩ ∧
      (ofBytes [0xC3, 0xA9, 10, 97]).position ⟨0, 1⟩ ≤
        (ofBytes [0xC3, 0xA9, 10, 97]).position ⟨1, 5⟩ ∧
      (∃ outer inner,
        RawNode.aroundHalvedLetter.span (ofBytes [0xC3, 0xA9, 10, 97]) = .ok outer ∧
          RawNode.halvedLetter.span (ofBytes [0xC3, 0xA9, 10, 97]) = .ok inner ∧
          outer.Contains inner) ∧
      ∃ tree, (SyntaxTree.parsed
          ⟨.aroundHalvedLetter, "swift", 1, ofBytes [0xC3, 0xA9, 10, 97]⟩).whole = .ok tree ∧
        tree.Nested ∧
        (tree.at? [0]).map (fun n => (n.kind, n.span.start, n.span.stop)) =
          some ("ERROR", ⟨0, 0⟩, ⟨1, 5⟩) := by
  have hstart : (⟨0, 0⟩ : RawPoint) ≤ ⟨0, 1⟩ := Or.inr ⟨rfl, Nat.zero_le 1⟩
  have hchild : (⟨0, 1⟩ : RawPoint) ≤ ⟨1, 5⟩ := Or.inl Nat.zero_lt_one
  have hstop : (⟨1, 5⟩ : RawPoint) ≤ ⟨7, 2⟩ := Or.inl (by decide)
  have hforward : RawNode.aroundHalvedLetter.Forward := by
    apply RawNode.forall_at?_of_children
    · exact RawPoint.le_trans hstart (RawPoint.le_trans hchild hstop)
    · intro c hc
      obtain rfl := List.mem_singleton.mp hc
      exact RawNode.forall_at?_of_children hchild fun c hc => absurd hc List.not_mem_nil
  have hnested : RawNode.aroundHalvedLetter.Nested := by
    apply RawNode.forall_at?_of_children
    · intro c hc
      obtain rfl := List.mem_singleton.mp hc
      exact ⟨hstart, hstop⟩
    · intro c hc
      obtain rfl := List.mem_singleton.mp hc
      exact RawNode.forall_at?_of_children (fun c hc => absurd hc List.not_mem_nil)
        fun c hc => absurd hc List.not_mem_nil
  have hhalf : (ofBytes [0xC3, 0xA9, 10, 97]).position ⟨0, 1⟩ = ⟨0, 0⟩ := by decide +kernel
  have hpast : (ofBytes [0xC3, 0xA9, 10, 97]).position ⟨1, 5⟩ = ⟨1, 5⟩ := by decide +kernel
  obtain ⟨horder, -, hinside, htrees⟩ := keeps_order_and_nesting [0xC3, 0xA9, 10, 97]
  have hspans := hinside .aroundHalvedLetter .halvedLetter hstart hchild hstop
  obtain ⟨tree, hwhole, hnodes, htree, -⟩ := htrees .aroundHalvedLetter "swift" 1 hforward
  refine ⟨hforward, hnested, hchild, hhalf, horder _ _ hchild, hspans, tree, hwhole,
    htree hnested, ?_⟩
  rw [hnodes, ← hhalf, ← hpast]
  rfl

end Enclosure
