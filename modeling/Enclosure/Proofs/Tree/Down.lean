import Enclosure.Proofs.CursorRange
import Enclosure.Proofs.Tree.Mapping
import Enclosure.Proofs.Tree.Walk

/-!
# Trees moved down

To move a tree down is to move the spans of all its nodes down by the same number of rows. A search
of the moved tree for the moved range finds the moved node.
-/

set_option autoImplicit false

namespace Enclosure

namespace Node

mutual

/-- The tree some rows further down. -/
def down (rows : Nat) : Node → Node
  | .mk kind span children => .mk kind (span.down rows) (downAll rows children)

/-- Several trees some rows further down. -/
def downAll (rows : Nat) : List Node → List Node
  | [] => []
  | n :: rest => down rows n :: downAll rows rest

end

/-- No node of a tree starts above the first row. -/
def RowsNonneg (root : Node) : Prop :=
  ∀ way n, root.at? way = some n → 0 ≤ n.span.start.line

/-- In a tree without negative rows, no child starts at one. -/
theorem RowsNonneg.children {root n : Node} {way : List Nat} (h : root.RowsNonneg)
    (hn : root.at? way = some n) : ∀ c ∈ n.children, 0 ≤ c.span.start.line := by
  intro c hc
  obtain ⟨i, hi⟩ := List.mem_iff_getElem?.mp hc
  apply h (way ++ [i]) c
  rw [at?_append, hn, Option.bind_some, at?_cons, hi]
  rfl

/-- A node without a negative row and with such children is a tree without negative rows. -/
theorem rowsNonneg_of_children {n : Node} (hn : 0 ≤ n.span.start.line)
    (h : ∀ c ∈ n.children, c.RowsNonneg) : n.RowsNonneg :=
  forall_at?_of_children hn h

variable {rows : Nat}

/-- Nodes are moved down one by one. -/
theorem downAll_eq_map (ns : List Node) : downAll rows ns = ns.map (down rows) := by
  induction ns with
  | nil => rfl
  | cons n rest ih => rw [downAll, ih, List.map_cons]

/-- Moving a node down keeps its kind. -/
@[simp] theorem kind_down (n : Node) : (n.down rows).kind = n.kind := by
  cases n
  rfl

/-- Moving a node down moves its range down. -/
@[simp] theorem span_down (n : Node) : (n.down rows).span = n.span.down rows := by
  cases n
  rfl

/-- Moving a node down moves its children down. -/
@[simp] theorem children_down (n : Node) :
    (n.down rows).children = n.children.map (down rows) := by
  cases n with
  | mk kind span children => exact downAll_eq_map children

/-- A search that accepts nodes by their kinds does not notice that tree and range have been moved
down. -/
theorem unnoticed_down (rows : Nat) (range : CursorRange) {accepts : Node → Bool}
    (haccepts : ∀ n : Node, accepts (n.down rows) = accepts n) :
    Unnoticed (down rows) range (range.down rows) accepts where
  contains_iff n := by
    rw [span_down]
    exact CursorRange.down_contains_down_iff
  extent_eq n := by
    rw [span_down, CursorRange.extent_down]
  accepts_eq := haccepts
  children_eq n _ := children_down n

end Node

end Enclosure
