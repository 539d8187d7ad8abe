import Enclosure.CursorRange

/-!
# Syntax trees

A node of a syntax tree has a kind, the span it covers and its children in document order. A place
in a tree is a node together with the way to it: at each level the number of the child to go to. The
order in which the places of a tree are listed, every node before its children and every child
before its later siblings, is document order.
-/

set_option autoImplicit false

namespace Enclosure

/-- A node of a syntax tree. -/
inductive Node
  | mk (kind : String) (span : CursorRange) (children : List Node)

namespace Node

/-- The kind of a node, such as `class_declaration`. -/
def kind : Node → String
  | .mk kind _ _ => kind

/-- The span that a node covers. -/
def span : Node → CursorRange
  | .mk _ span _ => span

/-- The children of a node, in document order. -/
def children : Node → List Node
  | .mk _ _ children => children

mutual

/-- The number of nodes of a tree. -/
def size : Node → Nat
  | .mk _ _ children => 1 + sizeAll children

/-- The number of nodes of several trees. -/
def sizeAll : List Node → Nat
  | [] => 0
  | n :: rest => size n + sizeAll rest

end

/-- The sizes of two lists of nodes add up. -/
theorem sizeAll_append (ms ns : List Node) : sizeAll (ms ++ ns) = sizeAll ms + sizeAll ns := by
  induction ms with
  | nil => exact (Nat.zero_add _).symm
  | cons m rest ih => rw [List.cons_append, sizeAll, sizeAll, ih, Nat.add_assoc]

/-- A node counts itself and the nodes below it. -/
theorem size_eq (n : Node) : n.size = 1 + sizeAll n.children := by
  cases n with
  | mk kind span children => rw [size, Node.children]

end Node

/-- A node and the way to it from the root: the number of the child to go to at each level. -/
structure Place where
  node : Node
  path : List Nat

namespace Place

/-- The place of the root of a tree. -/
def root (n : Node) : Place :=
  ⟨n, []⟩

/-- How far below the root a place lies. -/
def depth (p : Place) : Nat :=
  p.path.length

/-- The places of the children, in document order. -/
def children (p : Place) : List Place :=
  p.node.children.zipIdx.map fun c => ⟨c.1, p.path ++ [c.2]⟩

/-- The children of a place stand at the children of its node. -/
theorem map_node_children (p : Place) : p.children.map Place.node = p.node.children := by
  rw [children, List.map_map]
  exact List.zipIdx_map_fst 0 p.node.children

end Place

end Enclosure
