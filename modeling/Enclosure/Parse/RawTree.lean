import Enclosure.Parse.ColumnMap
import Enclosure.Tree

/-!
# Trees as a parser reports them

A parser reports nodes with byte columns, marks nodes that it had to insert as missing and gives
text that it could not fit in a node of the kind `ERROR`. Such a tree is looked at through a column
map, and only as far as it is needed: a node whose span would run backwards stops the look only
where it is met.
-/

set_option autoImplicit false

namespace Enclosure

/-- A node as a parser reports it. -/
inductive RawNode
  | mk (kind : String) (start stop : RawPoint) (missing : Bool) (children : List RawNode)

namespace RawNode

/-- The kind of a node. -/
def kind : RawNode → String
  | .mk kind .. => kind

/-- Where a node starts. -/
def start : RawNode → RawPoint
  | .mk _ start .. => start

/-- Where a node stops. -/
def stop : RawNode → RawPoint
  | .mk _ _ stop .. => stop

/-- Whether the parser inserted a node. -/
def missing : RawNode → Bool
  | .mk _ _ _ missing _ => missing

/-- The children of a node. -/
def children : RawNode → List RawNode
  | .mk _ _ _ _ children => children

mutual

/-- The number of nodes of a tree. -/
def size : RawNode → Nat
  | .mk _ _ _ _ children => 1 + sizeAll children

/-- The number of nodes of several trees. -/
def sizeAll : List RawNode → Nat
  | [] => 0
  | n :: rest => size n + sizeAll rest

end

/-- The sizes of two lists of raw nodes add up. -/
theorem sizeAll_append (ms ns : List RawNode) :
    sizeAll (ms ++ ns) = sizeAll ms + sizeAll ns := by
  induction ms with
  | nil => exact (Nat.zero_add _).symm
  | cons m rest ih => rw [List.cons_append, sizeAll, sizeAll, ih, Nat.add_assoc]

/-- A node counts itself and the nodes below it. -/
theorem size_eq (n : RawNode) : n.size = 1 + sizeAll n.children := by
  cases n with
  | mk kind start stop missing children => rw [size, RawNode.children]

/-- Whether a node stands for a syntax error. -/
def isError (n : RawNode) : Bool :=
  n.kind == "ERROR" || n.missing

/-- Count the syntax errors of the trees on a stack on top of those already counted. -/
def countErrorsFrom (count : Nat) : List RawNode → Nat
  | [] => count
  | n :: stack => countErrorsFrom (if n.isError then count + 1 else count) (n.children ++ stack)
termination_by stack => sizeAll stack
decreasing_by
  rw [sizeAll, sizeAll_append, size_eq]
  omega

/-- The number of syntax errors of a tree. -/
def errorCount (root : RawNode) : Nat :=
  countErrorsFrom 0 [root]

/-- The span of a node in characters. -/
def span (columns : ColumnMap) (n : RawNode) : Except ReversedRange CursorRange :=
  columns.range n.start n.stop

mutual

/-- A tree in characters, going down only where `enter` says so. The spans of all children of a node
are found before any of their own children is looked at. -/
def view (columns : ColumnMap) (enter : CursorRange → Bool) : RawNode → Except ReversedRange Node
  | .mk kind start stop _ children => do
    let span ← columns.range start stop
    if enter span then
      let _ ← children.mapM (RawNode.span columns)
      let below ← viewAll columns enter children
      return .mk kind span below
    else
      return .mk kind span []

/-- Several trees in characters. -/
def viewAll (columns : ColumnMap) (enter : CursorRange → Bool) :
    List RawNode → Except ReversedRange (List Node)
  | [] => return []
  | n :: rest => do
    let first ← view columns enter n
    let others ← viewAll columns enter rest
    return first :: others

end

end RawNode

end Enclosure
