import Enclosure.Proofs.Parse.WholeTree
import Enclosure.Proofs.Tree.SmallestPlace
import Enclosure.Scope.Reader

/-!
# Contexts in whole trees

The reader describes a declaration by the kinds and spans of its direct children and goes only into
nodes around the cursor, so it cannot tell a tree from the tree pruned to these nodes. A provider
whose tree is looked at lazily therefore gives the same contexts as one that gives the whole tree.
-/

set_option autoImplicit false

namespace Enclosure

/-- A provider gives no tree for a text, or one whose nodes all have spans. -/
def TreeProvider.Gives (provider : TreeProvider) (text : String) : Option Node → Prop
  | none => (provider.parse text).value = .ok none
  | some root => ∃ t, (provider.parse text).value = .ok (some t) ∧ t.whole = .ok root

/-- A provider that has only one tree gives it for every text. -/
theorem TreeProvider.gives_constant (tree : Option Node) (text : String) :
    (TreeProvider.constant tree).Gives text tree := by
  cases tree with
  | none => rfl
  | some root => exact ⟨.given root, rfl, rfl⟩

namespace Reader

variable {enter : CursorRange → Bool}

/-- What lies below a child changes nothing in what is found in it. -/
theorem scanTypeChild_prune (lines : List String) (found : String × String) (child : Node) :
    scanTypeChild lines found (child.prune enter) = scanTypeChild lines found child := by
  unfold scanTypeChild Node.isTypeKeyword Node.isTypeIdentifier
  rw [Node.kind_prune, Node.span_prune]

/-- A protocol is described as before when what lies away from the range is left out. -/
theorem describeProtocol_prune (lines : List String) {n : Node} (h : enter n.span = true) :
    describeProtocol lines (n.prune enter) = describeProtocol lines n := by
  have hkind : (Node.isTypeIdentifier ∘ Node.prune enter) = Node.isTypeIdentifier := by
    funext c
    unfold Node.isTypeIdentifier
    rw [Function.comp, Node.kind_prune]
  unfold describeProtocol reportMissing
  rw [Node.children_prune h, List.find?_map, hkind, Node.span_prune, Node.kind_prune]
  cases n.children.find? Node.isTypeIdentifier with
  | none => rfl
  | some child =>
    rw [Option.map_some]
    simp only [Node.span_prune]

/-- A type declaration is described as before when what lies away from the range is left out. -/
theorem describeType_prune (lines : List String) {n : Node} (h : enter n.span = true) :
    describeType lines (n.prune enter) = describeType lines n := by
  unfold describeType reportMissing
  rw [Node.children_prune h, List.foldlM_map, Node.span_prune, Node.kind_prune]
  simp only [scanTypeChild_prune]

/-- A node is described as before when what lies away from the range is left out. -/
theorem describe_prune (lines : List String) {n : Node} (h : enter n.span = true) :
    describe lines (n.prune enter) = describe lines n := by
  unfold describe
  rw [Node.kind_prune, describeProtocol_prune lines h, describeType_prune lines h]

/-- What encloses a range does not depend on what lies below nodes away from the range, nor do the
reports made on the way. -/
theorem context_prune (root : Node) (range : CursorRange) (text : String) (lines : List String)
    (separator : String) :
    context (some (root.prune fun span => span.Contains range)) range text lines separator =
      context (some root) range text lines separator := by
  have haccepts (n : Node) :
      (n.prune fun span => span.Contains range).isScopeBearing = n.isScopeBearing := by
    unfold Node.isScopeBearing
    rw [Node.kind_prune]
  unfold context locate
  dsimp only
  rw [Node.smallest?_prune root range Node.isScopeBearing haccepts]
  cases hfound : root.smallest? range Node.isScopeBearing with
  | none => rfl
  | some n =>
    obtain ⟨p, hp, hnode⟩ := Option.map_eq_some_iff.mp hfound
    have hsmallest := Node.smallestPlace?_eq_some_iff.mp hp
    have hcontains : n.span.Contains range := by
      rw [← hnode]
      exact hsmallest.enclosing p.path p.node (List.prefix_refl _) hsmallest.located
    rw [Option.map_some]
    dsimp only
    rw [describe_prune lines (decide_eq_true hcontains)]

end Reader

namespace ScopeReader

/-- A reader answers from the whole tree that its provider gives. -/
theorem contextOf_of_gives {reader : ScopeReader} {text : String} {tree : Option Node}
    (h : reader.provider.Gives text tree) (range : CursorRange) (lines : List String) :
    (reader.contextOf range text lines).value =
      .ok (Reader.context tree range text lines reader.separator).value := by
  unfold contextOf
  cases tree with
  | none =>
    have hparse : (reader.provider.parse text).value = .ok none := h
    simp only [Traced.value_bind, hparse]
    rfl
  | some root =>
    obtain ⟨t, hparse, hwhole⟩ := h
    obtain ⟨seen, haround, hseen⟩ := SyntaxTree.around_of_whole hwhole range
    simp only [Traced.value_bind, hparse, haround]
    rw [← Reader.context_prune root, ← hseen, Reader.context_prune seen]
    rfl

end ScopeReader

end Enclosure
