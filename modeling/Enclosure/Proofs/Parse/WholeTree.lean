import Enclosure.Parse.Provider
import Enclosure.Proofs.Except
import Enclosure.Proofs.Tree.Pruning

/-!
# The whole of a syntax tree

A search asks a syntax tree only for the nodes around a range. Of a tree whose nodes all have spans
this gives the whole tree pruned to these nodes.
-/

set_option autoImplicit false

namespace Enclosure

namespace RawNode

variable {columns : ColumnMap} {enter : CursorRange → Bool}

mutual

/-- A tree that can be looked at as a whole can be looked at in part, which gives it pruned. -/
theorem view_of_whole : ∀ (raw : RawNode) {n : Node},
    raw.view columns (fun _ => true) = .ok n → raw.view columns enter = .ok (n.prune enter)
  | .mk kind start stop missing children, n, h => by
    rw [view] at h
    obtain ⟨span, hspan, h⟩ := bind_eq_ok_iff.mp h
    rw [if_pos rfl] at h
    obtain ⟨spans, hspans, h⟩ := bind_eq_ok_iff.mp h
    obtain ⟨below, hbelow, h⟩ := bind_eq_ok_iff.mp h
    cases h
    rw [view, hspan, Node.prune]
    change (if enter span = true then _ else _) = _
    by_cases henter : enter span = true
    · rw [if_pos henter, if_pos henter, hspans]
      change (viewAll columns enter children >>= _) = _
      rw [viewAll_of_whole children hbelow]
      rfl
    · rw [if_neg henter, if_neg henter]
      rfl

/-- Trees that can be looked at as a whole can be looked at in part, which gives them pruned. -/
theorem viewAll_of_whole : ∀ (raws : List RawNode) {ns : List Node},
    viewAll columns (fun _ => true) raws = .ok ns →
      viewAll columns enter raws = .ok (Node.pruneAll enter ns)
  | [], ns, h => by
    cases h
    rfl
  | raw :: rest, ns, h => by
    rw [viewAll] at h
    obtain ⟨first, hfirst, h⟩ := bind_eq_ok_iff.mp h
    obtain ⟨others, hothers, h⟩ := bind_eq_ok_iff.mp h
    cases h
    rw [viewAll, view_of_whole raw hfirst]
    change (viewAll columns enter rest >>= _) = _
    rw [viewAll_of_whole rest hothers]
    rfl

end

end RawNode

namespace SyntaxTree

/-- The whole tree in characters, if all its nodes have spans. -/
def whole : SyntaxTree → Except ReversedRange Node
  | .given root => .ok root
  | .parsed tree => tree.root.view tree.columns fun _ => true

/-- What a search for a range looks at, pruned to the nodes around the range, is the whole tree
pruned to them. -/
theorem around_of_whole {t : SyntaxTree} {root : Node} (h : t.whole = .ok root)
    (range : CursorRange) :
    ∃ seen, t.around range = .ok seen ∧
      (seen.prune fun span => span.Contains range) =
        root.prune fun span => span.Contains range := by
  cases t with
  | given n =>
    refine ⟨n, rfl, ?_⟩
    rw [Except.ok.inj h]
  | parsed tree => exact ⟨_, RawNode.view_of_whole tree.root h, Node.prune_prune root⟩

end SyntaxTree

end Enclosure
