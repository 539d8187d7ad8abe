import Enclosure.Proofs.Scope.Description
import Enclosure.Proofs.Tree.Nesting

/-!
# Stability of scopes

In a nested tree a scope is found again from every range between the cursor and the scope's own
range: the search stops at the same place, and the same place is described in the same words.
-/

set_option autoImplicit false

namespace Enclosure

namespace Reader

/-- A node is described with its own range. -/
theorem span_of_value_describe {lines : List String} {n : Node} {kind name : String}
    {span : CursorRange} (h : (describe lines n).value = .enclosed kind name span) :
    span = n.span := by
  unfold describe at h
  split at h
  · rw [value_describeProtocol] at h
    cases h
    rfl
  · rw [value_describeType] at h
    cases h
    rfl
  · cases h

/-- Two ranges around which the search finds the same node have the same context. -/
theorem value_context_congr {root : Node} {range other : CursorRange} {n : Node} {text : String}
    {lines : List String} {separator : String}
    (hrange : root.smallest? range Node.isScopeBearing = some n)
    (hother : root.smallest? other Node.isScopeBearing = some n) :
    (context (some root) other text lines separator).value =
      (context (some root) range text lines separator).value := by
  unfold context locate
  dsimp only
  rw [hrange, hother]

/-- A scope that is found is the description of the place that the search has found. -/
theorem exists_place_of_enclosed {root : Node} {range span : CursorRange}
    {text kind name notes separator : String} {lines : List String}
    (h : (context (some root) range text lines separator).value =
      ⟨.enclosed kind name span, notes⟩) :
    ∃ p, root.smallestPlace? range Node.isScopeBearing = some p ∧
      (describe lines p.node).value = .enclosed kind name span := by
  unfold context locate Node.smallest? at h
  dsimp only at h
  cases hfound : root.smallestPlace? range Node.isScopeBearing with
  | none =>
    rw [hfound] at h
    cases h
  | some p =>
    rw [hfound] at h
    exact ⟨p, rfl, congrArg Descriptor.scope h⟩

/-- A scope that is found encloses a place that the search has found. -/
theorem smallestPlace?_of_enclosed {root : Node} {range span : CursorRange}
    {text kind name notes separator : String} {lines : List String}
    (h : (context (some root) range text lines separator).value =
      ⟨.enclosed kind name span, notes⟩) :
    ∃ p, root.smallestPlace? range Node.isScopeBearing = some p ∧ p.node.span = span := by
  obtain ⟨p, hp, hscope⟩ := exists_place_of_enclosed h
  exact ⟨p, hp, (span_of_value_describe hscope).symm⟩

end Reader

namespace Node

/-- In a nested tree, a range between a cursor and its answer has the same answer. -/
theorem smallestPlace?_widen {root : Node} (hnested : root.Nested) {accepts : Node → Bool}
    {inner outer : CursorRange} {p : Place} (hp : root.smallestPlace? inner accepts = some p)
    (hinner : outer.Contains inner) (houter : p.node.span.Contains outer) :
    root.smallestPlace? outer accepts = some p := by
  rw [smallestPlace?_eq_some_iff] at hp ⊢
  exact hp.widen hnested hinner houter

end Node

namespace ScopeReader

/-- In a nested tree every range between a range and the node found for it leads to the same node,
and every range between a cursor and the scope reported for it leads to the same descriptor. -/
theorem contextOf_eq_between (root : Node) (hnested : root.Nested) :
    (∀ (accepts : Node → Bool) (inner outer : CursorRange) (p : Place),
      root.smallestPlace? inner accepts = some p → outer.Contains inner →
        p.node.span.Contains outer → root.smallestPlace? outer accepts = some p) ∧
      ∀ (reader : ScopeReader) (text : String) (lines : List String) (inner outer : CursorRange)
        (kind name notes : String) (span : CursorRange),
        reader.provider.Gives text (some root) →
          (reader.contextOf inner text lines).value = .ok ⟨.enclosed kind name span, notes⟩ →
          outer.Contains inner → span.Contains outer →
          (reader.contextOf outer text lines).value = .ok ⟨.enclosed kind name span, notes⟩ := by
  constructor
  · intro accepts inner outer p hp hinner houter
    exact Node.smallestPlace?_widen hnested hp hinner houter
  · intro reader text lines inner outer kind name notes span hgives hcontext hinner houter
    rw [contextOf_of_gives hgives] at hcontext ⊢
    have hvalue := Except.ok.inj hcontext
    obtain ⟨p, hp, rfl⟩ := Reader.smallestPlace?_of_enclosed hvalue
    have hpouter := Node.smallestPlace?_widen hnested hp hinner houter
    have hnode (range : CursorRange)
        (h : root.smallestPlace? range Node.isScopeBearing = some p) :
        root.smallest? range Node.isScopeBearing = some p.node := by
      rw [Node.smallest?, h, Option.map_some]
    rw [Reader.value_context_congr (hnode inner hp) (hnode outer hpouter), hvalue]

/-- From a cursor in a struct to the whole struct, every range has the same answer. -/
theorem contextOf_eq_between_structA :
    Node.structA.Nested ∧
      Node.structA.smallestPlace? (.caret 1 0) Node.isScopeBearing = some (.root .structA) ∧
      Node.structA.span.Contains (.caret 1 0) ∧
      Node.structA.smallestPlace? Node.structA.span Node.isScopeBearing = some (.root .structA) ∧
      ∃ notes, ∀ range, range = .caret 1 0 ∨ range = Node.structA.span →
        ((ScopeReader.mk (.constant (some .structA)) "; ").contextOf range (.join structLines)
            structLines).value =
          .ok ⟨.enclosed "struct" "A" Node.structA.span, notes⟩ := by
  have hleaf (kind : String) (span : CursorRange) : (Node.mk kind span []).Nested :=
    Node.nested_of_children fun c hc => absurd hc List.not_mem_nil
  have hnested : Node.structA.Nested := by
    apply Node.nested_of_children
    intro c hc
    rcases List.mem_pair.mp hc with rfl | rfl
    · exact ⟨by decide, hleaf _ _⟩
    · exact ⟨by decide, hleaf _ _⟩
  have hcontains : Node.structA.span.Contains (.caret 1 0) := by decide
  have hgives := TreeProvider.gives_constant (some .structA) (.join structLines)
  have hcaret : ((ScopeReader.mk (.constant (some .structA)) "; ").contextOf (.caret 1 0)
      (.join structLines) structLines).value =
        .ok ⟨.enclosed "struct" "A" Node.structA.span, noteText (.join structLines) "; "⟩ := by
    rw [contextOf_of_gives hgives, Reader.context, Reader.locate, Node.smallest?,
      Node.smallestPlace?_structA, Notes.join_eq_noteText]
    rfl
  obtain ⟨hplaces, hcontexts⟩ := contextOf_eq_between .structA hnested
  refine ⟨hnested, Node.smallestPlace?_structA, hcontains, ?_,
    noteText (.join structLines) "; ", ?_⟩
  · exact hplaces _ _ _ _ Node.smallestPlace?_structA hcontains (CursorRange.contains_refl _)
  · rintro range (rfl | rfl)
    · exact hcaret
    · exact hcontexts _ _ _ _ _ _ _ _ _ hgives hcaret hcontains (CursorRange.contains_refl _)

end ScopeReader

end Enclosure
