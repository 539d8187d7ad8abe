import Enclosure.Proofs.Scope.Stability
import Enclosure.Proofs.Text.Excerpt

/-!
# Names of scopes

The name of a scope is read from a child of its declaration, and in a nested tree the child lies
inside the declaration. So the name stands, character by character, somewhere in the text that the
range of the scope covers, whatever the lines are that both are read from.
-/

set_option autoImplicit false

namespace Enclosure

namespace Node

/-- The first name is read from a child if there is one to read it from. -/
theorem exists_firstName_eq (lines : List String) {n : Node}
    (h : ∃ c ∈ n.children, c.kind = "type_identifier") :
    ∃ c ∈ n.children, n.firstName lines = Excerpt.text lines c.span := by
  obtain ⟨c, hc, hkind⟩ := h
  unfold firstName
  cases hfound : n.children.find? fun c => c.kind = "type_identifier" with
  | none =>
    have hnone := List.find?_eq_none.mp hfound c hc
    exact absurd (decide_eq_true hkind) hnone
  | some d => exact ⟨d, List.mem_of_find?_eq_some hfound, rfl⟩

/-- The last name is read from a node if there is one to read it from. -/
theorem exists_lastNameOf_eq (lines : List String) {ns : List Node}
    (h : ∃ c ∈ ns, c.kind = "type_identifier") :
    ∃ c ∈ ns, lastNameOf lines ns = Excerpt.text lines c.span := by
  obtain ⟨c, hc, hkind⟩ := h
  unfold lastNameOf
  have hmem : c ∈ ns.filter fun c => c.kind = "type_identifier" :=
    List.mem_filter.mpr ⟨hc, decide_eq_true hkind⟩
  cases hlast : (ns.filter fun c => c.kind = "type_identifier").getLast? with
  | none =>
    rw [List.getLast?_eq_none_iff.mp hlast] at hmem
    cases hmem
  | some d => exact ⟨d, List.mem_of_mem_filter (List.mem_of_getLast? hlast), rfl⟩

end Node

namespace Reader

/-- The name of a described declaration is read from one of its children, if one can be a name. -/
theorem exists_name_eq {lines : List String} {n : Node} {kind name : String} {span : CursorRange}
    (hscope : (describe lines n).value = .enclosed kind name span)
    (h : ∃ c ∈ n.children, c.kind = "type_identifier") :
    ∃ c ∈ n.children, name = Excerpt.text lines c.span := by
  have hkind := (value_describe_enclosed_iff lines n).mp ⟨kind, name, span, hscope⟩
  rcases List.mem_pair.mp hkind with hprotocol | hclass
  · rw [value_describe_of_protocol lines hprotocol] at hscope
    obtain ⟨c, hc, hname⟩ := n.exists_firstName_eq lines h
    cases hscope
    exact ⟨c, hc, hname⟩
  · rw [value_describe_of_class lines hclass] at hscope
    obtain ⟨c, hc, hname⟩ := Node.exists_lastNameOf_eq lines h
    cases hscope
    exact ⟨c, hc, hname⟩

end Reader

namespace ScopeReader

/-- In a nested tree the name of a scope is a piece of the text that the scope's range covers, if
the declaration has a child that can be its name. -/
theorem name_infix_excerpt (reader : ScopeReader) (root : Node) (hnested : root.Nested)
    (range span : CursorRange) (text kind name notes : String) (lines : List String)
    (hgives : reader.provider.Gives text (some root))
    (hcontext : (reader.contextOf range text lines).value =
      .ok ⟨.enclosed kind name span, notes⟩) :
    ∃ p, Place.SmallestScope root range p ∧ p.node.span = span ∧
      ((∃ c ∈ p.node.children, c.kind = "type_identifier") →
        ∃ before after, Excerpt.text lines span = before ++ name ++ after) := by
  rw [contextOf_of_gives hgives] at hcontext
  obtain ⟨p, hp, hscope⟩ := Reader.exists_place_of_enclosed (Except.ok.inj hcontext)
  have hspan := Reader.span_of_value_describe hscope
  have hsmallest := Place.smallestScope_iff.mpr hp
  refine ⟨p, hsmallest, hspan.symm, ?_⟩
  intro hnamed
  obtain ⟨c, hc, hname⟩ := Reader.exists_name_eq hscope hnamed
  -- the name and the declaration are read from two ranges, one inside the other
  have hinside : p.node.span.Contains c.span := hnested p.path p.node hsmallest.located c hc
  obtain ⟨before, after, hinfix⟩ := Excerpt.chars_infix_of_contains lines hinside
  refine ⟨String.ofList before, String.ofList after, ?_⟩
  rw [hspan, hname, Excerpt.text, Excerpt.text, ← hinfix, String.ofList_append,
    String.ofList_append]

end ScopeReader

/-- The tree of an empty protocol whose name is broken over two lines. -/
def Node.brokenProtocol : Node :=
  .mk "protocol_declaration" ⟨⟨0, 0⟩, ⟨2, 1⟩, by decide⟩
    [.mk "protocol" ⟨⟨0, 0⟩, ⟨0, 8⟩, by decide⟩ [],
      .mk "type_identifier" ⟨⟨0, 9⟩, ⟨1, 1⟩, by decide⟩ []]

namespace ScopeReader

/-- The name of a protocol that is broken over two lines occurs in its excerpt. -/
theorem name_infix_excerpt_brokenProtocol :
    Node.brokenProtocol.Nested ∧
      (TreeProvider.constant (some .brokenProtocol)).Gives "" (some .brokenProtocol) ∧
      ((ScopeReader.mk (.constant (some .brokenProtocol)) "; ").contextOf (.caret 2 0) ""
          ["protocol P\n", "Q \x7b\n", "\x7d"]).value =
        .ok ⟨.enclosed "protocol" "P\nQ" Node.brokenProtocol.span, ""⟩ ∧
      ∃ before after,
        Excerpt.text ["protocol P\n", "Q \x7b\n", "\x7d"] Node.brokenProtocol.span =
          before ++ "P\nQ" ++ after := by
  have hleaf (kind : String) (span : CursorRange) : (Node.mk kind span []).Nested :=
    Node.nested_of_children fun c hc => absurd hc List.not_mem_nil
  have hnested : Node.brokenProtocol.Nested := by
    apply Node.nested_of_children
    intro c hc
    rcases List.mem_pair.mp hc with rfl | rfl
    · exact ⟨by decide, hleaf _ _⟩
    · exact ⟨by decide, hleaf _ _⟩
  have hgives := TreeProvider.gives_constant (some .brokenProtocol) ""
  have hfound : Node.brokenProtocol.smallestPlace? (.caret 2 0) Node.isScopeBearing =
      some (.root .brokenProtocol) := by
    apply Node.smallestPlace?_eq_root (by decide) (by decide)
    intro c hc
    rcases List.mem_pair.mp hc with rfl | rfl
    · decide
    · decide
  have hcontext : ((ScopeReader.mk (.constant (some .brokenProtocol)) "; ").contextOf (.caret 2 0) ""
      ["protocol P\n", "Q \x7b\n", "\x7d"]).value =
        .ok ⟨.enclosed "protocol" "P\nQ" Node.brokenProtocol.span, ""⟩ := by
    rw [contextOf_of_gives hgives, Reader.context, Reader.locate, Node.smallest?, hfound]
    rfl
  obtain ⟨p, hp, -, hpiece⟩ := name_infix_excerpt _ _ hnested _ _ _ _ _ _ _ hgives hcontext
  rw [Place.smallestScope_iff, hfound] at hp
  obtain rfl := Option.some.inj hp
  exact ⟨hnested, hgives, hcontext, hpiece ⟨_, List.mem_cons_of_mem _ List.mem_cons_self, rfl⟩⟩

end ScopeReader

end Enclosure
