import Enclosure.Proofs.Scope.Description
import Enclosure.Proofs.Text.Above
import Enclosure.Proofs.Tree.Down

/-!
# Scopes below further lines

Lines put above a text move everything in it down. A tree and a cursor that are moved along lead to
the same scope, moved down as well: the search stops at the same place, and the declaration there
has the same keyword and the same name, read from the same lines in their new rows.
-/

set_option autoImplicit false

namespace Enclosure

/-- A scope some rows further down. -/
def Scope.down (rows : Nat) : Scope → Scope
  | .top => .top
  | .enclosed kind name span => .enclosed kind name (span.down rows)

namespace Node

/-- Moving nodes down keeps their last keyword. -/
theorem lastKeywordOf_map_down (rows : Nat) (ns : List Node) :
    lastKeywordOf (ns.map (down rows)) = lastKeywordOf ns := by
  unfold lastKeywordOf
  simp only [List.filter_map, List.getLast?_map, Option.map_map, Function.comp_def, kind_down]

variable (above lines : List String)

/-- Moving a node down with the lines keeps its first name. -/
theorem firstName_down {n : Node} (h : ∀ c ∈ n.children, 0 ≤ c.span.start.line) :
    (n.down above.length).firstName (above ++ lines) = n.firstName lines := by
  unfold firstName
  simp only [children_down, List.find?_map, Function.comp_def, kind_down]
  cases hfound : n.children.find? fun c => c.kind = "type_identifier" with
  | none => rfl
  | some c =>
    have hrow := h c (List.mem_of_find?_eq_some hfound)
    simp only [Option.map_some, span_down, Excerpt.text_down above lines hrow]

/-- Moving nodes down with the lines keeps their last name. -/
theorem lastNameOf_map_down {ns : List Node} (h : ∀ c ∈ ns, 0 ≤ c.span.start.line) :
    lastNameOf (above ++ lines) (ns.map (down above.length)) = lastNameOf lines ns := by
  unfold lastNameOf
  simp only [List.filter_map, List.getLast?_map, Function.comp_def, kind_down]
  cases hlast : (ns.filter fun c => c.kind = "type_identifier").getLast? with
  | none => rfl
  | some c =>
    have hrow := h c (List.mem_of_mem_filter (List.mem_of_getLast? hlast))
    simp only [Option.map_some, span_down, Excerpt.text_down above lines hrow]

end Node

namespace Reader

/-- A declaration below further lines is described in the same words. -/
theorem value_describe_down (above lines : List String) {n : Node}
    (h : ∀ c ∈ n.children, 0 ≤ c.span.start.line) :
    (describe (above ++ lines) (n.down above.length)).value =
      (describe lines n).value.down above.length := by
  unfold describe
  rw [Node.kind_down]
  -- a protocol, a type declaration, or nothing that is described
  split
  · rw [value_describeProtocol, value_describeProtocol, Node.firstName_down above lines h,
      Node.span_down, Scope.down]
  · rw [value_describeType, value_describeType, Node.children_down, Node.lastKeywordOf_map_down,
      Node.lastNameOf_map_down above lines h, Node.span_down, Scope.down]
  · rfl

/-- What encloses a range that is moved down together with the tree is moved down, too. -/
theorem scope_locate_down (above lines : List String) {root : Node} (hrows : root.RowsNonneg)
    (range : CursorRange) (notes notes' : String) :
    (locate (root.down above.length) (range.down above.length) (above ++ lines)
        notes').value.scope =
      (locate root range lines notes).value.scope.down above.length := by
  have haccepts (n : Node) : (n.down above.length).isScopeBearing = n.isScopeBearing := by
    rw [Node.isScopeBearing, Node.kind_down, Node.isScopeBearing]
  have hmap := Node.smallestPlace?_map
    (Node.unnoticed_down above.length range haccepts) root
  unfold locate Node.smallest?
  rw [hmap]
  cases hfound : root.smallestPlace? range Node.isScopeBearing with
  | none => rfl
  | some p =>
    have hlocated := (Node.smallestPlace?_eq_some_iff.mp hfound).located
    exact value_describe_down above lines (hrows.children hlocated)

end Reader

namespace ScopeReader

/-- Lines put above a text, with the tree and the cursor moved down by their number, change nothing
about the scope of the cursor but its place: it is moved down by as many rows. -/
theorem contextOf_down (reader moved : ScopeReader) (root : Node) (range : CursorRange)
    (text : String) (above : List String) (hrows : root.RowsNonneg)
    (habove : ∀ line ∈ above, Lines.Ended line) (hgives : reader.provider.Gives text (some root))
    (hmoved : moved.provider.Gives (String.join above ++ text)
      (some (root.down above.length))) :
    ∃ d d' : Descriptor,
      (reader.contextOf range text (Lines.split text)).value = .ok d ∧
        (moved.contextOf (range.down above.length) (String.join above ++ text)
          (Lines.split (String.join above ++ text))).value = .ok d' ∧
        d'.scope = d.scope.down above.length := by
  rw [contextOf_of_gives hgives, contextOf_of_gives hmoved, Lines.split_join_append habove]
  refine ⟨_, _, rfl, rfl, ?_⟩
  exact Reader.scope_locate_down above (Lines.split text) hrows range _ _

/-- Below two lines the declaration moves two rows down, although it stops after the last line. -/
theorem contextOf_down_structA :
    Node.structA.RowsNonneg ∧ (∀ line ∈ ["é\n", "\n"], Lines.Ended line) ∧
      (TreeProvider.constant (some .structA)).Gives "struct A" (some .structA) ∧
      (TreeProvider.constant (some (Node.structA.down 2))).Gives
        (String.join ["é\n", "\n"] ++ "struct A") (some (Node.structA.down 2)) ∧
      ((ScopeReader.mk (.constant (some (Node.structA.down 2))) "; ").contextOf (.caret 3 0)
          (String.join ["é\n", "\n"] ++ "struct A")
          (Lines.split (String.join ["é\n", "\n"] ++ "struct A"))).value.map Descriptor.scope =
        .ok (.enclosed "struct" "A" (Node.structA.span.down 2)) := by
  have hleaf (kind : String) {span : CursorRange} (h : 0 ≤ span.start.line) :
      (Node.mk kind span []).RowsNonneg :=
    Node.rowsNonneg_of_children h fun c hc => absurd hc List.not_mem_nil
  have hrows : Node.structA.RowsNonneg := by
    apply Node.rowsNonneg_of_children (by decide)
    intro c hc
    rcases List.mem_pair.mp hc with rfl | rfl
    · exact hleaf _ (by decide)
    · exact hleaf _ (by decide)
  have habove : ∀ line ∈ ["é\n", "\n"], Lines.Ended line := by
    intro line hline
    rcases List.mem_pair.mp hline with rfl | rfl
    · exact ⟨['é'], by decide, rfl⟩
    · exact ⟨[], by decide, rfl⟩
  have hgives := TreeProvider.gives_constant (some .structA) "struct A"
  have hmoved := TreeProvider.gives_constant (some (Node.structA.down 2))
    (String.join ["é\n", "\n"] ++ "struct A")
  have hscope : ((ScopeReader.mk (.constant (some .structA)) "; ").contextOf (.caret 1 0) "struct A"
      (Lines.split "struct A")).value = .ok ⟨.enclosed "struct" "A" Node.structA.span, ""⟩ := by
    rw [contextOf_of_gives hgives, Reader.context, Reader.locate, Node.smallest?,
      Node.smallestPlace?_structA]
    rfl
  obtain ⟨d, d', hd, hd', hdown⟩ := contextOf_down ⟨.constant (some .structA), "; "⟩
    ⟨.constant (some (Node.structA.down 2)), "; "⟩ .structA (.caret 1 0) "struct A" ["é\n", "\n"]
    hrows habove hgives hmoved
  rw [hscope] at hd
  cases hd
  refine ⟨hrows, habove, hgives, hmoved, ?_⟩
  have hrange : CursorRange.caret 3 0 = (CursorRange.caret 1 0).down 2 := rfl
  rw [hrange]
  exact (congrArg (Except.map Descriptor.scope) hd').trans (congrArg Except.ok hdown)

end ScopeReader

end Enclosure
