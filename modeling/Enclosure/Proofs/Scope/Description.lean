import Enclosure.Proofs.Scope.Context
import Mathlib.Data.List.Induction
import Mathlib.Data.List.Infix

/-!
# Descriptions of declarations

The context of a range is read off the smallest scope-bearing node around it. A protocol is named by
the first type identifier among its children, a type declaration by the last one, and its kind is
the last keyword; the words of the source language are spelled out here. The notes depend on the
text alone.
-/

set_option autoImplicit false

namespace Enclosure

/-- The kinds of the nodes that open a scope. -/
def scopeBearingKinds : List String :=
  ["protocol_declaration", "class_declaration", "function_declaration", "property_declaration",
    "computed_property"]

/-- The smallest place around a range whose node opens a scope. -/
def Place.SmallestScope (root : Node) (range : CursorRange) (p : Place) : Prop :=
  p.Smallest root range fun n => n.kind ∈ scopeBearingKinds

namespace Node

/-- The text of the first type identifier among the children of a node. -/
def firstName (lines : List String) (n : Node) : String :=
  ((n.children.find? fun c => c.kind = "type_identifier").map
    fun c => Excerpt.text lines c.span).getD "unknown"

/-- The text of the last type identifier among some nodes. -/
def lastNameOf (lines : List String) (ns : List Node) : String :=
  ((ns.filter fun c => c.kind = "type_identifier").getLast?.map
    fun c => Excerpt.text lines c.span).getD "unknown"

/-- The last keyword of a type declaration among some nodes. -/
def lastKeywordOf (ns : List Node) : String :=
  ((ns.filter fun c => c.kind ∈ ["struct", "class", "enum", "actor"]).getLast?.map
    Node.kind).getD "unknown"

end Node

/-- The notes of the markers that occur in a text, joined in the order of the markers. -/
def noteText (text separator : String) : String :=
  separator.intercalate
    ((Notes.markers.filter fun m => m.marker.toList <:+: text.toList).map Notes.Marker.note)

/-- What a descriptor says about a range in a tree. -/
structure Descriptor.Describes (d : Descriptor) (root : Node) (range : CursorRange) (text : String)
    (lines : List String) (separator : String) : Prop where
  notes_eq : d.notes = noteText text separator
  enclosed_iff : (∃ kind name span, d.scope = .enclosed kind name span) ↔
    ∃ p, Place.SmallestScope root range p ∧
      p.node.kind ∈ ["protocol_declaration", "class_declaration"]
  of_protocol : ∀ p, Place.SmallestScope root range p → p.node.kind = "protocol_declaration" →
    d.scope = .enclosed "protocol" (p.node.firstName lines) p.node.span ∧
      p.node.span.Contains range
  of_class : ∀ p, Place.SmallestScope root range p → p.node.kind = "class_declaration" →
    d.scope = .enclosed (Node.lastKeywordOf p.node.children)
        (Node.lastNameOf lines p.node.children) p.node.span ∧
      p.node.span.Contains range

/-- The value of steps one after the other is that of their values one after the other. -/
theorem Traced.value_foldlM {α β : Type} (step : β → α → Traced β) (b : β) (xs : List α) :
    (xs.foldlM step b).value = xs.foldl (fun b x => (step b x).value) b := by
  induction xs generalizing b with
  | nil => rfl
  | cons x xs ih =>
    rw [List.foldlM_cons, Traced.value_bind, ih, List.foldl_cons]

/-- A scope kind that is found for a kind of node is that of this kind of node. -/
theorem ScopeKind.nodeKind_of_ofNodeKind? {kind : String} {k : ScopeKind}
    (h : ofNodeKind? kind = some k) : k.nodeKind = kind := by
  unfold ofNodeKind? at h
  simpa using List.find?_some h

/-- A node opens a scope exactly when its kind is one of four. -/
theorem Node.isScopeBearing_eq (n : Node) :
    n.isScopeBearing = decide (n.kind ∈ scopeBearingKinds) := by
  unfold isScopeBearing
  rw [Bool.eq_iff_iff, decide_eq_true_eq, Option.isSome_iff_exists]
  constructor
  · rintro ⟨k, hk⟩
    rw [← ScopeKind.nodeKind_of_ofNodeKind? hk]
    cases k <;> simp [ScopeKind.nodeKind, scopeBearingKinds]
  · intro h
    have hkind : ∃ k : ScopeKind, n.kind = k.nodeKind := by
      simp only [scopeBearingKinds, List.mem_cons, List.not_mem_nil, or_false] at h
      rcases h with h | h | h | h | h
      · exact ⟨.protocolDeclaration, h⟩
      · exact ⟨.classDeclaration, h⟩
      · exact ⟨.functionDeclaration, h⟩
      · exact ⟨.propertyDeclaration, h⟩
      · exact ⟨.computedProperty, h⟩
    obtain ⟨k, hk⟩ := hkind
    exact ⟨k, by rw [hk]; exact ScopeKind.ofNodeKind?_nodeKind k⟩

/-- The smallest scope around a range is where the search ends. -/
theorem Place.smallestScope_iff {root : Node} {range : CursorRange} {p : Place} :
    SmallestScope root range p ↔ root.smallestPlace? range Node.isScopeBearing = some p := by
  rw [Node.smallestPlace?_eq_some_iff, funext Node.isScopeBearing_eq]
  rfl

namespace Reader

/-- A protocol is described by its first name. -/
theorem value_describeProtocol (lines : List String) (n : Node) :
    (describeProtocol lines n).value = .enclosed "protocol" (n.firstName lines) n.span := by
  unfold describeProtocol Node.firstName
  have hkind : Node.isTypeIdentifier = fun c => decide (c.kind = "type_identifier") := by
    funext c
    rfl
  rw [← hkind]
  cases n.children.find? Node.isTypeIdentifier with
  | none => rfl
  | some child => rfl

/-- Of a list with one more item, the last good item is the new one if that is good. -/
theorem getLast?_filter_concat (good : Node → Bool) (ns : List Node) (c : Node) :
    ((ns ++ [c]).filter good).getLast? =
      if good c = true then some c else (ns.filter good).getLast? := by
  rw [List.filter_append, List.getLast?_append]
  by_cases h : good c = true
  · rw [List.filter_cons_of_pos h, if_pos h]
    rfl
  · rw [List.filter_cons_of_neg h, if_neg h]
    rfl

/-- A child of a type declaration replaces the keyword, or the name, or nothing. -/
theorem value_scanTypeChild (lines : List String) (found : String × String) (c : Node) :
    (scanTypeChild lines found c).value =
      if c.kind ∈ ["struct", "class", "enum", "actor"] then (c.kind, found.2)
      else if c.kind = "type_identifier" then (found.1, Excerpt.text lines c.span) else found := by
  have hkeyword : c.isTypeKeyword = true ↔ c.kind ∈ ["struct", "class", "enum", "actor"] :=
    List.contains_iff_mem
  have hname : c.isTypeIdentifier = true ↔ c.kind = "type_identifier" := beq_iff_eq
  unfold scanTypeChild
  simp only [hkeyword, hname]
  split
  · rfl
  · split <;> rfl

/-- Going through the children of a type declaration finds its last keyword and its last name. -/
theorem foldl_scanTypeChild (lines : List String) (ns : List Node) :
    ns.foldl (fun found child => (scanTypeChild lines found child).value)
        (unknownField, unknownField) =
      (Node.lastKeywordOf ns, Node.lastNameOf lines ns) := by
  induction ns using List.reverseRecOn with
  | nil => rfl
  | append_singleton ns c ih =>
    rw [List.foldl_append, ih, List.foldl_cons, List.foldl_nil, value_scanTypeChild]
    unfold Node.lastKeywordOf Node.lastNameOf
    rw [getLast?_filter_concat, getLast?_filter_concat]
    simp only [decide_eq_true_eq]
    by_cases hkeyword : c.kind ∈ ["struct", "class", "enum", "actor"]
    · have hname : c.kind ≠ "type_identifier" := by
        intro h
        rw [h] at hkeyword
        revert hkeyword
        decide
      rw [if_pos hkeyword, if_pos hkeyword, if_neg hname]
      rfl
    · rw [if_neg hkeyword, if_neg hkeyword]
      by_cases hname : c.kind = "type_identifier"
      · rw [if_pos hname, if_pos hname]
        rfl
      · rw [if_neg hname, if_neg hname]

/-- A type declaration is described by its last keyword and its last name. -/
theorem value_describeType (lines : List String) (n : Node) :
    (describeType lines n).value =
      .enclosed (Node.lastKeywordOf n.children) (Node.lastNameOf lines n.children) n.span := by
  unfold describeType
  rw [Traced.value_bind, Traced.value_foldlM, foldl_scanTypeChild]
  dsimp only
  split <;> split <;> rfl

/-- A node that is a protocol is described as one. -/
theorem value_describe_of_protocol (lines : List String) {n : Node}
    (h : n.kind = "protocol_declaration") :
    (describe lines n).value = .enclosed "protocol" (n.firstName lines) n.span := by
  unfold describe
  rw [h]
  exact value_describeProtocol lines n

/-- A node that is a type declaration is described as one. -/
theorem value_describe_of_class (lines : List String) {n : Node}
    (h : n.kind = "class_declaration") :
    (describe lines n).value =
      .enclosed (Node.lastKeywordOf n.children) (Node.lastNameOf lines n.children) n.span := by
  unfold describe
  rw [h]
  exact value_describeType lines n

/-- A node is described as enclosing exactly when it is a protocol or a type declaration. -/
theorem value_describe_enclosed_iff (lines : List String) (n : Node) :
    (∃ kind name span, (describe lines n).value = .enclosed kind name span) ↔
      n.kind ∈ ["protocol_declaration", "class_declaration"] := by
  constructor
  · rintro ⟨kind, name, span, h⟩
    unfold describe at h
    split at h
    · next hk => exact List.mem_pair.mpr (Or.inl (ScopeKind.nodeKind_of_ofNodeKind? hk).symm)
    · next hk => exact List.mem_pair.mpr (Or.inr (ScopeKind.nodeKind_of_ofNodeKind? hk).symm)
    · cases h
  · intro h
    rcases List.mem_pair.mp h with h | h
    · exact ⟨_, _, _, value_describe_of_protocol lines h⟩
    · exact ⟨_, _, _, value_describe_of_class lines h⟩

/-- What the reader finds in a tree describes the range. -/
theorem describes_locate (root : Node) (range : CursorRange) (text : String) (lines : List String)
    (separator : String) :
    (locate root range lines (noteText text separator)).value.Describes root range text lines
      separator := by
  have hcontains (p : Place) (hp : Place.SmallestScope root range p) :
      p.node.span.Contains range :=
    hp.enclosing p.path p.node (List.prefix_refl _) hp.located
  unfold locate Node.smallest?
  cases hfound : root.smallestPlace? range Node.isScopeBearing with
  | none =>
    have hnone (p : Place) : ¬ Place.SmallestScope root range p := by
      rw [Place.smallestScope_iff, hfound]
      intro h
      cases h
    refine ⟨rfl, iff_of_false ?_ ?_, fun p hp => absurd hp (hnone p),
      fun p hp => absurd hp (hnone p)⟩
    · rintro ⟨_, _, _, h⟩
      cases h
    · rintro ⟨p, hp, -⟩
      exact hnone p hp
  | some q =>
    have hq : Place.SmallestScope root range q := Place.smallestScope_iff.mpr hfound
    have hunique (p : Place) (hp : Place.SmallestScope root range p) : p = q := by
      rw [Place.smallestScope_iff, hfound] at hp
      exact (Option.some.inj hp).symm
    refine ⟨rfl, ?_, ?_, ?_⟩
    · rw [Option.map_some]
      refine (value_describe_enclosed_iff lines q.node).trans ?_
      constructor
      · intro h
        exact ⟨q, hq, h⟩
      · rintro ⟨p, hp, h⟩
        rw [hunique p hp] at h
        exact h
    · intro p hp hkind
      obtain rfl := hunique p hp
      exact ⟨value_describe_of_protocol lines hkind, hcontains p hp⟩
    · intro p hp hkind
      obtain rfl := hunique p hp
      exact ⟨value_describe_of_class lines hkind, hcontains p hp⟩

end Reader

/-- The notes that are joined are those of the markers that occur. -/
theorem Notes.join_eq_noteText (text separator : String) :
    Notes.join text Notes.markers separator = noteText text separator := by
  unfold join collect noteText
  congr 2
  apply List.filter_congr
  intro m _
  rw [Bool.eq_iff_iff, decide_eq_true_eq]
  exact Notes.occurs_iff

/-- An empty declaration on two lines. -/
def structLines : List String :=
  ["struct A \x7b\n", "\x7d"]

/-- The tree of the empty declaration. -/
def Node.structA : Node :=
  .mk "class_declaration" ⟨⟨0, 0⟩, ⟨1, 1⟩, by decide⟩
    [.mk "struct" ⟨⟨0, 0⟩, ⟨0, 6⟩, by decide⟩ [],
      .mk "type_identifier" ⟨⟨0, 7⟩, ⟨0, 8⟩, by decide⟩ []]

/-- The smallest scope around a cursor in a struct is the struct. -/
theorem Node.smallestPlace?_structA :
    structA.smallestPlace? (.caret 1 0) isScopeBearing = some (.root structA) := by
  apply smallestPlace?_eq_root (by decide) (by decide)
  intro c hc
  rcases List.mem_pair.mp hc with rfl | rfl
  · decide
  · decide

namespace ScopeReader

/-- Whatever a provider gives for a text, the reader answers, with the bare top for no tree and
otherwise with a descriptor that says what encloses the range in the tree. -/
theorem contextOf_describes (reader : ScopeReader) (range : CursorRange) (text : String)
    (lines : List String) (tree : Option Node) (h : reader.provider.Gives text tree) :
    ∃ d, (reader.contextOf range text lines).value = .ok d ∧
      (tree = none → d = ⟨.top, ""⟩) ∧
      ∀ root, tree = some root → d.Describes root range text lines reader.separator := by
  refine ⟨_, contextOf_of_gives h range lines, ?_, ?_⟩
  · rintro rfl
    rfl
  · rintro root rfl
    unfold Reader.context
    rw [Notes.join_eq_noteText]
    exact Reader.describes_locate root range text lines reader.separator

/-- A cursor in a struct is described by the keyword and the name of the struct. -/
theorem contextOf_describes_structA :
    (TreeProvider.constant (some .structA)).Gives (.join structLines) (some .structA) ∧
      ∃ d, ((ScopeReader.mk (.constant (some .structA)) "; ").contextOf (.caret 1 0)
            (.join structLines) structLines).value = .ok d ∧
        d.scope = .enclosed "struct" "A" Node.structA.span := by
  have hgives := TreeProvider.gives_constant (some .structA) (.join structLines)
  obtain ⟨d, hd, -, hdescribes⟩ := contextOf_describes ⟨.constant (some .structA), "; "⟩
    (.caret 1 0) (.join structLines) structLines (some .structA) hgives
  have hsmallest := Place.smallestScope_iff.mpr Node.smallestPlace?_structA
  have hclass := ((hdescribes _ rfl).of_class _ hsmallest rfl).1
  exact ⟨hgives, d, hd, hclass⟩

end ScopeReader

end Enclosure
