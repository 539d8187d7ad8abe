import Enclosure.Proofs.Scope.Description
import Enclosure.Proofs.Scope.Elsewhere

/-!
# Missing parts that are reported

A protocol is reported to lack its name, and a type declaration its keyword, exactly when no child
of the right kind is there. A type declaration is reported to lack its name in one case more: a name
that reads like the word for a missing part cannot be told from one that is missing.
-/

set_option autoImplicit false

namespace Enclosure

namespace Traced

/-- A value by itself reports nothing. -/
@[simp] theorem events_pure {α : Type} (a : α) : (pure a : Traced α).events = [] := rfl

/-- A report reports its event. -/
@[simp] theorem events_report (event : Event) : (report event).events = [event] := rfl

/-- Asking for a text to be parsed reports nothing. -/
@[simp] theorem events_ask (text : String) : (ask text).events = [] := rfl

/-- What two steps in a row report is what the first and then the second reports. -/
@[simp] theorem events_bind {α β : Type} (t : Traced α) (f : α → Traced β) :
    (t >>= f).events = t.events ++ (f t.value).events :=
  List.filterMap_append

/-- Changing the value changes nothing in what is reported. -/
@[simp] theorem events_map {α β : Type} (f : α → β) (t : Traced α) :
    (f <$> t).events = t.events := by
  have hmap : f <$> t = t >>= fun a => pure (f a) := rfl
  rw [hmap, events_bind, events_pure, List.append_nil]

/-- A report on a condition reports its event if the condition holds. -/
theorem events_reportIf (condition : Prop) [Decidable condition] (event : Event) :
    (reportIf condition event).events = if condition then [event] else [] := by
  unfold reportIf
  split <;> rfl

/-- What no step reports is not reported by all steps together. -/
theorem not_mem_events_foldlM {α β : Type} {step : β → α → Traced β} {e : Event}
    (h : ∀ b a, e ∉ (step b a).events) (b : β) (xs : List α) : e ∉ (xs.foldlM step b).events := by
  induction xs generalizing b with
  | nil => simp
  | cons x xs ih =>
    rw [List.foldlM_cons, events_bind, List.mem_append]
    rintro (hx | hxs)
    · exact h b x hx
    · exact ih _ hxs

end Traced

namespace Node

/-- A node has no type identifier among its children. -/
def Nameless (n : Node) : Prop :=
  ∀ c ∈ n.children, c.kind ≠ "type_identifier"

/-- A node has no keyword of a type declaration among its children. -/
def Keywordless (n : Node) : Prop :=
  ∀ c ∈ n.children, c.kind ∉ ["struct", "class", "enum", "actor"]

/-- The last type identifier among the children of a node reads `unknown`. -/
def NamedUnknown (lines : List String) (n : Node) : Prop :=
  ∃ c, (n.children.filter fun c => c.kind = "type_identifier").getLast? = some c ∧
    Excerpt.text lines c.span = "unknown"

/-- A declaration has no child that is a name exactly when it is nameless. -/
theorem filter_eq_nil_iff_nameless {n : Node} :
    (n.children.filter fun c => c.kind = "type_identifier") = [] ↔ n.Nameless := by
  simp [Nameless, List.filter_eq_nil_iff]

/-- A declaration has no child that is a keyword exactly when it is keywordless. -/
theorem filter_eq_nil_iff_keywordless {n : Node} :
    (n.children.filter fun c => c.kind ∈ ["struct", "class", "enum", "actor"]) = [] ↔
      n.Keywordless := by
  simp [Keywordless, List.filter_eq_nil_iff]

/-- No keyword reads like the word for a missing part. -/
theorem lastKeywordOf_eq_unknown_iff {n : Node} :
    lastKeywordOf n.children = "unknown" ↔ n.Keywordless := by
  unfold lastKeywordOf
  rw [← filter_eq_nil_iff_keywordless, ← List.getLast?_eq_none_iff]
  cases hlast : (n.children.filter fun c =>
      c.kind ∈ ["struct", "class", "enum", "actor"]).getLast? with
  | none => simp
  | some c =>
    have hkeyword : c.kind ∈ ["struct", "class", "enum", "actor"] :=
      of_decide_eq_true (List.mem_filter.mp (List.mem_of_getLast? hlast)).2
    have hne : c.kind ≠ "unknown" := by
      intro h
      rw [h] at hkeyword
      revert hkeyword
      decide
    simp [hne]

/-- The last name reads `unknown` when there is none or when it is spelled so. -/
theorem lastNameOf_eq_unknown_iff {lines : List String} {n : Node} :
    lastNameOf lines n.children = "unknown" ↔ n.Nameless ∨ n.NamedUnknown lines := by
  unfold lastNameOf NamedUnknown
  rw [← filter_eq_nil_iff_nameless, ← List.getLast?_eq_none_iff]
  cases (n.children.filter fun c => c.kind = "type_identifier").getLast? with
  | none => simp
  | some c => simp

end Node

namespace Reader

variable {lines : List String} {n : Node} {kind : String} {span : CursorRange}
  {field : DeclarationField}

/-- Quoting a range reports no missing part. -/
theorem fieldMissing_not_mem_quote (range : CursorRange) :
    Event.fieldMissing kind field span ∉ (quote lines range).events := by
  rw [quote, Traced.events_bind, Traced.events_reportIf]
  split <;> simp

/-- Looking at a child of a type declaration reports no missing part. -/
theorem fieldMissing_not_mem_scanTypeChild (found : String × String) (child : Node) :
    Event.fieldMissing kind field span ∉ (scanTypeChild lines found child).events := by
  unfold scanTypeChild
  split
  · simp
  · split
    · simp [fieldMissing_not_mem_quote]
    · simp

/-- A report on a missing part reports that part of that declaration only. -/
theorem mem_reportMissing_iff {part : DeclarationField} :
    Event.fieldMissing kind field span ∈ (reportMissing n part).events ↔
      (kind = n.kind ∧ span = n.span) ∧ field = part := by
  simp only [reportMissing, Traced.events_report, List.mem_singleton, Event.fieldMissing.injEq]
  tauto

/-- Describing a protocol reports a missing name exactly when it is nameless. -/
theorem mem_describeProtocol_iff :
    Event.fieldMissing kind field span ∈ (describeProtocol lines n).events ↔
      (kind = n.kind ∧ span = n.span) ∧ field = .name ∧ n.Nameless := by
  unfold describeProtocol
  cases hfind : n.children.find? Node.isTypeIdentifier with
  | some child =>
    have hname : ¬ n.Nameless := by
      intro h
      have hkind : child.isTypeIdentifier = true := List.find?_some hfind
      exact h child (List.mem_of_find?_eq_some hfind) (beq_iff_eq.mp hkind)
    simp [fieldMissing_not_mem_quote, hname]
  | none =>
    have hname : n.Nameless := by
      intro c hc hkind
      exact List.find?_eq_none.mp hfind c hc (beq_iff_eq.mpr hkind)
    simp [mem_reportMissing_iff, hname]

/-- Describing a type declaration reports a missing keyword exactly when it is keywordless, and a
missing name when it is nameless or named `unknown`. -/
theorem mem_describeType_iff :
    Event.fieldMissing kind field span ∈ (describeType lines n).events ↔
      (kind = n.kind ∧ span = n.span) ∧
        (field = .declarationKind ∧ n.Keywordless ∨
          field = .name ∧ (n.Nameless ∨ n.NamedUnknown lines)) := by
  have hscan : Event.fieldMissing kind field span ∉
      (n.children.foldlM (scanTypeChild lines) (unknownField, unknownField)).events :=
    Traced.not_mem_events_foldlM fieldMissing_not_mem_scanTypeChild _ _
  unfold describeType
  rw [Traced.events_bind, List.mem_append, or_iff_right hscan, Traced.value_foldlM,
    foldl_scanTypeChild, ← Node.lastKeywordOf_eq_unknown_iff, ← Node.lastNameOf_eq_unknown_iff]
  by_cases hkeyword : Node.lastKeywordOf n.children = "unknown"
  · by_cases hname : Node.lastNameOf lines n.children = "unknown"
    · simp [unknownField, hkeyword, hname, mem_reportMissing_iff, and_or_left]
    · simp [unknownField, hkeyword, hname, mem_reportMissing_iff]
  · by_cases hname : Node.lastNameOf lines n.children = "unknown"
    · simp [unknownField, hkeyword, hname, mem_reportMissing_iff]
    · simp [unknownField, hkeyword, hname]

/-- The parts that a declaration is reported to lack. -/
theorem mem_describe_iff (h : n.kind ∈ ["protocol_declaration", "class_declaration"]) :
    Event.fieldMissing kind field span ∈ (describe lines n).events ↔
      (kind = n.kind ∧ span = n.span) ∧
        (field = .declarationKind ∧ n.kind = "class_declaration" ∧ n.Keywordless ∨
          field = .name ∧
            (n.Nameless ∨ n.kind = "class_declaration" ∧ n.NamedUnknown lines)) := by
  rcases List.mem_pair.mp h with hkind | hkind
  · have hdescribe : describe lines n = describeProtocol lines n := by
      unfold describe
      rw [hkind]
      rfl
    rw [hdescribe, mem_describeProtocol_iff, hkind]
    simp
  · have hdescribe : describe lines n = describeType lines n := by
      unfold describe
      rw [hkind]
      rfl
    rw [hdescribe, mem_describeType_iff, hkind]
    simp

end Reader

namespace ScopeReader

/-- A reader reports what its provider reports, and then what the tree is read with. -/
theorem events_contextOf {reader : ScopeReader} {text : String} {t : SyntaxTree} {root : Node}
    {range : CursorRange} (hparse : (reader.provider.parse text).value = .ok (some t))
    (hseen : t.around range = .ok root) (lines : List String) :
    (reader.contextOf range text lines).events = (reader.provider.parse text).events ++
      (Reader.context (some root) range text lines reader.separator).events := by
  unfold contextOf
  simp [hparse, hseen]

/-- With a scope around the range, a reader reports what describing that scope reports. -/
theorem events_contextOf_of_smallest {reader : ScopeReader} {text : String} {t : SyntaxTree}
    {root : Node} {range : CursorRange} {p : Place}
    (hparse : (reader.provider.parse text).value = .ok (some t))
    (hseen : t.around range = .ok root) (hsmallest : Place.SmallestScope root range p)
    (lines : List String) :
    (reader.contextOf range text lines).events =
      (reader.provider.parse text).events ++ (Reader.describe lines p.node).events := by
  have hfound := Place.smallestScope_iff.mp hsmallest
  rw [events_contextOf hparse hseen]
  unfold Reader.context Reader.locate Node.smallest?
  simp [hfound]

/-- Which parts of the declaration around the cursor are reported to be missing. A keyword is
missing exactly from a type declaration that has none. A name is missing from a declaration that has
none, and also, so it is reported, from a type declaration whose last name reads `unknown`. -/
theorem missing_reported_iff (reader : ScopeReader) (range : CursorRange) (text : String)
    (lines : List String) (t : SyntaxTree) (root : Node) (p : Place)
    (hparse : (reader.provider.parse text).value = .ok (some t))
    (hseen : t.around range = .ok root) (hsmallest : Place.SmallestScope root range p)
    (hdeclaration : p.node.kind ∈ ["protocol_declaration", "class_declaration"]) :
    ∃ own, (reader.contextOf range text lines).events =
        (reader.provider.parse text).events ++ own ∧
      ∀ kind span,
        (.fieldMissing kind .name span ∈ own ↔ (kind = p.node.kind ∧ span = p.node.span) ∧
          (p.node.Nameless ∨ p.node.kind = "class_declaration" ∧ p.node.NamedUnknown lines)) ∧
        (.fieldMissing kind .declarationKind span ∈ own ↔
          (kind = p.node.kind ∧ span = p.node.span) ∧
            p.node.kind = "class_declaration" ∧ p.node.Keywordless) := by
  refine ⟨(Reader.describe lines p.node).events, ?_, fun kind span => ⟨?_, ?_⟩⟩
  · exact events_contextOf_of_smallest hparse hseen hsmallest lines
  · simp [Reader.mem_describe_iff hdeclaration]
  · simp [Reader.mem_describe_iff hdeclaration]

end ScopeReader

/-- The tree of an extension: a type declaration by its kind, with other words for its keyword and
its name. -/
def Node.extensionA : Node :=
  .mk "class_declaration" ⟨⟨0, 0⟩, ⟨0, 14⟩, by decide⟩
    [.mk "extension" ⟨⟨0, 0⟩, ⟨0, 9⟩, by decide⟩ [],
      .mk "user_type" ⟨⟨0, 10⟩, ⟨0, 11⟩, by decide⟩
        [.mk "type_identifier" ⟨⟨0, 10⟩, ⟨0, 11⟩, by decide⟩ []]]

/-- The tree of a class with the name `unknown`. -/
def Node.classUnknown : Node :=
  .mk "class_declaration" ⟨⟨0, 0⟩, ⟨0, 16⟩, by decide⟩
    [.mk "class" ⟨⟨0, 0⟩, ⟨0, 5⟩, by decide⟩ [],
      .mk "type_identifier" ⟨⟨0, 6⟩, ⟨0, 13⟩, by decide⟩ []]

namespace ScopeReader

/-- An extension is reported to lack both parts: its name does not stand directly below it. -/
theorem missing_reported_iff_extension :
    let reader : ScopeReader := ⟨.constant (some .extensionA), "\n"⟩
    let reported := (reader.contextOf (.caret 0 13) "extension A \x7b\x7d"
      ["extension A \x7b\x7d"]).events
    Place.SmallestScope .extensionA (.caret 0 13) (.root .extensionA) ∧
      Event.fieldMissing "class_declaration" .name Node.extensionA.span ∈ reported ∧
      Event.fieldMissing "class_declaration" .declarationKind Node.extensionA.span ∈ reported := by
  intro reader reported
  have hsmallest : Place.SmallestScope .extensionA (.caret 0 13) (.root .extensionA) := by
    rw [Place.smallestScope_iff]
    apply Node.smallestPlace?_eq_root (by decide) (by decide)
    intro c hc
    rcases List.mem_pair.mp hc with rfl | rfl <;> decide
  obtain ⟨own, hown, hreported⟩ := missing_reported_iff reader (.caret 0 13)
    "extension A \x7b\x7d" ["extension A \x7b\x7d"] (.given .extensionA) .extensionA
    (.root .extensionA) rfl rfl hsmallest (by decide)
  have hnameless : Node.extensionA.Nameless := by
    intro c hc
    rcases List.mem_pair.mp hc with rfl | rfl <;> decide
  have hkeywordless : Node.extensionA.Keywordless := by
    intro c hc
    rcases List.mem_pair.mp hc with rfl | rfl <;> decide
  obtain ⟨hname, hkeyword⟩ := hreported "class_declaration" Node.extensionA.span
  have hreports (e : Event) (he : e ∈ own) : e ∈ reported := by
    have heq : reported = _ ++ own := hown
    rw [heq]
    exact List.mem_append_right _ he
  exact ⟨hsmallest, hreports _ (hname.mpr ⟨⟨rfl, rfl⟩, .inl hnameless⟩),
    hreports _ (hkeyword.mpr ⟨⟨rfl, rfl⟩, rfl, hkeywordless⟩)⟩

/-- The name of a class is there and is reported to be missing, because it reads `unknown`. -/
theorem missing_reported_unknownName :
    let reader : ScopeReader := ⟨.constant (some .classUnknown), "\n"⟩
    let lines := ["class unknown \x7b\x7d\n"]
    Place.SmallestScope .classUnknown (.caret 0 15) (.root .classUnknown) ∧
      ¬ (Event.fieldMissing "class_declaration" .name Node.classUnknown.span ∈
          (reader.contextOf (.caret 0 15) (.join lines) lines).events ↔
        ∀ c ∈ Node.classUnknown.children, c.kind ≠ "type_identifier") := by
  intro reader lines
  have hsmallest : Place.SmallestScope .classUnknown (.caret 0 15) (.root .classUnknown) := by
    rw [Place.smallestScope_iff]
    apply Node.smallestPlace?_eq_root (by decide) (by decide)
    intro c hc
    rcases List.mem_pair.mp hc with rfl | rfl <;> decide
  have hnamed : Node.classUnknown.NamedUnknown lines := ⟨_, rfl, by decide⟩
  have hreported : Event.fieldMissing "class_declaration" .name Node.classUnknown.span ∈
      (Reader.describe lines Node.classUnknown).events :=
    (Reader.mem_describe_iff (by decide)).mpr ⟨⟨rfl, rfl⟩, .inr ⟨rfl, .inr ⟨rfl, hnamed⟩⟩⟩
  refine ⟨hsmallest, fun h => ?_⟩
  rw [events_contextOf_of_smallest (t := .given .classUnknown) rfl rfl hsmallest] at h
  have hnone := h.mp (List.mem_append_right _ hreported)
  exact hnone _ (List.mem_cons_of_mem _ (List.mem_singleton.mpr rfl)) rfl

end ScopeReader

end Enclosure
