import Enclosure.Proofs.Scope.Description

/-!
# What lies elsewhere

Two trees agree around a range when one becomes the other by giving new children, any number of them
and with anything below, to nodes that do not contain the range. Such nodes may stand anywhere, also
among the children of the declaration that is described. The reader gives the same descriptor for
both trees and reports the same events on the way: it does not look below a node that is elsewhere,
and of the children of a declaration it reads the kinds and the spans.
-/

set_option autoImplicit false

namespace Enclosure

namespace Node

mutual

/-- Two trees are the same but for the children of nodes that do not contain a range. -/
def AgreeAround (range : CursorRange) : Node → Node → Prop
  | .mk kind span children, .mk kind' span' children' =>
    kind' = kind ∧ span' = span ∧ (span.Contains range → AllAgreeAround range children children')

/-- Two lists of trees are pairwise the same but for the children of such nodes. -/
def AllAgreeAround (range : CursorRange) : List Node → List Node → Prop
  | [], [] => True
  | n :: rest, n' :: rest' => AgreeAround range n n' ∧ AllAgreeAround range rest rest'
  | _, _ => False

end

variable {range : CursorRange}

mutual

/-- Trees that agree around a range are the same once nothing is left below the other nodes. -/
theorem AgreeAround.prune_eq : ∀ {m n : Node}, m.AgreeAround range n →
    (n.prune fun span => span.Contains range) = m.prune fun span => span.Contains range
  | .mk kind span children, .mk kind' span' children', h => by
    rw [AgreeAround] at h
    obtain ⟨rfl, rfl, hchildren⟩ := h
    rw [prune, prune]
    by_cases hcontains : span'.Contains range
    · simp only [hcontains, decide_true, if_true]
      rw [pruneAll_eq_of_allAgreeAround (hchildren hcontains)]
    · simp only [hcontains, decide_false, Bool.false_eq_true, if_false]

/-- Nodes that agree around a range are the same without what lies away from it. -/
theorem pruneAll_eq_of_allAgreeAround : ∀ {ms ns : List Node}, AllAgreeAround range ms ns →
    (pruneAll (fun span => span.Contains range) ns) = pruneAll (fun span => span.Contains range) ms
  | [], [], _ => rfl
  | m :: ms, n :: ns, h => by
    rw [AllAgreeAround] at h
    rw [pruneAll, pruneAll, h.1.prune_eq, pruneAll_eq_of_allAgreeAround h.2]
  | [], _ :: _, h => by simp [AllAgreeAround] at h
  | _ :: _, [], h => by simp [AllAgreeAround] at h

end

end Node

namespace RawNode

mutual

/-- Two trees of a parser are the same but for the children of nodes whose spans do not contain a
range. -/
def AgreeAround (columns : ColumnMap) (range : CursorRange) : RawNode → RawNode → Prop
  | .mk kind start stop missing children, .mk kind' start' stop' missing' children' =>
    kind' = kind ∧ start' = start ∧ stop' = stop ∧ missing' = missing ∧
      ∀ span, columns.range start stop = .ok span → span.Contains range →
        AllAgreeAround columns range children children'

/-- Two lists of trees of a parser are pairwise the same but for the children of such nodes. -/
def AllAgreeAround (columns : ColumnMap) (range : CursorRange) : List RawNode → List RawNode → Prop
  | [], [] => True
  | n :: rest, n' :: rest' =>
    AgreeAround columns range n n' ∧ AllAgreeAround columns range rest rest'
  | _, _ => False

end

variable {columns : ColumnMap} {range : CursorRange}

/-- Raw nodes that agree around a range have the same range themselves. -/
theorem AgreeAround.span_eq {m n : RawNode} (h : m.AgreeAround columns range n) :
    n.span columns = m.span columns := by
  cases m with
  | mk kind start stop missing children =>
    cases n with
    | mk kind' start' stop' missing' children' =>
      rw [AgreeAround] at h
      obtain ⟨-, rfl, rfl, -, -⟩ := h
      rfl

/-- Raw nodes that agree around a range have the same ranges, one by one. -/
theorem mapM_span_eq_of_allAgreeAround {ms ns : List RawNode}
    (h : AllAgreeAround columns range ms ns) :
    ns.mapM (RawNode.span columns) = ms.mapM (RawNode.span columns) := by
  induction ms generalizing ns with
  | nil =>
    cases ns with
    | nil => rfl
    | cons n ns => exact h.elim
  | cons m ms ih =>
    cases ns with
    | nil => exact h.elim
    | cons n ns =>
      rw [AllAgreeAround] at h
      rw [List.mapM_cons, List.mapM_cons, h.1.span_eq, ih h.2]

mutual

/-- Trees of a parser that agree around a range look the same to a search for it. -/
theorem AgreeAround.view_eq : ∀ {m n : RawNode}, m.AgreeAround columns range n →
    (n.view columns fun span => span.Contains range) =
      m.view columns fun span => span.Contains range
  | .mk kind start stop missing children, .mk kind' start' stop' missing' children', h => by
    rw [AgreeAround] at h
    obtain ⟨rfl, rfl, rfl, -, hchildren⟩ := h
    rw [view, view]
    cases hspan : columns.range start' stop' with
    | error e => rfl
    | ok span =>
      by_cases hcontains : span.Contains range
      · have hbelow := hchildren span hspan hcontains
        rw [mapM_span_eq_of_allAgreeAround hbelow, viewAll_eq_of_allAgreeAround hbelow]
      · -- neither the spans of the children nor what lies below them is asked for
        have hclosed : ¬ decide (span.Contains range) = true := by simpa using hcontains
        change (if decide (span.Contains range) = true then _ else _) =
          if decide (span.Contains range) = true then _ else _
        rw [if_neg hclosed, if_neg hclosed]

/-- Raw nodes that agree around a range are seen alike around it. -/
theorem viewAll_eq_of_allAgreeAround : ∀ {ms ns : List RawNode},
    AllAgreeAround columns range ms ns →
      viewAll columns (fun span => span.Contains range) ns =
        viewAll columns (fun span => span.Contains range) ms
  | [], [], _ => rfl
  | m :: ms, n :: ns, h => by
    rw [AllAgreeAround] at h
    rw [viewAll, viewAll, h.1.view_eq, viewAll_eq_of_allAgreeAround h.2]
  | [], _ :: _, h => by simp [AllAgreeAround] at h
  | _ :: _, [], h => by simp [AllAgreeAround] at h

end

end RawNode

/-- Two trees, both given in characters or both made by a parser of one text, are the same but for
the children of nodes that do not contain a range. -/
def SyntaxTree.AgreeAround (range : CursorRange) : SyntaxTree → SyntaxTree → Prop
  | .given m, .given n => m.AgreeAround range n
  | .parsed s, .parsed t => t.columns = s.columns ∧ s.root.AgreeAround s.columns range t.root
  | _, _ => False

namespace Reader

/-- Trees that agree around a range have the same answer and the same events for it. -/
theorem context_eq_of_agreeAround {m n : Node} {range : CursorRange} (h : m.AgreeAround range n)
    (text : String) (lines : List String) (separator : String) :
    context (some n) range text lines separator = context (some m) range text lines separator := by
  rw [← context_prune n, ← context_prune m, h.prune_eq]

end Reader

namespace ScopeReader

/-- What a reader answers once its provider has given a tree. -/
def answerIn (t : SyntaxTree) (range : CursorRange) (text separator : String)
    (lines : List String) : Traced (Except Escape Descriptor) :=
  match t.around range with
  | .error e => return .error (.reversedRange e)
  | .ok root => .ok <$> Reader.context (some root) range text lines separator

/-- What a reader answers with a parsed tree is what is found in the tree, after parsing. -/
theorem contextOf_of_parse {reader : ScopeReader} {t : SyntaxTree} {acts : List Act} {text : String}
    (h : reader.provider.parse text = ⟨.ok (some t), acts⟩) (range : CursorRange)
    (lines : List String) :
    reader.contextOf range text lines =
      (Traced.ask text >>= fun _ => (⟨(), acts⟩ : Traced Unit) >>= fun _ =>
        answerIn t range text reader.separator lines) := by
  unfold contextOf
  rw [h]
  rfl

/-- Parsed trees that agree around a range have the same answer and the same events for it. -/
theorem answerIn_eq_of_agreeAround {s t : SyntaxTree} {range : CursorRange}
    (h : s.AgreeAround range t) (text separator : String) (lines : List String) :
    answerIn t range text separator lines = answerIn s range text separator lines := by
  cases s with
  | given m =>
    cases t with
    | given n =>
      have hcontext := Reader.context_eq_of_agreeAround h text lines separator
      unfold answerIn
      simp only [SyntaxTree.around, hcontext]
    | parsed t => exact h.elim
  | parsed s =>
    cases t with
    | given n => exact h.elim
    | parsed t =>
      have haround : (SyntaxTree.parsed t).around range = (SyntaxTree.parsed s).around range := by
        rw [SyntaxTree.around, SyntaxTree.around, h.1, h.2.view_eq]
      unfold answerIn
      rw [haround]

/-- Whatever is put below any number of nodes that do not contain the cursor, the reader gives the
same descriptor and reports the same events in the same order. -/
theorem contextOf_eq_elsewhere (first second : TreeProvider) (s t : SyntaxTree) (acts : List Act)
    (range : CursorRange) (text separator : String) (lines : List String)
    (hfirst : first.parse text = ⟨.ok (some s), acts⟩)
    (hsecond : second.parse text = ⟨.ok (some t), acts⟩) (hagree : s.AgreeAround range t) :
    let before := (ScopeReader.mk first separator).contextOf range text lines
    let after := (ScopeReader.mk second separator).contextOf range text lines
    after.value = before.value ∧ after.events = before.events := by
  intro before after
  have heq : after = before := by
    have hbefore : before = _ := contextOf_of_parse hfirst range lines
    have hafter : after = _ := contextOf_of_parse hsecond range lines
    rw [hbefore, hafter, answerIn_eq_of_agreeAround hagree]
  rw [heq]
  exact ⟨rfl, rfl⟩

end ScopeReader

/-- A declaration around a method, with the same nodes below its name and below the method. -/
def Node.withMethod (below : List Node) : Node :=
  .mk "class_declaration" ⟨⟨0, 0⟩, ⟨4, 1⟩, by decide⟩
    [.mk "enum" ⟨⟨0, 0⟩, ⟨0, 4⟩, by decide⟩ [],
      .mk "type_identifier" ⟨⟨0, 5⟩, ⟨0, 6⟩, by decide⟩ below,
      .mk "function_declaration" ⟨⟨1, 2⟩, ⟨2, 3⟩, by decide⟩ below]

/-- A small declaration that does not lie where its parents are. -/
def Node.intruder : Node :=
  .mk "protocol_declaration" ⟨⟨3, 0⟩, ⟨3, 1⟩, by decide⟩ []

namespace ScopeReader

/-- A declaration around the cursor that stands below nodes away from it is not found. -/
theorem contextOf_eq_elsewhere_intruder :
    Node.intruder.span.Contains (.caret 3 0) ∧
      (SyntaxTree.given (.withMethod [])).AgreeAround (.caret 3 0)
        (.given (.withMethod [.intruder])) ∧
      ((ScopeReader.mk (.constant (some (.withMethod [.intruder]))) "; ").contextOf (.caret 3 0)
          "" ["enum A"]).value =
        .ok ⟨.enclosed "enum" "A" (Node.withMethod []).span, ""⟩ ∧
      ((ScopeReader.mk (.constant (some (.withMethod [.intruder]))) "; ").contextOf (.caret 3 0)
          "" ["enum A"]).events = [] := by
  have hagree : (SyntaxTree.given (.withMethod [])).AgreeAround (.caret 3 0)
      (.given (.withMethod [.intruder])) := by
    have hname : ¬ (⟨⟨0, 5⟩, ⟨0, 6⟩, by decide⟩ : CursorRange).Contains (.caret 3 0) := by decide
    have hmethod : ¬ (⟨⟨1, 2⟩, ⟨2, 3⟩, by decide⟩ : CursorRange).Contains (.caret 3 0) := by decide
    simp [SyntaxTree.AgreeAround, Node.withMethod, Node.AgreeAround, Node.AllAgreeAround, hname,
      hmethod]
  have hfound : (Node.withMethod []).smallestPlace? (.caret 3 0) Node.isScopeBearing =
      some (.root (.withMethod [])) := by
    apply Node.smallestPlace?_eq_root (by decide) (by decide)
    intro c hc
    simp only [Node.withMethod, Node.children, List.mem_cons, List.not_mem_nil, or_false] at hc
    rcases hc with rfl | rfl | rfl
    · decide
    · decide
    · decide
  have hbefore : (ScopeReader.mk (.constant (some (.withMethod []))) "; ").contextOf (.caret 3 0)
      "" ["enum A"] =
        ⟨.ok ⟨.enclosed "enum" "A" (Node.withMethod []).span, ""⟩, [.parse ""]⟩ := by
    have hparse : (TreeProvider.constant (some (.withMethod []))).parse "" =
        ⟨.ok (some (.given (.withMethod []))), []⟩ := rfl
    rw [contextOf_of_parse hparse, answerIn, SyntaxTree.around]
    dsimp only
    rw [Reader.context, Reader.locate, Node.smallest?, hfound]
    rfl
  obtain ⟨hvalue, hevents⟩ := contextOf_eq_elsewhere (.constant (some (.withMethod [])))
    (.constant (some (.withMethod [.intruder]))) (.given (.withMethod []))
    (.given (.withMethod [.intruder])) [] (.caret 3 0) "" "; " ["enum A"] rfl rfl hagree
  rw [hbefore] at hvalue hevents
  exact ⟨by decide, hagree, hvalue, hevents⟩

end ScopeReader

end Enclosure
