import Enclosure.Proofs.Text.Decimal
import Enclosure.Scope.Descriptor

/-!
# Reading a rendering

The rendering of an enclosed scope escapes nothing, and still it can be read in one way only. The
kind ends at the first space after the opening word, the first line at the first line feed after
that, and the name before the last letter e of this line: neither the rest of the word that comes
before the range nor the range itself holds another one. Names may hold commas, brackets and whole
ranges.
-/

set_option autoImplicit false

namespace Enclosure

section

variable {α : Type} {x : α} {as bs cs ds : List α}

/-- A symbol splits a list in one way where it occurs for the first time. -/
theorem append_cons_inj_of_first (has : x ∉ as) (hbs : x ∉ bs) :
    as ++ x :: cs = bs ++ x :: ds ↔ as = bs ∧ cs = ds := by
  constructor
  · intro h
    induction as generalizing bs with
    | nil =>
      cases bs with
      | nil => simpa using h
      | cons b bs =>
        have hb : x = b := by simpa using congrArg List.head? h
        exact absurd (hb ▸ List.mem_cons_self) hbs
    | cons a as ih =>
      cases bs with
      | nil =>
        have ha : a = x := by simpa using congrArg List.head? h
        exact absurd (ha ▸ List.mem_cons_self) has
      | cons b bs =>
        rw [List.mem_cons, not_or] at has hbs
        obtain ⟨hhead, htail⟩ : a = b ∧ as ++ x :: cs = bs ++ x :: ds := by simpa using h
        obtain ⟨hfront, hback⟩ := ih has.2 hbs.2 htail
        exact ⟨by rw [hhead, hfront], hback⟩
  · rintro ⟨rfl, rfl⟩
    rfl

/-- A symbol splits a list in one way where it occurs for the last time. -/
theorem append_cons_inj_of_last (hcs : x ∉ cs) (hds : x ∉ ds) :
    as ++ x :: cs = bs ++ x :: ds ↔ as = bs ∧ cs = ds := by
  have hcs' : x ∉ cs.reverse := by simpa using hcs
  have hds' : x ∉ ds.reverse := by simpa using hds
  have hfirst : cs.reverse ++ x :: as.reverse = ds.reverse ++ x :: bs.reverse ↔
      cs.reverse = ds.reverse ∧ as.reverse = bs.reverse := append_cons_inj_of_first hcs' hds'
  rw [← List.reverse_inj]
  simpa [and_comm] using hfirst

end

/-! ### Ranges -/

/-- The text of an integer holds digits and a minus sign only. -/
theorem Decimal.not_mem_intChars {c : Char} (hsign : c ≠ '-') (hdigit : Decimal.isDigit c = false)
    (i : Int) : c ∉ Decimal.intChars i := by
  intro hmem
  rcases Decimal.eq_or_isDigit_of_mem_intChars hmem with rfl | h
  · exact hsign rfl
  · rw [hdigit] at h
    cases h

/-- The text of a position is its two coordinates between brackets. -/
theorem Position.toList_text (p : Position) :
    p.text.toList =
      '[' :: (Decimal.intChars p.line ++ ',' :: ' ' :: (Decimal.intChars p.column ++ [']'])) := by
  simp [Position.text, Decimal.text]

/-- Different positions have different texts, whatever follows them. -/
theorem Position.text_append_inj {p q : Position} {cs ds : List Char} :
    p.text.toList ++ cs = q.text.toList ++ ds ↔ p = q ∧ cs = ds := by
  constructor
  · intro h
    have hcomma := Decimal.not_mem_intChars (c := ',') (by decide) (by decide)
    have hbracket := Decimal.not_mem_intChars (c := ']') (by decide) (by decide)
    simp only [toList_text, List.cons_append, List.append_assoc, List.nil_append, List.cons.injEq,
      true_and] at h
    obtain ⟨hline, h⟩ := (append_cons_inj_of_first (hcomma _) (hcomma _)).mp h
    rw [List.cons.injEq] at h
    obtain ⟨hcolumn, hrest⟩ := (append_cons_inj_of_first (hbracket _) (hbracket _)).mp h.2
    have hlines : p.line = q.line := Decimal.intChars_injective hline
    have hcolumns : p.column = q.column := Decimal.intChars_injective hcolumn
    refine ⟨?_, hrest⟩
    cases p
    cases q
    simp_all
  · rintro ⟨rfl, rfl⟩
    rfl

/-- Different ranges have different texts. -/
theorem CursorRange.text_injective : Function.Injective CursorRange.text := by
  intro r s h
  have hchars : r.start.text.toList ++ (" - ".toList ++ (r.stop.text.toList ++ [])) =
      s.start.text.toList ++ (" - ".toList ++ (s.stop.text.toList ++ [])) := by
    simpa [CursorRange.text] using congrArg String.toList h
  obtain ⟨hstart, hrest⟩ := Position.text_append_inj.mp hchars
  obtain ⟨hstop, -⟩ := Position.text_append_inj.mp (List.append_cancel_left hrest)
  obtain ⟨start, stop, hle⟩ := r
  simp only at hstart hstop
  subst hstart hstop
  rfl

/-- The text of a range holds digits and a few marks only. -/
theorem CursorRange.not_mem_text {c : Char} (hmarks : c ∉ "[, ]-".toList)
    (hdigit : Decimal.isDigit c = false) (r : CursorRange) : c ∉ r.text.toList := by
  have hnumber := Decimal.not_mem_intChars (c := c) (fun heq => hmarks (by simp [heq])) hdigit
  simp at hmarks
  simp [CursorRange.text, Position.toList_text, hnumber, hmarks]

/-! ### Descriptors -/

/-- Whether a scope is enclosed by a declaration whose kind is free of spaces and whose name is free
of line feeds. -/
def Scope.IsLegible : Scope → Prop
  | .top => False
  | .enclosed kind name _ => ' ' ∉ kind.toList ∧ '\n' ∉ name.toList

instance (s : Scope) : Decidable s.IsLegible :=
  match s with
  | .top => inferInstanceAs (Decidable False)
  | .enclosed .. => inferInstanceAs (Decidable (_ ∧ _))

namespace Descriptor

/-- What the first line of a rendering holds after the kind. -/
def headline (name : String) (range : CursorRange) : List Char :=
  (name.toList ++ ", rang".toList) ++ 'e' :: ' ' :: range.text.toList

/-- The rendering of an enclosed scope is a headline and the notes on the lines below it. -/
theorem toList_render (kind name notes : String) (range : CursorRange) :
    (render ⟨.enclosed kind name range, notes⟩).toList =
      "Inside ".toList ++
        (kind.toList ++ ' ' :: (headline name range ++ '\n' :: notes.toList)) := by
  simp [render, headline]

/-- The headline of a name without a line feed is one line. -/
theorem lineFeed_not_mem_headline {name : String} (h : '\n' ∉ name.toList) (range : CursorRange) :
    '\n' ∉ headline name range := by
  have hrange := CursorRange.not_mem_text (c := '\n') (by decide) (by decide) range
  simp [headline, h, hrange]

/-- The last letter e of the line stands in front of the range, whatever the name holds. -/
theorem headline_inj {name₁ name₂ : String} {range₁ range₂ : CursorRange} :
    headline name₁ range₁ = headline name₂ range₂ ↔ name₁ = name₂ ∧ range₁ = range₂ := by
  constructor
  · intro h
    have hletter (r : CursorRange) : 'e' ∉ ' ' :: r.text.toList := by
      simp [CursorRange.not_mem_text (c := 'e') (by decide) (by decide) r]
    obtain ⟨hname, hrange⟩ := (append_cons_inj_of_last (hletter _) (hletter _)).mp h
    rw [List.cons.injEq, String.toList_inj] at hrange
    exact ⟨String.toList_inj.mp (List.append_cancel_right hname),
      CursorRange.text_injective hrange.2⟩
  · rintro ⟨rfl, rfl⟩
    rfl

/-- Enclosed scopes with kinds free of spaces and names free of line feeds have the same rendering
only if they are the same, with the same notes. -/
theorem render_eq_render_iff {d₁ d₂ : Descriptor} (h₁ : d₁.scope.IsLegible)
    (h₂ : d₂.scope.IsLegible) : d₁.render = d₂.render ↔ d₁ = d₂ := by
  refine ⟨fun h => ?_, fun h => by rw [h]⟩
  obtain ⟨scope₁, notes₁⟩ := d₁
  obtain ⟨scope₂, notes₂⟩ := d₂
  cases scope₁ with
  | top => exact h₁.elim
  | enclosed kind₁ name₁ range₁ =>
    cases scope₂ with
    | top => exact h₂.elim
    | enclosed kind₂ name₂ range₂ =>
      have hline₁ := lineFeed_not_mem_headline h₁.2 range₁
      have hline₂ := lineFeed_not_mem_headline h₂.2 range₂
      have hchars := congrArg String.toList h
      rw [toList_render, toList_render, List.append_cancel_left_eq] at hchars
      obtain ⟨hkind, hafter⟩ := (append_cons_inj_of_first h₁.1 h₂.1).mp hchars
      obtain ⟨hline, hnotes⟩ := (append_cons_inj_of_first hline₁ hline₂).mp hafter
      obtain ⟨rfl, rfl⟩ := headline_inj.mp hline
      rw [String.toList_inj] at hkind hnotes
      rw [hkind, hnotes]

/-- A name that holds a whole range is not taken for a shorter name with that range. -/
theorem render_eq_render_iff_rangeInName :
    let r : CursorRange := ⟨⟨-3, 7⟩, ⟨2, -5⟩, by decide⟩
    let long : Descriptor := ⟨.enclosed "class" "A, range [-3, 7] - [2, -5]" r, ""⟩
    let short : Descriptor := ⟨.enclosed "class" "A" r, ", range [-3, 7] - [2, -5]\n"⟩
    long.scope.IsLegible ∧ short.scope.IsLegible ∧ long.render ≠ short.render := by
  intro r long short
  have hlong : long.scope.IsLegible := by decide
  have hshort : short.scope.IsLegible := by decide
  refine ⟨hlong, hshort, ?_⟩
  rw [ne_eq, render_eq_render_iff hlong hshort]
  decide

end Descriptor

end Enclosure
