import Enclosure.Proofs.Text.Above
import Mathlib.Data.List.Infix
import Mathlib.Data.Set.Function

/-!
# Canonical lines

Lines are canonical when none is empty, a line feed stands only at the end of its line, and only the
last line may be without one. The lines of every text are canonical, and canonical lines are the
lines of the text that they join to. So texts and canonical lists of lines are the same thing.
-/

set_option autoImplicit false

namespace Enclosure.Lines

/-- Lines as a text is split into them. -/
structure IsCanonical (lines : List String) : Prop where
  ne_empty : ∀ line ∈ lines, line ≠ ""
  feed_last : ∀ line ∈ lines, '\n' ∉ line.toList.dropLast
  ended : ∀ line ∈ lines.dropLast, line.toList.getLast? = some '\n'

variable {line : String} {lines : List String}

/-- A line with its only line feed at its end is ended. -/
theorem ended_of_getLast? (hfeed : '\n' ∉ line.toList.dropLast)
    (hlast : line.toList.getLast? = some '\n') : Ended line :=
  ⟨line.toList.dropLast, hfeed, (List.dropLast_append_getLast? '\n' hlast).symm⟩

/-! ## The lines of a text are canonical -/

/-- No lines are canonical. -/
theorem isCanonical_nil : IsCanonical [] :=
  ⟨by simp, by simp, by simp⟩

/-- One line that is not empty and has no line feed before its end is canonical. -/
theorem isCanonical_singleton (hne : line ≠ "") (hfeed : '\n' ∉ line.toList.dropLast) :
    IsCanonical [line] :=
  ⟨by simpa using hne, by simpa using hfeed, by simp⟩

/-- Canonical lines stay so behind a line that is ended. -/
theorem IsCanonical.cons (hline : Ended line) (h : IsCanonical lines) :
    IsCanonical (line :: lines) := by
  obtain ⟨body, hbody, hchars⟩ := hline
  have hlast : line.toList.getLast? = some '\n' := by
    rw [hchars, List.getLast?_concat]
  refine ⟨?_, ?_, ?_⟩
  · rw [List.forall_mem_cons]
    refine ⟨?_, h.ne_empty⟩
    rintro rfl
    simp at hlast
  · rw [List.forall_mem_cons, hchars, List.dropLast_concat]
    exact ⟨hbody, h.feed_last⟩
  · intro l hl
    cases lines with
    | nil => simp at hl
    | cons next rest =>
      rw [List.dropLast_cons_cons, List.mem_cons] at hl
      rcases hl with rfl | hl
      · exact hlast
      · exact h.ended l hl

/-- The lines of a text are canonical. -/
theorem isCanonical_split (text : String) : IsCanonical (split text) := by
  rw [split]
  induction text.toList using lines_induction '\n' with
  | last body hbody =>
    rw [splitChars_eq_cutAfter, cutAfter_of_not_mem hbody]
    by_cases hnil : body = []
    · rw [if_pos hnil]
      exact isCanonical_nil
    · rw [if_neg hnil]
      refine isCanonical_singleton (by simpa using hnil) ?_
      rw [String.toList_ofList]
      exact fun hmem => hbody (List.mem_of_mem_dropLast hmem)
  | line body rest hbody ih =>
    rw [splitChars_line_append hbody, List.map_cons]
    exact ih.cons ⟨body, hbody, String.toList_ofList⟩

/-! ## Canonical lines are the lines of a text -/

/-- A line that is ended is the first line of the text that it starts. -/
theorem split_ended_append (h : Ended line) (text : String) :
    split (line ++ text) = line :: split text := by
  have hsplit : split (String.join [line] ++ text) = [line] ++ split text :=
    split_join_append (by simpa using h) text
  rwa [String.join_cons, String.join_nil, String.append_empty] at hsplit

/-- A text that is not empty and has no line feed before its end is one line. -/
theorem split_eq_singleton (hne : line ≠ "") (hfeed : '\n' ∉ line.toList.dropLast) :
    split line = [line] := by
  by_cases hlast : line.toList.getLast? = some '\n'
  · have hsplit := split_ended_append (ended_of_getLast? hfeed hlast) ""
    rwa [String.append_empty] at hsplit
  · have hnone : '\n' ∉ line.toList := by
      intro hmem
      exact hfeed (List.mem_dropLast_of_mem_of_ne_getLast? hmem (Ne.symm hlast))
    have hchars : line.toList ≠ [] := by simpa using hne
    rw [split, splitChars_eq_cutAfter, cutAfter_of_not_mem hnone, if_neg hchars,
      List.map_singleton, String.ofList_toList]

/-- Canonical lines are the lines of the text that joins them. -/
theorem IsCanonical.split_join (h : IsCanonical lines) : split (String.join lines) = lines := by
  induction lines with
  | nil => rfl
  | cons line rest ih =>
    obtain ⟨hne, hnes⟩ := List.forall_mem_cons.mp h.ne_empty
    obtain ⟨hfeed, hfeeds⟩ := List.forall_mem_cons.mp h.feed_last
    cases rest with
    | nil =>
      rw [String.join_cons, String.join_nil, String.append_empty]
      exact split_eq_singleton hne hfeed
    | cons next rest =>
      have hended := h.ended
      rw [List.dropLast_cons_cons, List.forall_mem_cons] at hended
      rw [String.join_cons, split_ended_append (ended_of_getLast? hfeed hended.1),
        ih ⟨hnes, hfeeds, hended.2⟩]

/-- Some lines are the lines of a text exactly when they join to it and are canonical, so splitting
leads from the texts to the canonical lists of lines, from one to one. -/
theorem split_eq_iff_isCanonical :
    (∀ (text : String) (lines : List String),
        split text = lines ↔ String.join lines = text ∧ IsCanonical lines) ∧
      Set.BijOn split Set.univ {lines | IsCanonical lines} := by
  have hiff (text : String) (lines : List String) :
      split text = lines ↔ String.join lines = text ∧ IsCanonical lines := by
    constructor
    · rintro rfl
      exact ⟨join_split text, isCanonical_split text⟩
    · rintro ⟨rfl, h⟩
      exact h.split_join
  refine ⟨hiff, fun text _ => isCanonical_split text, ?_, ?_⟩
  · intro text _ other _ hsame
    rw [← join_split text, hsame, join_split]
  · intro lines h
    exact ⟨String.join lines, Set.mem_univ _, h.split_join⟩

/-- Neither a carriage return nor a line separator ends a line. -/
example : split "a\r\n\n\u2028\x0cb" = ["a\r\n", "\n", "\u2028\x0cb"] := by decide

end Enclosure.Lines
