import Enclosure.Text.Lines
import Mathlib.Data.List.Basic

/-!
# Cutting after line feeds

A list of symbols is cut after every line feed, whatever symbol the line feed is. The lines of a
text are its characters cut in this way. Symbols without a line feed and a line feed behind them are
one line, and what holds of symbols without a line feed and stays when a line is put in front holds
of all.
-/

set_option autoImplicit false

namespace Enclosure.Lines

/-- The characters of the lines are those of the text. -/
theorem flatMap_toList_split (text : String) :
    (split text).flatMap String.toList = text.toList := by
  rw [split, List.flatMap_map]
  simp only [String.toList_ofList, List.flatMap_id', flatten_splitChars]

/-- Joined, the lines of a text are the text. -/
theorem join_split (text : String) : String.join (split text) = text := by
  rw [← String.toList_inj, String.toList_join, flatMap_toList_split]

variable {α : Type} [DecidableEq α] {feed : α}

/-- The lines of some symbols: each ends with its line feed, only the last may be without one. -/
def cutAfter (feed : α) : List α → List (List α)
  | [] => []
  | a :: rest =>
    if a = feed then [a] :: cutAfter feed rest
    else
      match cutAfter feed rest with
      | [] => [[a]]
      | line :: lines => (a :: line) :: lines

/-- Symbols without a line feed, and then a line feed, are the first line. -/
theorem cutAfter_append {body : List α} (h : feed ∉ body) (rest : List α) :
    cutAfter feed (body ++ feed :: rest) = (body ++ [feed]) :: cutAfter feed rest := by
  induction body with
  | nil =>
    rw [List.nil_append, List.nil_append, cutAfter]
    exact if_pos rfl
  | cons a body ih =>
    have ha : a ≠ feed := fun heq => h (heq ▸ List.mem_cons_self)
    have htail := ih fun hmem => h (List.mem_cons_of_mem a hmem)
    rw [List.cons_append, cutAfter, if_neg ha, htail]
    rfl

/-- Symbols without a line feed are one line, unless there are none. -/
theorem cutAfter_of_not_mem {body : List α} (h : feed ∉ body) :
    cutAfter feed body = if body = [] then [] else [body] := by
  induction body with
  | nil => rfl
  | cons a body ih =>
    have ha : a ≠ feed := fun heq => h (heq ▸ List.mem_cons_self)
    have htail := ih fun hmem => h (List.mem_cons_of_mem a hmem)
    rw [cutAfter, if_neg ha, htail, if_neg (List.cons_ne_nil a body)]
    by_cases hbody : body = []
    · rw [if_pos hbody, hbody]
    · rw [if_neg hbody]

/-- Induction over the lines of some symbols, from the last one up. -/
@[elab_as_elim]
theorem lines_induction (feed : α) {P : List α → Prop} (last : ∀ body, feed ∉ body → P body)
    (line : ∀ body rest, feed ∉ body → P rest → P (body ++ feed :: rest)) (symbols : List α) :
    P symbols := by
  induction h : symbols.length using Nat.strongRecOn generalizing symbols with
  | ind n ih =>
    by_cases hfeed : feed ∈ symbols
    · obtain ⟨body, rest, rfl, hbody⟩ := List.eq_append_cons_of_mem hfeed
      have hshort : rest.length < n := by
        rw [List.length_append, List.length_cons] at h
        omega
      exact line body rest hbody (ih _ hshort rest rfl)
    · exact last symbols hfeed

/-- Splitting characters into lines cuts them after each line feed. -/
theorem splitChars_eq_cutAfter (cs : List Char) : splitChars cs = cutAfter '\n' cs := by
  induction cs with
  | nil => rfl
  | cons c cs ih =>
    rw [splitChars_cons, ih, cutAfter]
    cases cutAfter '\n' cs <;> rfl

end Enclosure.Lines
