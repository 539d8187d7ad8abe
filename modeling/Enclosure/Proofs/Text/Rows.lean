import Enclosure.Proofs.Text.Excerpt
import Enclosure.Proofs.Text.Utf8

/-!
# Rows of a text and of its bytes

A row ends after a line feed, in a text and in its bytes. The beginning of a text ends in the same
row as its bytes do, and the lines of the whole text hold the beginning before the position where it
ends.
-/

set_option autoImplicit false

namespace Enclosure

/-- The row and the column at which some symbols end, when a row ends after every line feed. -/
def endOf {α : Type} [DecidableEq α] (lineFeed : α) : List α → Nat × Nat
  | [] => (0, 0)
  | a :: rest =>
    if a = lineFeed then ((endOf lineFeed rest).1 + 1, (endOf lineFeed rest).2)
    else if (endOf lineFeed rest).1 = 0 then (0, (endOf lineFeed rest).2 + 1)
    else endOf lineFeed rest

section

variable {α : Type} [DecidableEq α] {lineFeed a : α} {rest : List α}

/-- A line feed in front moves the end down by one row. -/
theorem endOf_cons_self :
    endOf lineFeed (lineFeed :: rest) =
      ((endOf lineFeed rest).1 + 1, (endOf lineFeed rest).2) :=
  if_pos rfl

/-- Another item in front of a single row moves its end on by one. -/
theorem endOf_cons_of_row_eq_zero (ha : a ≠ lineFeed) (h : (endOf lineFeed rest).1 = 0) :
    endOf lineFeed (a :: rest) = (0, (endOf lineFeed rest).2 + 1) := by
  rw [endOf, if_neg ha, if_pos h]

/-- Another item in front of several rows leaves the end where it is. -/
theorem endOf_cons_of_row_ne_zero (ha : a ≠ lineFeed) (h : (endOf lineFeed rest).1 ≠ 0) :
    endOf lineFeed (a :: rest) = endOf lineFeed rest := by
  rw [endOf, if_neg ha, if_neg h]

/-- Symbols other than line feeds are counted in the first row and in no other. -/
theorem endOf_append_of_not_mem {xs : List α} (h : lineFeed ∉ xs) (rest : List α) :
    endOf lineFeed (xs ++ rest) =
      if (endOf lineFeed rest).1 = 0 then (0, (endOf lineFeed rest).2 + xs.length)
      else endOf lineFeed rest := by
  induction xs with
  | nil =>
    rw [List.nil_append, List.length_nil, Nat.add_zero]
    split
    · next hzero => rw [← hzero]
    · rfl
  | cons x xs ih =>
    have hx : x ≠ lineFeed := fun heq => h (heq ▸ List.mem_cons_self)
    have htail := ih fun hmem => h (List.mem_cons_of_mem x hmem)
    by_cases hzero : (endOf lineFeed rest).1 = 0
    · rw [if_pos hzero] at htail ⊢
      rw [List.cons_append, endOf_cons_of_row_eq_zero hx (by rw [htail]), htail, List.length_cons,
        Nat.add_assoc]
    · rw [if_neg hzero] at htail ⊢
      rw [List.cons_append, endOf_cons_of_row_ne_zero hx (by rwa [htail]), htail]

/-- Without a line feed, the end lies in the first row, behind all items. -/
theorem endOf_of_not_mem {xs : List α} (h : lineFeed ∉ xs) :
    endOf lineFeed xs = (0, xs.length) := by
  have hend := endOf_append_of_not_mem h []
  rw [List.append_nil, endOf, if_pos rfl, Nat.zero_add] at hend
  exact hend

end

/-- The bytes of characters end in the row in which the characters end. -/
theorem endOf_encodeChars_row (cs : List Char) :
    (endOf 10 (Utf8.encodeChars cs)).1 = (endOf '\n' cs).1 := by
  induction cs with
  | nil => rfl
  | cons c cs ih =>
    rw [Utf8.encodeChars_cons]
    by_cases hc : c = '\n'
    · rw [hc, Utf8.encodeChar_lineFeed, List.singleton_append, endOf_cons_self, endOf_cons_self, ih]
    · have hbytes : (10 : UInt8) ∉ Utf8.encodeChar c := mt Utf8.lineFeed_mem_encodeChar_iff.mp hc
      rw [endOf_append_of_not_mem hbytes]
      by_cases hzero : (endOf '\n' cs).1 = 0
      · rw [if_pos (by omega), endOf_cons_of_row_eq_zero hc hzero]
      · rw [if_neg (by omega), endOf_cons_of_row_ne_zero hc hzero, ih]

namespace Lines

/-- The lines of a text hold its beginning before the position where this ends. -/
theorem take_splitChars_append (cs rest : List Char) :
    ((splitChars (cs ++ rest)).take (endOf '\n' cs).1).flatten ++
        ((splitChars (cs ++ rest))[(endOf '\n' cs).1]?.getD []).take (endOf '\n' cs).2 = cs := by
  induction cs with
  | nil => rfl
  | cons c cs ih =>
    rw [List.cons_append, splitChars_cons]
    unfold consChar
    by_cases hc : c = '\n'
    · rw [if_pos hc, hc, endOf_cons_self, List.take_succ_cons, List.flatten_cons,
        List.getElem?_cons_succ, List.append_assoc, ih]
      rfl
    · rw [if_neg hc]
      cases hlines : splitChars (cs ++ rest) with
      | nil =>
        -- no lines, so no characters were left
        rw [hlines, List.take_nil, List.getElem?_nil] at ih
        rw [← ih]
        simp [endOf, hc]
      | cons line lines =>
        rw [hlines] at ih
        by_cases hzero : (endOf '\n' cs).1 = 0
        · rw [hzero] at ih
          rw [endOf_cons_of_row_eq_zero hc hzero]
          exact congrArg (c :: ·) ih
        · obtain ⟨row, hrow⟩ := Nat.exists_eq_succ_of_ne_zero hzero
          rw [endOf_cons_of_row_ne_zero hc hzero]
          rw [hrow, List.take_succ_cons, List.getElem?_cons_succ, List.flatten_cons,
            List.append_assoc] at ih ⊢
          exact congrArg (c :: ·) ih

end Lines

namespace Excerpt

/-- The characters before the position at which the beginning of a text ends are this beginning. -/
theorem upTo_split {text : String} {cs : List Char} (h : cs <+: text.toList) :
    upTo (Lines.split text) ⟨(endOf '\n' cs).1, (endOf '\n' cs).2⟩ = cs := by
  obtain ⟨rest, hrest⟩ := h
  have hlines : Lines.split text = (Lines.splitChars (cs ++ rest)).map String.ofList := by
    rw [Lines.split, hrest]
  have hline : lineAt (Lines.split text) (endOf '\n' cs).1 =
      (Lines.splitChars (cs ++ rest))[(endOf '\n' cs).1]?.getD [] := by
    rw [lineAt, if_pos (Int.natCast_nonneg _), Int.toNat_natCast, hlines, List.getElem?_map]
    cases (Lines.splitChars (cs ++ rest))[(endOf '\n' cs).1]? with
    | none => rfl
    | some line => exact String.toList_ofList
  have hbefore : ((Lines.split text).take (endOf '\n' cs).1).flatMap String.toList =
      ((Lines.splitChars (cs ++ rest)).take (endOf '\n' cs).1).flatten := by
    rw [hlines, ← List.map_take, List.flatMap_map]
    simp only [String.toList_ofList, List.flatMap_id']
  rw [upTo]
  simp only [Int.toNat_natCast]
  rw [hline, hbefore]
  exact Lines.take_splitChars_append cs rest

end Excerpt

end Enclosure
