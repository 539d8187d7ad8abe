import Enclosure.Text.Excerpt
import Mathlib.Data.List.Basic

/-!
# Excerpts between positions

The characters before a position are the lines above its row and the head of its row. A range takes
these from its start to its stop: the characters before its start, then its excerpt, are the
characters before its stop, for any lines and wherever the range lies.
-/

set_option autoImplicit false

namespace Enclosure.Excerpt

/-- The characters before a position. -/
def upTo (lines : List String) (p : Position) : List Char :=
  (lines.take p.line.toNat).flatMap String.toList ++ (lineAt lines p.line).take p.column.toNat

/-- There is no line at a negative row. -/
theorem lineAt_of_neg (lines : List String) {row : Int} (h : row < 0) : lineAt lines row = [] :=
  if_neg (by omega)

/-- The lines before a row and the line at it are the lines up to it. -/
theorem flatMap_take_append_lineAt (lines : List String) (row : Int) :
    (lines.take row.toNat).flatMap String.toList ++ lineAt lines row =
      (lines.take (row + 1).toNat).flatMap String.toList := by
  by_cases hrow : 0 ≤ row
  · have hnext : (row + 1).toNat = row.toNat + 1 := by omega
    rw [hnext, List.take_add_one, List.flatMap_append, lineAt, if_pos hrow]
    congr 1
    cases lines[row.toNat]? with
    | none => rfl
    | some line => exact (List.append_nil _).symm
  · have hzero : (row + 1).toNat = row.toNat := by omega
    rw [hzero, lineAt_of_neg lines (by omega), List.append_nil]

/-- The lines above a later row are those above an earlier one, that row, and the lines between. -/
theorem flatMap_take_append_between (lines : List String) {first last : Int} (h : first < last) :
    (lines.take first.toNat).flatMap String.toList ++
        (lineAt lines first ++ between lines first last) =
      (lines.take last.toNat).flatMap String.toList := by
  have hle : (first + 1).toNat ≤ last.toNat := by omega
  have htake : (lines.take last.toNat).take (first + 1).toNat = lines.take (first + 1).toNat := by
    rw [List.take_take, Nat.min_eq_left hle]
  rw [← List.append_assoc, flatMap_take_append_lineAt, between, ← htake, ← List.flatMap_append,
    List.take_append_drop]

/-- The characters before the start of a range and its excerpt are the characters before its
stop. -/
theorem upTo_append_chars (lines : List String) (r : CursorRange) :
    upTo lines r.start ++ chars lines r = upTo lines r.stop := by
  have hle := Position.le_def.mp r.start_le_stop
  unfold upTo chars
  by_cases hrow : r.start.line = r.stop.line
  · have hcolumn : r.start.column.toNat ≤ r.stop.column.toNat := by omega
    rw [if_pos hrow, ← hrow, List.append_assoc]
    congr 1
    have htake : (lineAt lines r.start.line).take r.start.column.toNat =
        ((lineAt lines r.start.line).take r.stop.column.toNat).take r.start.column.toNat := by
      rw [List.take_take, Nat.min_eq_left hcolumn]
    rw [htake, List.take_append_drop]
  · have hlt : r.start.line < r.stop.line := by omega
    rw [if_neg hrow, ← flatMap_take_append_between lines hlt]
    simp only [List.append_assoc]
    rw [← List.append_assoc (List.take _ _) (List.drop _ _), List.take_append_drop]

/-- A range covers, among what a range around it covers, some characters in a row. -/
theorem chars_infix_of_contains (lines : List String) {outer inner : CursorRange}
    (h : outer.Contains inner) : chars lines inner <:+: chars lines outer := by
  have hbefore := upTo_append_chars lines ⟨outer.start, inner.start, h.1⟩
  have hinner := upTo_append_chars lines inner
  have hafter := upTo_append_chars lines ⟨inner.stop, outer.stop, h.2⟩
  have houter := upTo_append_chars lines outer
  dsimp only at hbefore hafter
  have hcover : upTo lines outer.start ++ (chars lines ⟨outer.start, inner.start, h.1⟩ ++
      chars lines inner ++ chars lines ⟨inner.stop, outer.stop, h.2⟩) =
        upTo lines outer.start ++ chars lines outer := by
    rw [houter, ← hafter, ← hinner, ← hbefore]
    simp only [List.append_assoc]
  exact ⟨_, _, List.append_cancel_left hcover⟩

end Enclosure.Excerpt
