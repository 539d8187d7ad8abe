import Enclosure.Proofs.Text.Cuts

/-!
# Excerpts as slices

Every position has an offset in the lines joined to one text. Above the first row it is zero, after
the last row it is the length of the text, and in a row it is the length of the rows above and the
column, as far as the row reaches. The characters before a position are the text up to its offset,
so offsets grow with positions and the excerpt of a range is the slice of the text between the
offsets of its two ends.
-/

set_option autoImplicit false

namespace Enclosure.Excerpt

/-- The offset of a position in the text that lines join to. -/
def offset (lines : List String) (p : Position) : Nat :=
  if p.line < 0 then 0
  else if h : p.line.toNat < lines.length then
    (String.join (lines.take p.line.toNat)).length +
      min p.column.toNat lines[p.line.toNat].length
  else (String.join lines).length

/-- As many characters come before a position as its offset says. -/
theorem length_upTo (lines : List String) (p : Position) :
    (upTo lines p).length = offset lines p := by
  unfold offset
  by_cases hneg : p.line < 0
  · have hbefore : p ≤ ⟨0, 0⟩ := Position.le_def.mpr (Or.inl hneg)
    rw [if_pos hneg, upTo_of_le_origin lines hbefore, List.length_nil]
  · rw [if_neg hneg]
    by_cases hrow : p.line.toNat < lines.length
    · have hline : lineAt lines p.line = lines[p.line.toNat].toList := by
        rw [lineAt, if_pos (by omega), List.getElem?_eq_getElem hrow]
        rfl
      rw [dif_pos hrow, upTo, hline, List.length_append, List.length_take, String.length_toList,
        ← String.toList_join, String.length_toList]
    · have hend : (⟨lines.length, 0⟩ : Position) ≤ ⟨p.line + 1, 0⟩ := by
        rw [Position.le_def]
        dsimp only
        omega
      have hafter : lineAt lines p.line = [] := lineAt_of_length_le lines (by omega)
      rw [dif_neg hrow, upTo, hafter, List.take_nil, List.append_nil,
        List.take_of_length_le (by omega), ← String.toList_join, String.length_toList]

/-- What comes before a position is a beginning of the text. -/
theorem upTo_prefix_join (lines : List String) (p : Position) :
    upTo lines p <+: (String.join lines).toList := by
  have hle : p ≤ ⟨max p.line lines.length + 1, 0⟩ := by
    rw [Position.le_def]
    dsimp only
    omega
  have hend : (⟨lines.length, 0⟩ : Position) ≤ ⟨max p.line lines.length + 1, 0⟩ := by
    rw [Position.le_def]
    dsimp only
    omega
  have hwhole := upTo_append_chars lines ⟨p, _, hle⟩
  dsimp only at hwhole
  rw [upTo_of_end_le lines hend, ← String.toList_join] at hwhole
  exact ⟨_, hwhole⟩

/-- What stands before a position is as much of the text as its offset. -/
theorem upTo_eq_take (lines : List String) (p : Position) :
    upTo lines p = (String.join lines).toList.take (offset lines p) := by
  rw [← length_upTo]
  exact List.prefix_iff_eq_take.mp (upTo_prefix_join lines p)

/-- No offset is greater than the length of the text. -/
theorem offset_le_length (lines : List String) (p : Position) :
    offset lines p ≤ (String.join lines).length := by
  rw [← length_upTo, ← String.length_toList]
  exact (upTo_prefix_join lines p).length_le

/-- A position that does not come before another one has no smaller offset. -/
theorem offset_le_offset (lines : List String) {p q : Position} (h : p ≤ q) :
    offset lines p ≤ offset lines q := by
  rw [← length_upTo, ← length_upTo, ← upTo_append_chars lines ⟨p, q, h⟩, List.length_append]
  exact Nat.le_add_right _ _

/-- The characters of an excerpt are those between the offsets of its ends. -/
theorem chars_eq_slice (lines : List String) (r : CursorRange) :
    chars lines r =
      ((String.join lines).toList.take (offset lines r.stop)).drop (offset lines r.start) := by
  rw [← upTo_eq_take, ← upTo_append_chars, ← length_upTo, List.drop_left]

/-- For any lines and any range, inside the lines or not, the excerpt is the slice of the joined
lines from the offset of the start to the offset of the stop. Offsets do not decrease from one
position to a later one and stay within the text, so the slice is always one. -/
theorem text_eq_slice (lines : List String) (r : CursorRange) :
    text lines r = String.ofList
        (((String.join lines).toList.take (offset lines r.stop)).drop (offset lines r.start)) ∧
      (∀ p q : Position, p ≤ q → offset lines p ≤ offset lines q) ∧
      offset lines r.start ≤ offset lines r.stop ∧
      offset lines r.stop ≤ (String.join lines).length := by
  refine ⟨?_, ?_, ?_, ?_⟩
  · rw [text, chars_eq_slice]
  · intro p q h
    exact offset_le_offset lines h
  · exact offset_le_offset lines r.start_le_stop
  · exact offset_le_length lines r.stop

/-- From before the first row to far behind the end of the last but one: a column there counts no
more than the characters of its row. -/
theorem text_eq_slice_unevenLines :
    let lines := ["é\n", "b", "cd\n"]
    let r : CursorRange := ⟨⟨-1, 9⟩, ⟨1, 7⟩, by decide⟩
    offset lines r.start = 0 ∧ offset lines r.stop = 3 ∧ text lines r = "é\nb" ∧
      (⟨1, 7⟩ : Position) ≤ ⟨2, -4⟩ ∧ offset lines ⟨1, 7⟩ ≤ offset lines ⟨2, -4⟩ := by
  intro lines r
  obtain ⟨htext, hmono, -, -⟩ := text_eq_slice lines r
  have hle : (⟨1, 7⟩ : Position) ≤ ⟨2, -4⟩ := by decide
  have hstart : offset lines r.start = 0 := rfl
  have hstop : offset lines r.stop = 3 := by decide
  have hslice : String.ofList (((String.join lines).toList.take 3).drop 0) = "é\nb" := by decide
  rw [hstart, hstop, hslice] at htext
  exact ⟨hstart, hstop, htext, hle, hmono _ _ hle⟩

end Enclosure.Excerpt
