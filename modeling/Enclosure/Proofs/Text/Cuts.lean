import Enclosure.Proofs.Text.Excerpt
import Enclosure.Proofs.Text.Lines

/-!
# Cutting a text

Positions in document order cut a text into the excerpts between one position and the next. Each
excerpt takes the characters from the first to the second position, so the excerpts of consecutive
ranges join to what lies between the first and the last cut; if these are the two ends of the text,
nothing is lost and nothing is taken twice.
-/

set_option autoImplicit false

namespace Enclosure

namespace CursorRange

/-- The ranges from every position to the next one. -/
def consecutive : List Position → Except ReversedRange (List CursorRange)
  | p :: q :: cuts => do
    let first ← between p q
    let others ← consecutive (q :: cuts)
    return first :: others
  | _ => return []

/-- Between positions in document order there is one range from each position to the next. -/
theorem exists_consecutive_eq_ok {p : Position} {cuts : List Position}
    (h : (p :: cuts).IsChain (· ≤ ·)) :
    ∃ ranges, consecutive (p :: cuts) = .ok ranges ∧
      ranges.map start = (p :: cuts).dropLast ∧ ranges.map stop = cuts := by
  induction cuts generalizing p with
  | nil => exact ⟨[], rfl, rfl, rfl⟩
  | cons q cuts ih =>
    obtain ⟨hpq, hcuts⟩ := List.isChain_cons_cons.mp h
    obtain ⟨ranges, hranges, hstart, hstop⟩ := ih hcuts
    have hfirst : between p q = .ok ⟨p, q, hpq⟩ := dif_pos hpq
    refine ⟨⟨p, q, hpq⟩ :: ranges, ?_, ?_, ?_⟩
    · rw [consecutive, hfirst]
      change (consecutive (q :: cuts) >>= _) = _
      rw [hranges]
      rfl
    · rw [List.map_cons, hstart, List.dropLast_cons_cons]
    · rw [List.map_cons, hstop]

end CursorRange

namespace Excerpt

/-- Nothing stands before the origin. -/
theorem upTo_of_le_origin (lines : List String) {p : Position} (h : p ≤ ⟨0, 0⟩) :
    upTo lines p = [] := by
  rw [Position.le_def] at h
  dsimp only at h
  have hline : p.line.toNat = 0 := by omega
  rw [upTo, hline, List.take_zero, List.flatMap_nil, List.nil_append]
  by_cases hneg : p.line < 0
  · rw [lineAt_of_neg lines hneg, List.take_nil]
  · have hcolumn : p.column.toNat = 0 := by omega
    rw [hcolumn, List.take_zero]

/-- There is no line at a row past the last one. -/
theorem lineAt_of_length_le (lines : List String) {row : Int} (h : (lines.length : Int) ≤ row) :
    lineAt lines row = [] := by
  have hrow : lines[row.toNat]? = none := List.getElem?_eq_none (by omega)
  rw [lineAt, if_pos (by omega), hrow]
  rfl

/-- Everything stands before the end. -/
theorem upTo_of_end_le (lines : List String) {p : Position} (h : ⟨lines.length, 0⟩ ≤ p) :
    upTo lines p = lines.flatMap String.toList := by
  rw [Position.le_def] at h
  dsimp only at h
  have hline : (lines.length : Int) ≤ p.line := by omega
  rw [upTo, lineAt_of_length_le lines hline, List.take_nil, List.append_nil,
    List.take_of_length_le (by omega)]

/-- The characters before the first cut and the excerpts of the ranges from each cut to the next are
the characters before the last cut. -/
theorem upTo_append_flatMap_chars (lines : List String) {p : Position} {cuts : List Position}
    {ranges : List CursorRange} (hstart : ranges.map CursorRange.start = (p :: cuts).dropLast)
    (hstop : ranges.map CursorRange.stop = cuts) :
    upTo lines p ++ ranges.flatMap (chars lines) =
      upTo lines ((p :: cuts).getLast (List.cons_ne_nil p cuts)) := by
  induction cuts generalizing p ranges with
  | nil =>
    obtain rfl := List.map_eq_nil_iff.mp hstop
    rw [List.flatMap_nil, List.append_nil, List.getLast_singleton]
  | cons q cuts ih =>
    obtain ⟨r, ranges, rfl, hq, hrest⟩ := List.map_eq_cons_iff.mp hstop
    rw [List.map_cons, List.dropLast_cons_cons, List.cons.injEq] at hstart
    obtain ⟨hp, hstart⟩ := hstart
    -- the first excerpt leads from what is before `p` to what is before `q`
    have hstep := upTo_append_chars lines r
    rw [hp, hq] at hstep
    rw [List.flatMap_cons, ← List.append_assoc, hstep, ih hstart hrest, List.getLast_cons_cons]

/-- For every text and positions in document order of which the first is not behind the beginning
and the last not before the end, the ranges from each position to the next exist and their excerpts
join to the text. -/
theorem join_consecutive (text : String) (cuts : List Position) (hcuts : cuts.IsChain (· ≤ ·))
    (hfirst : ∃ p ∈ cuts.head?, p ≤ ⟨0, 0⟩)
    (hlast : ∃ p ∈ cuts.getLast?, ⟨(Lines.split text).length, 0⟩ ≤ p) :
    ∃ ranges, CursorRange.consecutive cuts = .ok ranges ∧
      ranges.map CursorRange.start = cuts.dropLast ∧ ranges.map CursorRange.stop = cuts.tail ∧
      String.join (ranges.map (Excerpt.text (Lines.split text))) = text := by
  obtain ⟨first, hmem, hfirst⟩ := hfirst
  obtain ⟨rest, rfl⟩ := List.head?_eq_some_iff.mp hmem
  obtain ⟨last, hmem, hlast⟩ := hlast
  rw [List.getLast?_eq_some_getLast (List.cons_ne_nil first rest)] at hmem
  obtain rfl := Option.some.inj hmem
  obtain ⟨ranges, hranges, hstart, hstop⟩ := CursorRange.exists_consecutive_eq_ok hcuts
  have hjoin := upTo_append_flatMap_chars (Lines.split text) hstart hstop
  rw [upTo_of_le_origin _ hfirst, List.nil_append, upTo_of_end_le _ hlast,
    Lines.flatMap_toList_split] at hjoin
  refine ⟨ranges, hranges, hstart, hstop, ?_⟩
  rw [← String.toList_inj, String.toList_join, List.flatMap_map, ← hjoin]
  simp only [Excerpt.text, String.toList_ofList]

/-- Cuts before the text, within a row, behind its line feed, at a row's beginning and behind the
text. -/
def unevenCuts : List Position :=
  [⟨-3, 7⟩, ⟨0, -2⟩, ⟨0, 1⟩, ⟨0, 9⟩, ⟨1, 0⟩, ⟨5, -1⟩]

/-- Excerpts between cuts that leave the text and repeat each other join to the text. -/
theorem join_consecutive_unevenCuts :
    unevenCuts.IsChain (· ≤ ·) ∧ (∃ p ∈ unevenCuts.head?, p ≤ ⟨0, 0⟩) ∧
      (∃ p ∈ unevenCuts.getLast?, ⟨(Lines.split "é\nb").length, 0⟩ ≤ p) ∧
      ∃ ranges, CursorRange.consecutive unevenCuts = .ok ranges ∧ ranges.length = 5 ∧
        String.join (ranges.map (Excerpt.text (Lines.split "é\nb"))) = "é\nb" := by
  have hcuts : unevenCuts.IsChain (· ≤ ·) := by decide
  have hfirst : ∃ p ∈ unevenCuts.head?, p ≤ ⟨0, 0⟩ := ⟨⟨-3, 7⟩, rfl, by decide⟩
  have hlast : ∃ p ∈ unevenCuts.getLast?, ⟨(Lines.split "é\nb").length, 0⟩ ≤ p :=
    ⟨⟨5, -1⟩, rfl, by decide⟩
  obtain ⟨ranges, hranges, -, hstop, hjoin⟩ := join_consecutive "é\nb" unevenCuts hcuts hfirst hlast
  refine ⟨hcuts, hfirst, hlast, ranges, hranges, ?_, hjoin⟩
  rw [← List.length_map CursorRange.stop, hstop]
  rfl

end Excerpt

end Enclosure
