import Enclosure.Proofs.Parse.CharColumn
import Enclosure.Proofs.Text.Lines

/-!
# Rows of bytes and lines of text

A parser counts the rows of the bytes of a text, which stand between line feeds; a reader counts the
lines of the text, which keep their line feeds, and an empty piece at the end is no line. Both count
alike: every line without its line feed, in bytes, is the row of the same number, and behind the
rows of the lines there is an empty one exactly where the text holds nothing or ends in a line feed.
-/

set_option autoImplicit false

namespace Enclosure

namespace Lines

/-- A line without the line feed at its end. -/
def bare (line : List Char) : List Char :=
  if line.getLast? = some '\n' then line.dropLast else line

/-- A line without a line feed is bare. -/
theorem bare_of_not_mem {body : List Char} (h : '\n' ∉ body) : bare body = body :=
  if_neg fun hlast => h (List.mem_of_getLast? hlast)

/-- Without the line feed at its end, a line is bare. -/
theorem bare_append_feed (body : List Char) : bare (body ++ ['\n']) = body := by
  rw [bare, if_pos List.getLast?_concat, List.dropLast_concat]

/-- The rows of some characters are their lines without the line feeds, and an empty row if nothing
comes after the last line feed. -/
theorem splitOn_eq_map_bare (cs : List Char) :
    cs.splitOn '\n' =
      (splitChars cs).map bare ++ if cs = [] ∨ cs.getLast? = some '\n' then [[]] else [] := by
  rw [splitChars_eq_cutAfter]
  induction cs using lines_induction '\n' with
  | last body hbody =>
    rw [List.splitOn_eq_singleton hbody, cutAfter_of_not_mem hbody]
    by_cases hnil : body = []
    · rw [if_pos hnil, if_pos (Or.inl hnil), hnil]
      rfl
    · have hlast : body.getLast? ≠ some '\n' := fun h => hbody (List.mem_of_getLast? h)
      rw [if_neg hnil, if_neg (not_or.mpr ⟨hnil, hlast⟩), List.map_singleton, List.append_nil,
        bare_of_not_mem hbody]
  | line body rest hbody ih =>
    -- the end of the whole is the end of the rest, or the line feed before an empty rest
    have hend : (body ++ '\n' :: rest = [] ∨ (body ++ '\n' :: rest).getLast? = some '\n') ↔
        (rest = [] ∨ rest.getLast? = some '\n') := by
      cases rest <;> simp
    rw [List.splitOn_append_cons_self_of_not_mem hbody, ih, cutAfter_append hbody, List.map_cons,
      bare_append_feed, List.cons_append]
    simp only [hend]

end Lines

namespace ColumnMap

/-- The rows are the bare lines, and one empty row more if the text is empty or ends in a line feed.
-/
theorem rows_eq_map_split (text : String) :
    (ofBytes (Utf8.encode text)).rows =
      (Lines.split text).map (fun line => Utf8.encodeChars (Lines.bare line.toList)) ++
        if text = "" ∨ text.toList.getLast? = some '\n' then [[]] else [] := by
  have hnil : text.toList = [] ↔ text = "" := String.toList_eq_nil_iff
  rw [rows_ofBytes_encode, Lines.rows, Lines.splitOn_eq_map_bare, List.map_append, List.map_map,
    Lines.split, List.map_map]
  simp only [hnil, apply_ite (List.map Utf8.encodeChars), List.map_singleton, List.map_nil,
    Utf8.encodeChars_nil, Function.comp_def, String.toList_ofList]

/-- Every line of a text, without its line feed and in bytes, is the row of its number. Exactly one
more row comes after them, an empty one, if the text is empty or ends in a line feed, and none
otherwise. -/
theorem rows_agree_with_lines (text : String) :
    let rows := (ofBytes (Utf8.encode text)).rows
    let lines := Lines.split text
    (∀ (i : Nat) (line : String), lines[i]? = some line →
        rows[i]? = some (Utf8.encodeChars (Lines.bare line.toList))) ∧
      (rows.drop lines.length = [[]] ↔ text = "" ∨ text.toList.getLast? = some '\n') ∧
      (rows.drop lines.length = [] ↔ ¬ (text = "" ∨ text.toList.getLast? = some '\n')) := by
  intro rows lines
  have hrows : rows = _ := rows_eq_map_split text
  have hdrop : rows.drop lines.length =
      if text = "" ∨ text.toList.getLast? = some '\n' then [[]] else [] := by
    rw [hrows]
    exact List.drop_left' (List.length_map _)
  refine ⟨?_, ?_⟩
  · intro i line hline
    have hi : i < lines.length := (List.getElem?_eq_some_iff.mp hline).1
    rw [hrows, List.getElem?_append_left (by rwa [List.length_map]),
      List.getElem?_map, hline, Option.map_some]
  · rw [hdrop]
    by_cases hend : text = "" ∨ text.toList.getLast? = some '\n'
    · rw [if_pos hend]
      exact ⟨iff_of_true rfl hend, iff_of_false (List.cons_ne_nil [] []) (not_not_intro hend)⟩
    · rw [if_neg hend]
      exact ⟨iff_of_false (List.cons_ne_nil [] []).symm hend, iff_of_true rfl hend⟩

/-- A character of two bytes and a carriage return stand in the first row, and an empty row comes
after the second line. -/
theorem rows_agree_with_lines_emptyLast :
    let rows := (ofBytes (Utf8.encode "é\r\n\n")).rows
    let lines := Lines.split "é\r\n\n"
    lines = ["é\r\n", "\n"] ∧ rows[0]? = some [0xC3, 0xA9, 0x0D] ∧ rows[1]? = some [] ∧
      rows.drop lines.length = [[]] := by
  intro rows lines
  have hlines : lines = ["é\r\n", "\n"] := by decide
  obtain ⟨hrows, hmore, -⟩ := rows_agree_with_lines "é\r\n\n"
  have hfirst := hrows 0 "é\r\n" (by decide)
  have hsecond := hrows 1 "\n" (by decide)
  refine ⟨hlines, hfirst.trans (by decide), hsecond.trans (by decide), hmore.mpr (by decide)⟩

end ColumnMap

end Enclosure
