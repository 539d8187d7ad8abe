import Enclosure.Proofs.CursorRange
import Enclosure.Proofs.Text.Lines
import Enclosure.Text.Excerpt

/-!
# Lines above a text

Lines that all end in a line feed can be put above a text: they become lines of the whole text, and
the lines of the text come after them unchanged. A range of the text, moved down by the number of
lines above, covers the same characters as before, also where it runs past the end.
-/

set_option autoImplicit false

namespace Enclosure

namespace Lines

/-- A line that ends in a line feed and has no other. -/
def Ended (line : String) : Prop :=
  ∃ body, '\n' ∉ body ∧ line.toList = body ++ ['\n']

/-- Characters without a line feed, and then a line feed, are the first line of a text. -/
theorem splitChars_line_append {body : List Char} (h : '\n' ∉ body) (rest : List Char) :
    splitChars (body ++ '\n' :: rest) = (body ++ ['\n']) :: splitChars rest := by
  rw [splitChars_eq_cutAfter, splitChars_eq_cutAfter, cutAfter_append h]

/-- Lines above a text stay lines, and so do the lines of the text. -/
theorem split_join_append {above : List String} (h : ∀ line ∈ above, Ended line) (text : String) :
    split (String.join above ++ text) = above ++ split text := by
  induction above with
  | nil =>
    rw [List.nil_append, String.join_nil, String.empty_append]
  | cons line above ih =>
    obtain ⟨body, hbody, hline⟩ := h line List.mem_cons_self
    have htail := ih fun l hl => h l (List.mem_cons_of_mem line hl)
    have hchars : (String.join (line :: above) ++ text).toList =
        body ++ '\n' :: (String.join above ++ text).toList := by
      rw [String.join_cons, String.append_assoc, String.toList_append, hline, List.append_assoc,
        List.singleton_append]
    rw [List.cons_append, ← htail, split, hchars, splitChars_line_append hbody, List.map_cons,
      ← hline, String.ofList_toList, split]

end Lines

namespace Excerpt

variable (above lines : List String)

/-- With lines above, a line moves down by their number. -/
theorem lineAt_append {row : Int} (h : 0 ≤ row) :
    lineAt (above ++ lines) (row + above.length) = lineAt lines row := by
  have hindex : (row + above.length).toNat = above.length + row.toNat := by omega
  rw [lineAt, lineAt, if_pos (by omega), if_pos h, hindex, List.getElem?_append_right (by omega),
    Nat.add_sub_cancel_left]

/-- With lines above, the lines between two rows move down by their number. -/
theorem between_append {first last : Int} (hfirst : 0 ≤ first) (hlast : 0 ≤ last) :
    between (above ++ lines) (first + above.length) (last + above.length) =
      between lines first last := by
  have hdrop : (first + above.length + 1).toNat = above.length + (first + 1).toNat := by omega
  have htake : (last + above.length).toNat = above.length + last.toNat := by omega
  rw [between, between, hdrop, htake, List.take_length_add_append, List.drop_length_add_append]

/-- A range that does not start above the first row covers the same characters when lines are put
above and the range is moved down. -/
theorem chars_down {r : CursorRange} (h : 0 ≤ r.start.line) :
    chars (above ++ lines) (r.down above.length) = chars lines r := by
  have hle := Position.le_def.mp r.start_le_stop
  have hstop : 0 ≤ r.stop.line := by omega
  unfold chars CursorRange.down Position.down
  dsimp only
  rw [lineAt_append above lines h, lineAt_append above lines hstop,
    between_append above lines h hstop]
  by_cases hrow : r.start.line = r.stop.line
  · rw [if_pos hrow, if_pos (by omega)]
  · rw [if_neg hrow, if_neg (by omega)]

/-- With lines above, an excerpt is that of the range moved down. -/
theorem text_down {r : CursorRange} (h : 0 ≤ r.start.line) :
    text (above ++ lines) (r.down above.length) = text lines r := by
  rw [text, text, chars_down above lines h]

end Excerpt

end Enclosure
