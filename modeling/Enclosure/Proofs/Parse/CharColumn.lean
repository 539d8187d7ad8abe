import Enclosure.Proofs.Parse.ColumnMap

/-!
# Character columns within rows

The rows of a column map are the rows of the text, encoded. Within a row a byte column becomes the
greatest number of characters that its bytes have room for: at the end of a character the number of
characters up to there, inside a character the number of those before it. On a row of ASCII, where
bytes are not decoded, decoding them would give the same.
-/

set_option autoImplicit false

namespace Enclosure

/-- The rows of a text without their line feeds: one more than there are line feeds. -/
def Lines.rows (text : String) : List (List Char) :=
  text.toList.splitOn '\n'

namespace ColumnMap

/-- The rows of the bytes of a text are the bytes of its rows. -/
theorem splitRows_encodeChars (cs : List Char) :
    splitRows (Utf8.encodeChars cs) = (cs.splitOn '\n').map Utf8.encodeChars := by
  induction cs with
  | nil => rfl
  | cons c cs ih =>
    rw [Utf8.encodeChars_cons, List.splitOn_cons_eq_if_modifyHead]
    by_cases hc : c = '\n'
    · rw [hc, Utf8.encodeChar_lineFeed, List.singleton_append, splitRows_lineFeed_cons, ih]
      rfl
    · have hfeed : (10 : UInt8) ∉ Utf8.encodeChar c := mt Utf8.lineFeed_mem_encodeChar_iff.mp hc
      rw [if_neg (by simpa using hc)]
      cases hrows : cs.splitOn '\n' with
      | nil => exact absurd hrows (List.splitOn_ne_nil '\n' cs)
      | cons row rows =>
        rw [hrows, List.map_cons] at ih
        rw [splitRows_append_of_not_mem hfeed ih, List.modifyHead_cons, List.map_cons,
          Utf8.encodeChars_cons]

/-- The rows of a column map are the bytes of the rows of the text. -/
theorem rows_ofBytes_encode (text : String) :
    (ofBytes (Utf8.encode text)).rows = (Lines.rows text).map Utf8.encodeChars :=
  splitRows_encodeChars text.toList

variable {text : String} {i : Nat} {row : List Char}

/-- Up to the end of a row, a byte column becomes the number of characters that are read before it.
-/
theorem charColumn_of_row (hrow : (Lines.rows text)[i]? = some row) {b : Nat}
    (hb : b ≤ Utf8.byteCount row) :
    (ofBytes (Utf8.encode text)).charColumn ⟨i, b⟩ =
      (Utf8.decodeLenient ((Utf8.encodeChars row).take b)).length := by
  rw [charColumn, rows_ofBytes_encode, List.getElem?_map, hrow, Option.map_some]
  exact charColumnIn_eq_length hb

/-- In a row of ASCII bytes, as many characters are read as there are bytes. -/
theorem length_decodeLenient_take_of_isAscii {bytes : List UInt8} (h : isAscii bytes = true)
    {b : Nat} (hb : b ≤ bytes.length) : (Utf8.decodeLenient (bytes.take b)).length = b := by
  rw [← charColumnIn_eq_length hb]
  exact if_pos h

/-- On every row of a text, a byte column up to the end of the row becomes the greatest number of
characters of the row that so many bytes have room for. So a column at the end of a character
becomes the number of characters up to there, one inside a character the number of those before it,
and on a row of ASCII a column, which stays as it is, is what decoding its bytes would give. -/
theorem charColumn_isGreatest (hrow : (Lines.rows text)[i]? = some row) :
    let columns := ofBytes (Utf8.encode text)
    columns.rows = (Lines.rows text).map Utf8.encodeChars ∧
      (∀ b ≤ Utf8.byteCount row,
        IsGreatest {c | c ≤ row.length ∧ Utf8.byteCount (row.take c) ≤ b}
          (columns.charColumn ⟨i, b⟩)) ∧
      (∀ c ≤ row.length, columns.charColumn ⟨i, Utf8.byteCount (row.take c)⟩ = c) ∧
      (∀ c < row.length, ∀ b, Utf8.byteCount (row.take c) < b →
        b < Utf8.byteCount (row.take (c + 1)) → columns.charColumn ⟨i, b⟩ = c) ∧
      (isAscii (Utf8.encodeChars row) = true → ∀ b ≤ Utf8.byteCount row,
        columns.charColumn ⟨i, b⟩ = b ∧
          (Utf8.decodeLenient ((Utf8.encodeChars row).take b)).length = b) := by
  intro columns
  have hgreatest (b : Nat) (hb : b ≤ Utf8.byteCount row) :
      IsGreatest {c | c ≤ row.length ∧ Utf8.byteCount (row.take c) ≤ b}
        (columns.charColumn ⟨i, b⟩) := by
    rw [charColumn_of_row hrow hb]
    exact Utf8.isGreatest_length_decodeLenient_take row b
  -- a number of characters that fit, while more do not, is the column
  have hcolumn (b c : Nat) (hb : b ≤ Utf8.byteCount row) (hc : c ≤ row.length)
      (hroom : Utf8.byteCount (row.take c) ≤ b)
      (hmore : ∀ d ≤ row.length, c < d → b < Utf8.byteCount (row.take d)) :
      columns.charColumn ⟨i, b⟩ = c := by
    apply (hgreatest b hb).unique
    refine ⟨⟨hc, hroom⟩, ?_⟩
    rintro d ⟨hd, hdroom⟩
    by_contra hlt
    have := hmore d hd (Nat.not_le.mp hlt)
    omega
  have hbyteCount (c : Nat) (hc : c ≤ row.length) :
      Utf8.byteCount (row.take c) ≤ Utf8.byteCount row := by
    have hle := Utf8.byteCount_take_le row hc
    rwa [List.take_length] at hle
  refine ⟨rows_ofBytes_encode text, hgreatest, ?_, ?_, ?_⟩
  · intro c hc
    apply hcolumn _ _ (hbyteCount c hc) hc le_rfl
    intro d hd hlt
    exact Utf8.byteCount_take_lt hlt hd
  · intro c hc b hlow hhigh
    apply hcolumn b c (hhigh.le.trans (hbyteCount _ hc)) hc.le hlow.le
    intro d hd hlt
    exact lt_of_lt_of_le hhigh (Utf8.byteCount_take_le row hlt)
  · intro hascii b hb
    have hdecode := length_decodeLenient_take_of_isAscii hascii hb
    exact ⟨(charColumn_of_row hrow hb).trans hdecode, hdecode⟩

/-- Of characters of one to four bytes, five bytes stop inside the third and six behind it. -/
theorem charColumn_isGreatest_fourWidths :
    let columns := ofBytes (Utf8.encode "aé€😀\nb")
    (Lines.rows "aé€😀\nb")[0]? = some ['a', 'é', '€', '😀'] ∧
      IsGreatest {c | c ≤ 4 ∧ Utf8.byteCount (['a', 'é', '€', '😀'].take c) ≤ 5}
        (columns.charColumn ⟨0, 5⟩) ∧
      columns.charColumn ⟨0, 5⟩ = 2 ∧ columns.charColumn ⟨0, 6⟩ = 3 ∧
      (Lines.rows "aé€😀\nb")[1]? = some ['b'] ∧ isAscii (Utf8.encodeChars ['b']) = true ∧
      columns.charColumn ⟨1, 1⟩ = 1 := by
  intro columns
  have hwide : (Lines.rows "aé€😀\nb")[0]? = some ['a', 'é', '€', '😀'] := by decide +kernel
  have hascii : (Lines.rows "aé€😀\nb")[1]? = some ['b'] := by decide +kernel
  obtain ⟨-, hgreatest, hends, hinside, -⟩ := charColumn_isGreatest hwide
  obtain ⟨-, -, -, -, hsame⟩ := charColumn_isGreatest hascii
  refine ⟨hwide, hgreatest 5 (by decide), ?_, ?_, hascii, by decide, ?_⟩
  · exact hinside 2 (by decide) 5 (by decide) (by decide)
  · exact hends 3 (by decide)
  · exact (hsame (by decide) 1 (by decide)).1

end ColumnMap

end Enclosure
