import Enclosure.Parse.ColumnMap
import Enclosure.Proofs.Text.Rows

/-!
# Mapping points to positions

Points are ordered as they occur in a document, by row and then by byte column, and the column map
keeps this order, within the text and outside of it. A point where some characters of the text end
in bytes is mapped to the position where they end in characters.
-/

set_option autoImplicit false

namespace Enclosure

instance : LE RawPoint :=
  ⟨fun p q => p.row < q.row ∨ p.row = q.row ∧ p.column ≤ q.column⟩

/-- Raw points are compared by rows, and by byte columns where these are equal. -/
theorem RawPoint.le_def {p q : RawPoint} :
    p ≤ q ↔ p.row < q.row ∨ p.row = q.row ∧ p.column ≤ q.column := Iff.rfl

namespace ColumnMap

/-- A byte goes in front of the first row, or ends a row of its own. -/
theorem splitRows_cons (b : UInt8) (bytes : List UInt8) :
    splitRows (b :: bytes) = consByte b (splitRows bytes) := rfl

/-- A line feed ends an empty row. -/
theorem splitRows_lineFeed_cons (bytes : List UInt8) :
    splitRows (10 :: bytes) = [] :: splitRows bytes := by
  rw [splitRows_cons]
  exact if_pos rfl

/-- Bytes other than line feeds belong to the first row of what follows them. -/
theorem splitRows_append_of_not_mem {bytes more row : List UInt8} {rows : List (List UInt8)}
    (h : 10 ∉ bytes) (hmore : splitRows more = row :: rows) :
    splitRows (bytes ++ more) = (bytes ++ row) :: rows := by
  induction bytes with
  | nil => exact hmore
  | cons b bytes ih =>
    have hb : b ≠ 10 := fun heq => h (heq ▸ List.mem_cons_self)
    have htail := ih fun hmem => h (List.mem_cons_of_mem b hmem)
    rw [List.cons_append, splitRows_cons, htail]
    exact if_neg hb

/-- There is at least one row. -/
theorem splitRows_eq_cons (bytes : List UInt8) :
    ∃ row rows, splitRows bytes = row :: rows := by
  induction bytes with
  | nil => exact ⟨[], [], rfl⟩
  | cons b bytes ih =>
    obtain ⟨row, rows, hrows⟩ := ih
    by_cases hb : b = 10
    · rw [hb, splitRows_lineFeed_cons]
      exact ⟨[], splitRows bytes, rfl⟩
    · have hsingle : 10 ∉ [b] := fun hmem => hb (List.mem_singleton.mp hmem).symm
      exact ⟨[b] ++ row, rows, splitRows_append_of_not_mem hsingle hrows⟩

/-- Where some characters end in bytes, the row begins with the bytes of as many characters as there
are before the position where they end in characters. -/
theorem getElem?_splitRows_encodeChars (cs : List Char) (more : List UInt8) :
    ∃ head tail,
      (splitRows (Utf8.encodeChars cs ++ more))[(endOf 10 (Utf8.encodeChars cs)).1]? =
          some (Utf8.encodeChars head ++ tail) ∧
        (Utf8.encodeChars head).length = (endOf 10 (Utf8.encodeChars cs)).2 ∧
        head.length = (endOf '\n' cs).2 := by
  induction cs with
  | nil =>
    obtain ⟨row, rows, hrows⟩ := splitRows_eq_cons more
    refine ⟨[], row, ?_, rfl, rfl⟩
    rw [Utf8.encodeChars_nil, List.nil_append, hrows]
    rfl
  | cons c cs ih =>
    obtain ⟨head, tail, hrow, hbytes, hchars⟩ := ih
    rw [Utf8.encodeChars_cons, List.append_assoc]
    by_cases hc : c = '\n'
    · refine ⟨head, tail, ?_, ?_, ?_⟩
      · rw [hc, Utf8.encodeChar_lineFeed, List.singleton_append, List.singleton_append,
          endOf_cons_self, splitRows_lineFeed_cons, List.getElem?_cons_succ, hrow]
      · rw [hc, Utf8.encodeChar_lineFeed, List.singleton_append, endOf_cons_self, hbytes]
      · rw [hc, endOf_cons_self, hchars]
    · have hfeed : (10 : UInt8) ∉ Utf8.encodeChar c := mt Utf8.lineFeed_mem_encodeChar_iff.mp hc
      have hsame := endOf_encodeChars_row cs
      obtain ⟨row, rows, hrows⟩ := splitRows_eq_cons (Utf8.encodeChars cs ++ more)
      rw [endOf_append_of_not_mem hfeed, splitRows_append_of_not_mem hfeed hrows]
      rw [hrows] at hrow
      by_cases hzero : (endOf '\n' cs).1 = 0
      · -- still in the first row, so the character joins its head
        rw [hsame, hzero, List.getElem?_cons_zero, Option.some_inj] at hrow
        rw [if_pos (by omega), endOf_cons_of_row_eq_zero hc hzero]
        refine ⟨c :: head, tail, ?_, ?_, ?_⟩
        · rw [List.getElem?_cons_zero, hrow, Utf8.encodeChars_cons, List.append_assoc]
        · rw [Utf8.encodeChars_cons, List.length_append, hbytes, Nat.add_comm]
        · rw [List.length_cons, hchars]
      · obtain ⟨index, hindex⟩ := Nat.exists_eq_succ_of_ne_zero hzero
        rw [if_neg (by omega), endOf_cons_of_row_ne_zero hc hzero]
        refine ⟨head, tail, ?_, hbytes, hchars⟩
        rw [hsame, hindex, List.getElem?_cons_succ] at hrow ⊢
        exact hrow

/-- Within a row the character column is the number of characters before the byte column. -/
theorem charColumnIn_eq_length {row : List UInt8} {column : Nat} (h : column ≤ row.length) :
    charColumnIn row column = (Utf8.decodeLenient (row.take column)).length := by
  unfold charColumnIn
  by_cases hascii : isAscii row = true
  · have hbytes : ∀ b ∈ row.take column, b.toNat < 0x80 := fun b hb =>
      of_decide_eq_true (List.all_eq_true.mp hascii b (List.mem_of_mem_take hb))
    rw [if_pos hascii, Utf8.length_decodeLenient_of_ascii hbytes, List.length_take_of_le h]
  · rw [if_neg hascii]

/-- A byte column further on in a row does not become a lesser column. -/
theorem charColumnIn_le (row : List UInt8) {m n : Nat} (h : m ≤ n) :
    charColumnIn row m ≤ charColumnIn row n := by
  unfold charColumnIn
  by_cases hascii : isAscii row = true
  · rw [if_pos hascii, if_pos hascii]
    exact h
  · rw [if_neg hascii, if_neg hascii]
    exact Utf8.length_decodeLenient_take_le row h

/-- The column map keeps the order of the points, wherever they lie. -/
theorem position_le_position (m : ColumnMap) {p q : RawPoint} (h : p ≤ q) :
    m.position p ≤ m.position q := by
  rcases RawPoint.le_def.mp h with hrow | ⟨hrow, hcolumn⟩
  · exact Position.le_def.mpr (Or.inl (Int.ofNat_lt.mpr hrow))
  · refine Position.le_def.mpr (Or.inr ⟨congrArg Int.ofNat hrow, Int.ofNat_le.mpr ?_⟩)
    unfold charColumn
    rw [← hrow]
    cases m.rows[p.row]? with
    | none => exact hcolumn
    | some row => exact charColumnIn_le row hcolumn

/-- Two raw points in order become the range between their positions. -/
theorem range_of_le (m : ColumnMap) {p q : RawPoint} (h : p ≤ q) :
    m.range p q = .ok ⟨m.position p, m.position q, m.position_le_position h⟩ :=
  dif_pos (m.position_le_position h)

/-- The point where some characters of a text end in bytes is mapped to the position where they end
in characters. -/
theorem position_of_prefix {text : String} {cs : List Char} (h : cs <+: text.toList)
    {p : RawPoint} (hp : endOf 10 (Utf8.encodeChars cs) = (p.row, p.column)) :
    (ofBytes (Utf8.encode text)).position p = ⟨(endOf '\n' cs).1, (endOf '\n' cs).2⟩ := by
  obtain ⟨rest, hrest⟩ := h
  obtain ⟨head, tail, hrow, hbytes, hchars⟩ :=
    getElem?_splitRows_encodeChars cs (Utf8.encodeChars rest)
  have hsame := endOf_encodeChars_row cs
  rw [hp] at hrow hbytes hsame
  have hcolumn : (ofBytes (Utf8.encode text)).charColumn p = (endOf '\n' cs).2 := by
    rw [charColumn, ofBytes, Utf8.encode, ← hrest, Utf8.encodeChars_append, hrow]
    dsimp only at hbytes ⊢
    rw [charColumnIn_eq_length (by rw [List.length_append]; omega), ← hbytes, List.take_left,
      Utf8.decodeLenient_encodeChars, hchars]
  rw [position, hcolumn]
  exact congrArg (fun row : Nat => Position.mk row _) hsame

end ColumnMap

end Enclosure
