import Enclosure.Parse.RawTree
import Enclosure.Text.Excerpt
import Enclosure.Proofs.Parse.ColumnMap

/-!
# Excerpts of nodes

A point is in bounds of a text when its row begins in the bytes of the text, its byte column lies in
this row, and no character is cut there. The offset of such a point is a number of bytes from the
beginning of the text. The excerpt of a node between two such points, taken by characters from the
lines of the text, is what the bytes between the two offsets say.
-/

set_option autoImplicit false

namespace Enclosure

/-- The offset of the first byte of a row: the bytes before it hold a line feed for every row
above. -/
def rowStart : List UInt8 → Nat → Nat
  | _, 0 => 0
  | [], _ + 1 => 0
  | b :: rest, row + 1 => 1 + if b = 10 then rowStart rest row else rowStart rest (row + 1)

/-- The number of bytes of a row, without its line feed. -/
def rowLength (bytes : List UInt8) (row : Nat) : Nat :=
  ((bytes.drop (rowStart bytes row)).takeWhile fun b => b ≠ 10).length

namespace RawPoint

/-- The offset of a point in the bytes of a text. -/
def offset (bytes : List UInt8) (p : RawPoint) : Nat :=
  rowStart bytes p.row + p.column

/-- A point that lies in a text, between two of its characters. -/
structure InBounds (text : String) (p : RawPoint) : Prop where
  row_le : p.row ≤ (Utf8.encode text).count 10
  column_le : p.column ≤ rowLength (Utf8.encode text) p.row
  boundary : ∃ cs, cs <+: text.toList ∧
    (Utf8.encodeChars cs).length = p.offset (Utf8.encode text)

end RawPoint

section

variable {bytes : List UInt8} {b : UInt8} {row column : Nat}

/-- The first row starts with the first byte. -/
@[simp] theorem rowStart_zero (bytes : List UInt8) : rowStart bytes 0 = 0 := by
  unfold rowStart
  cases bytes <;> rfl

/-- Behind a line feed, every row starts one byte later and counts one more. -/
theorem rowStart_lineFeed_cons : rowStart (10 :: bytes) (row + 1) = rowStart bytes row + 1 := by
  rw [rowStart, if_pos rfl, Nat.add_comm]

/-- Behind any other byte, every later row starts one byte later. -/
theorem rowStart_cons_of_ne (hb : b ≠ 10) :
    rowStart (b :: bytes) (row + 1) = rowStart bytes (row + 1) + 1 := by
  rw [rowStart, if_neg hb, Nat.add_comm]

/-- The first columns of the first row hold no line feed. -/
theorem lineFeed_not_mem_take (h : column ≤ rowLength bytes 0) :
    10 ∉ bytes.take column ∧ (bytes.take column).length = column := by
  rw [rowLength, rowStart_zero, List.drop_zero] at h
  have htake : bytes.take column = (bytes.takeWhile fun b => b ≠ 10).take column := by
    obtain ⟨after, hafter⟩ := List.takeWhile_prefix (l := bytes) fun b => b ≠ 10
    conv => lhs; rw [← hafter]
    exact List.take_append_of_le_length h
  rw [htake]
  refine ⟨?_, List.length_take_of_le h⟩
  intro hmem
  have hne := List.all_eq_true.mp List.all_takeWhile _ (List.mem_of_mem_take hmem)
  exact of_decide_eq_true hne rfl

/-- The bytes before a column of a row end in this row and this column. -/
theorem endOf_take_rowStart_add (hrow : row ≤ bytes.count 10)
    (hcolumn : column ≤ rowLength bytes row) :
    endOf 10 (bytes.take (rowStart bytes row + column)) = (row, column) := by
  induction bytes generalizing row with
  | nil =>
    have hzero : row = 0 := Nat.le_zero.mp hrow
    have hnone : column = 0 := by
      rw [rowLength, List.drop_nil, List.takeWhile_nil] at hcolumn
      exact Nat.le_zero.mp hcolumn
    rw [hzero, hnone]
    rfl
  | cons b rest ih =>
    cases row with
    | zero =>
      obtain ⟨hfeed, hlength⟩ := lineFeed_not_mem_take hcolumn
      rw [rowStart_zero, Nat.zero_add, endOf_of_not_mem hfeed, hlength]
    | succ row =>
      rw [rowLength] at hcolumn
      by_cases hb : b = 10
      · rw [hb, List.count_cons_self] at hrow
        rw [hb, rowStart_lineFeed_cons, List.drop_succ_cons] at hcolumn
        rw [hb, rowStart_lineFeed_cons, Nat.add_right_comm, List.take_succ_cons, endOf_cons_self,
          ih (Nat.le_of_succ_le_succ hrow) hcolumn]
      · rw [List.count_cons_of_ne hb] at hrow
        rw [rowStart_cons_of_ne hb, List.drop_succ_cons] at hcolumn
        have hrest := ih hrow hcolumn
        rw [rowStart_cons_of_ne hb, Nat.add_right_comm, List.take_succ_cons,
          endOf_cons_of_row_ne_zero hb (by rw [hrest]; exact Nat.succ_ne_zero row), hrest]

end

/-- Before a point in bounds of a text stand some characters of the text, which end there in
bytes. -/
theorem RawPoint.InBounds.exists_prefix {text : String} {p : RawPoint} (h : p.InBounds text) :
    ∃ cs, cs <+: text.toList ∧
      (Utf8.encodeChars cs).length = p.offset (Utf8.encode text) ∧
      endOf 10 (Utf8.encodeChars cs) = (p.row, p.column) := by
  obtain ⟨cs, hcs, hlength⟩ := h.boundary
  refine ⟨cs, hcs, hlength, ?_⟩
  obtain ⟨rest, hrest⟩ := hcs
  have htake : (Utf8.encode text).take (p.offset (Utf8.encode text)) = Utf8.encodeChars cs := by
    conv => lhs; rw [← hlength, Utf8.encode, ← hrest, Utf8.encodeChars_append]
    exact List.take_left
  rw [← htake]
  exact endOf_take_rowStart_add h.row_le h.column_le

/-- The characters between two beginnings of a text are what the bytes between the ends of these
say. -/
theorem Utf8.decodeStrict?_slice {text : String} {cs ds : List Char}
    (h : cs ++ ds <+: text.toList) :
    decodeStrict? (((encode text).take (encodeChars (cs ++ ds)).length).drop
      (encodeChars cs).length) = some ds := by
  obtain ⟨rest, hrest⟩ := h
  rw [encode, ← hrest, encodeChars_append (cs ++ ds) rest, List.take_left, encodeChars_append,
    List.drop_left]
  exact decodeStrict?_encodeChars ds

/-- The span of a node between two points in bounds of a text covers, in the lines of the text, what
the bytes between the offsets of the two points say. -/
theorem RawNode.excerpt_span_eq_decode (text : String) (n : RawNode)
    (hstart : n.start.InBounds text) (hstop : n.stop.InBounds text) (hle : n.start ≤ n.stop) :
    ∃ span, n.span (.ofBytes (Utf8.encode text)) = .ok span ∧
      some (Excerpt.text (Lines.split text) span) =
        (Utf8.decodeStrict? (((Utf8.encode text).take (n.stop.offset (Utf8.encode text))).drop
          (n.start.offset (Utf8.encode text)))).map String.ofList := by
  -- both ends stand behind beginnings of the text; what the span covers is the difference
  obtain ⟨before, hbefore, hbytes, hend⟩ := hstart.exists_prefix
  obtain ⟨upto, hupto, hbytes', hend'⟩ := hstop.exists_prefix
  refine ⟨_, ColumnMap.range_of_le _ hle, ?_⟩
  have hsplit := Excerpt.upTo_append_chars (Lines.split text)
    ⟨_, _, ColumnMap.position_le_position (.ofBytes (Utf8.encode text)) hle⟩
  dsimp only at hsplit
  rw [Excerpt.text]
  generalize Excerpt.chars _ _ = covered at hsplit ⊢
  rw [ColumnMap.position_of_prefix hbefore hend, ColumnMap.position_of_prefix hupto hend',
    Excerpt.upTo_split hbefore, Excerpt.upTo_split hupto] at hsplit
  rw [← hbytes, ← hbytes', ← hsplit]
  rw [← hsplit] at hupto
  rw [Utf8.decodeStrict?_slice hupto, Option.map_some]

/-- Two rows with a character of two bytes in each of them. -/
def twoRows : List Char :=
  ['é', '\n', 'a', 'ñ', 'b', '\n']

/-- From behind `é` to behind `ñ` lie a line feed, `a` and `ñ`. -/
theorem RawNode.excerpt_span_eq_decode_twoRows :
    RawPoint.InBounds (String.ofList twoRows) ⟨0, 2⟩ ∧
      RawPoint.InBounds (String.ofList twoRows) ⟨1, 3⟩ ∧
      (⟨0, 2⟩ : RawPoint) ≤ ⟨1, 3⟩ ∧
      ∃ span, (RawNode.mk "ERROR" ⟨0, 2⟩ ⟨1, 3⟩ false []).span
            (.ofBytes (Utf8.encode (String.ofList twoRows))) = .ok span ∧
        Excerpt.text (Lines.split (String.ofList twoRows)) span =
          String.ofList ['\n', 'a', 'ñ'] := by
  have hstart : RawPoint.InBounds (String.ofList twoRows) ⟨0, 2⟩ := by
    refine ⟨?_, ?_, ['é'], ⟨_, String.toList_ofList.symm⟩, ?_⟩
    all_goals
      rw [Utf8.encode_ofList]
      decide
  have hstop : RawPoint.InBounds (String.ofList twoRows) ⟨1, 3⟩ := by
    refine ⟨?_, ?_, ['é', '\n', 'a', 'ñ'], ⟨_, String.toList_ofList.symm⟩, ?_⟩
    all_goals
      rw [Utf8.encode_ofList]
      decide
  have hle : (⟨0, 2⟩ : RawPoint) ≤ ⟨1, 3⟩ := Or.inl Nat.zero_lt_one
  obtain ⟨span, hspan, htext⟩ :=
    RawNode.excerpt_span_eq_decode _ (.mk "ERROR" ⟨0, 2⟩ ⟨1, 3⟩ false []) hstart hstop hle
  have hslice : ((Utf8.encodeChars twoRows).take 6).drop 2 =
      Utf8.encodeChars ['\n', 'a', 'ñ'] := by
    decide
  have hdecode : Utf8.decodeStrict? (((Utf8.encodeChars twoRows).take 6).drop 2) =
      some ['\n', 'a', 'ñ'] := by
    rw [hslice, Utf8.decodeStrict?_encodeChars]
  refine ⟨hstart, hstop, hle, span, hspan, Option.some_inj.mp ?_⟩
  rw [htext, Utf8.encode_ofList]
  exact congrArg (Option.map String.ofList) hdecode

end Enclosure
