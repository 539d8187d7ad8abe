import Enclosure.Proofs.Parse.CharColumn
import Enclosure.Proofs.Parse.Outcome
import Enclosure.Proofs.Text.Lines
import Enclosure.Proofs.Text.WellFormed
import Mathlib.Data.List.Infix

/-!
# Replacing what is not UTF-8

Every ill-formed piece of some bytes is replaced by U+FFFD. No byte of a character but its first is
ASCII, so a character that is cut off ends before a line feed, and the line feed stays: replacing
line by line gives the lines of the text, and the rows of the text, written as bytes again, are the
rows of the bytes. Bytes that were well formed are the same again.
-/

set_option autoImplicit false

namespace Enclosure

namespace Utf8

/-- Reading the bytes that follow a leading byte stops before a line feed. -/
theorem follow_append_lineFeed {ranges : List ByteRange} (h : ∀ range ∈ ranges, 0x80 ≤ range.low)
    (code : Nat) (bytes more : List UInt8) :
    follow code ranges (bytes ++ 10 :: more) =
      ((follow code ranges bytes).1, (follow code ranges bytes).2 ++ 10 :: more) := by
  induction ranges generalizing code bytes with
  | nil => rfl
  | cons range ranges ih =>
    have hrange : 0x80 ≤ range.low := h range List.mem_cons_self
    have hranges := ih fun r hr => h r (List.mem_cons_of_mem range hr)
    cases bytes with
    | nil =>
      -- the line feed is the byte that does not fit
      have hfeed : ¬ (range.low ≤ (10 : UInt8).toNat ∧ (10 : UInt8).toNat ≤ range.high) := by
        have hten : (10 : UInt8).toNat = 10 := rfl
        omega
      rw [List.nil_append]
      exact if_neg hfeed
    | cons b rest =>
      rw [List.cons_append, follow, follow]
      by_cases hb : range.low ≤ b.toNat ∧ b.toNat ≤ range.high
      · rw [if_pos hb, if_pos hb]
        exact hranges _ rest
      · rw [if_neg hb, if_neg hb]
        rfl

/-- What follows a line feed changes nothing in a unit before it. -/
theorem unit_append_lineFeed (b : UInt8) (rest more : List UInt8) :
    unit b (rest ++ 10 :: more) = ((unit b rest).1, (unit b rest).2 ++ 10 :: more) := by
  unfold unit
  cases hlead : lead? b.toNat with
  | none => rfl
  | some announced =>
    obtain ⟨payload, ranges⟩ := announced
    dsimp only
    rw [follow_append_lineFeed (announces_of_lead? hlead).le_low]

/-- What is left after the bytes of a unit is an end of the bytes. -/
theorem follow_suffix (code : Nat) (ranges : List ByteRange) (bytes : List UInt8) :
    (follow code ranges bytes).2 <:+ bytes := by
  induction ranges generalizing code bytes with
  | nil => exact List.suffix_refl bytes
  | cons range ranges ih =>
    cases bytes with
    | nil => exact List.suffix_refl []
    | cons b rest =>
      rw [follow]
      by_cases hb : range.low ≤ b.toNat ∧ b.toNat ≤ range.high
      · rw [if_pos hb]
        exact (ih _ rest).trans (List.suffix_cons b rest)
      · rw [if_neg hb]

/-- What is left after a unit is an end of the bytes. -/
theorem unit_suffix (b : UInt8) (rest : List UInt8) : (unit b rest).2 <:+ rest := by
  unfold unit
  cases lead? b.toNat with
  | none => exact List.suffix_refl rest
  | some announced => exact follow_suffix announced.1 announced.2 rest

/-- No bytes are read as no characters. -/
@[simp] theorem decodeReplacing_nil : decodeReplacing [] = [] := by
  rw [decodeReplacing, units_nil, List.map_nil]

/-- Bytes are read unit by unit; a unit that is ill formed becomes a replacement. -/
theorem decodeReplacing_cons (b : UInt8) (rest : List UInt8) :
    decodeReplacing (b :: rest) =
      (unit b rest).1.getD '\uFFFD' :: decodeReplacing (unit b rest).2 := by
  rw [decodeReplacing, units_cons, List.map_cons, decodeReplacing]

/-- The bytes of characters are read as these. -/
theorem decodeReplacing_encodeChars (cs : List Char) : decodeReplacing (encodeChars cs) = cs := by
  rw [decodeReplacing, units_encodeChars, List.map_map]
  exact List.map_id cs

/-- What stands before a line feed and what stands behind it are read on their own. -/
theorem decodeReplacing_append_lineFeed (bytes more : List UInt8) :
    decodeReplacing (bytes ++ 10 :: more) =
      decodeReplacing bytes ++ '\n' :: decodeReplacing more := by
  induction bytes using units_induction with
  | nil =>
    have hunit : unit 10 more = (some '\n', more) := rfl
    rw [List.nil_append, decodeReplacing_cons, hunit, decodeReplacing_nil]
    rfl
  | cons b rest ih =>
    rw [List.cons_append, decodeReplacing_cons, unit_append_lineFeed, ih, decodeReplacing_cons,
      List.cons_append]

/-- Bytes without a line feed are read as characters without one. -/
theorem lineFeed_not_mem_decodeReplacing {bytes : List UInt8} (h : 10 ∉ bytes) :
    '\n' ∉ decodeReplacing bytes := by
  induction bytes using units_induction with
  | nil => simp
  | cons b rest ih =>
    have hrest : 10 ∉ (unit b rest).2 := fun hmem =>
      h (List.mem_cons_of_mem b ((unit_suffix b rest).subset hmem))
    rw [decodeReplacing_cons, List.mem_cons, not_or]
    refine ⟨?_, ih hrest⟩
    cases hunit : (unit b rest).1 with
    | none => decide
    | some c =>
      -- a line feed that was read is a byte
      rintro rfl
      have hbytes : b :: rest = encodeChar '\n' ++ (unit b rest).2 :=
        encodeChar_of_unit (Prod.ext hunit rfl)
      rw [encodeChar_lineFeed] at hbytes
      exact h (hbytes ▸ List.mem_cons_self)

/-- Only from no bytes are no characters read. -/
theorem decodeReplacing_eq_nil_iff {bytes : List UInt8} :
    decodeReplacing bytes = [] ↔ bytes = [] := by
  cases bytes with
  | nil => simp
  | cons b rest => simp [decodeReplacing_cons]

/-- Bytes are well formed exactly when all their units are. -/
theorem isSome_decodeStrict?_iff {bytes : List UInt8} :
    (decodeStrict? bytes).isSome = true ↔ ∀ u ∈ units bytes, u.isSome = true := by
  rw [decodeStrict?, Option.isSome_ite, List.all_eq_true]

/-- Bytes that are well formed are written again as they were. -/
theorem encodeChars_decodeReplacing {bytes : List UInt8}
    (h : ∀ u ∈ units bytes, u.isSome = true) : encodeChars (decodeReplacing bytes) = bytes := by
  induction bytes using units_induction with
  | nil => simp
  | cons b rest ih =>
    rw [units_cons, List.forall_mem_cons] at h
    obtain ⟨c, hc⟩ := Option.isSome_iff_exists.mp h.1
    rw [decodeReplacing_cons, encodeChars_cons, ih h.2, hc]
    exact (encodeChar_of_unit (Prod.ext hc rfl)).symm

/-- Bytes are the bytes of what is read of them exactly when they are well formed. -/
theorem encodeChars_decodeReplacing_eq_iff {bytes : List UInt8} :
    encodeChars (decodeReplacing bytes) = bytes ↔ (decodeStrict? bytes).isSome = true := by
  constructor
  · intro h
    rw [← h, decodeStrict?_encodeChars]
    rfl
  · intro h
    exact encodeChars_decodeReplacing (isSome_decodeStrict?_iff.mp h)

end Utf8

/-- The lines that are read of some bytes are the lines of the bytes, each read on its own. -/
theorem Lines.splitChars_decodeReplacing (bytes : List UInt8) :
    splitChars (Utf8.decodeReplacing bytes) = (cutAfter 10 bytes).map Utf8.decodeReplacing := by
  rw [splitChars_eq_cutAfter]
  induction bytes using lines_induction (10 : UInt8) with
  | last body hbody =>
    have hread : '\n' ∉ Utf8.decodeReplacing body := Utf8.lineFeed_not_mem_decodeReplacing hbody
    rw [cutAfter_of_not_mem hbody, cutAfter_of_not_mem hread]
    by_cases hnil : body = []
    · rw [if_pos hnil, if_pos (Utf8.decodeReplacing_eq_nil_iff.mpr hnil), List.map_nil]
    · rw [if_neg hnil, if_neg (mt Utf8.decodeReplacing_eq_nil_iff.mp hnil), List.map_singleton]
  | line body rest hbody ih =>
    have hread : '\n' ∉ Utf8.decodeReplacing body := Utf8.lineFeed_not_mem_decodeReplacing hbody
    have hline : Utf8.decodeReplacing (body ++ [10]) = Utf8.decodeReplacing body ++ ['\n'] := by
      rw [Utf8.decodeReplacing_append_lineFeed, Utf8.decodeReplacing_nil]
    rw [Utf8.decodeReplacing_append_lineFeed, cutAfter_append hread, cutAfter_append hbody,
      List.map_cons, hline, ih]

namespace ColumnMap

/-- The rows are the pieces between line feeds. -/
theorem splitRows_eq_splitOn (bytes : List UInt8) : splitRows bytes = bytes.splitOn 10 := by
  induction bytes with
  | nil => rfl
  | cons b bytes ih =>
    rw [splitRows_cons, ih, List.splitOn_cons_eq_if_modifyHead]
    unfold consByte
    by_cases hb : b = 10
    · rw [if_pos hb, if_pos (by simpa using hb)]
    · rw [if_neg hb, if_neg (by simpa using hb)]
      cases hrows : bytes.splitOn 10 with
      | nil => exact absurd hrows (List.splitOn_ne_nil 10 bytes)
      | cons row rows => rfl

/-- The rows that are read of some bytes are the rows of the bytes, each read on its own. -/
theorem splitOn_decodeReplacing (bytes : List UInt8) :
    (Utf8.decodeReplacing bytes).splitOn '\n' = (bytes.splitOn 10).map Utf8.decodeReplacing := by
  induction bytes using Lines.lines_induction (10 : UInt8) with
  | last body hbody =>
    have hread : '\n' ∉ Utf8.decodeReplacing body := Utf8.lineFeed_not_mem_decodeReplacing hbody
    rw [List.splitOn_eq_singleton hbody, List.splitOn_eq_singleton hread, List.map_singleton]
  | line body rest hbody ih =>
    have hread : '\n' ∉ Utf8.decodeReplacing body := Utf8.lineFeed_not_mem_decodeReplacing hbody
    rw [Utf8.decodeReplacing_append_lineFeed, List.splitOn_append_cons_self_of_not_mem hbody,
      List.splitOn_append_cons_self_of_not_mem hread, List.map_cons, ih]

/-- The rows of bytes that are read and written again are their rows, each read and written again.
-/
theorem rows_encode_decodeReplacing (bytes : List UInt8) :
    (ofBytes (Utf8.encode (String.ofList (Utf8.decodeReplacing bytes)))).rows =
      (ofBytes bytes).rows.map fun row => Utf8.encodeChars (Utf8.decodeReplacing row) := by
  rw [rows_ofBytes_encode, Lines.rows, String.toList_ofList, splitOn_decodeReplacing, List.map_map,
    ← splitRows_eq_splitOn]
  rfl

end ColumnMap

namespace GrammarParser

variable {p : GrammarParser} {registry : Registry} {engine : List UInt8 → ParserReport}

/-- A tree that is accepted has the root that was reported and the columns of the bytes. -/
theorem accept_eq_tree {source : List UInt8} {report : ParserReport} {tree : ParsedTree}
    (h : (p.accept source report).value = .ok (some tree)) :
    (∃ hasError, report = .tree tree.root hasError) ∧ tree.columns = .ofBytes source := by
  cases report with
  | unmade cause => cases h
  | failed cause =>
    rw [accept_failed] at h
    split at h <;> cases h
  | tree root hasError =>
    unfold accept at h
    cases hasError with
    | false =>
      cases h
      exact ⟨⟨false, rfl⟩, rfl⟩
    | true =>
      cases hpartial : p.acceptPartialTrees with
      | true =>
        rw [hpartial] at h
        cases h
        exact ⟨⟨true, rfl⟩, rfl⟩
      | false =>
        rw [hpartial] at h
        cases h

/-- A tree that is given for a text is made of the bytes of the text and counts their rows. -/
theorem parse_eq_tree {text : String} {tree : ParsedTree}
    (h : (p.parse registry engine text).1.value = .ok (some tree)) :
    (∃ hasError, engine (Utf8.encode text) = .tree tree.root hasError) ∧
      tree.columns = .ofBytes (Utf8.encode text) := by
  unfold parse at h
  dsimp only at h
  split at h
  · exact accept_eq_tree h
  · cases h
  · cases h

end GrammarParser

/-- Whatever bytes are read with replacements, the lines of the text are the lines of the bytes, each
read on its own. The bytes that a parser is given for the text say the text again, their rows are
the rows of the bytes that were read, and they are the bytes that were read exactly when these are
well formed. A tree that is given for the text counts rows in them. -/
theorem Utf8.decodeReplacing_keeps_lines (bytes : List UInt8) :
    let text := String.ofList (decodeReplacing bytes)
    let source := encode text
    Lines.split text =
        (Lines.cutAfter 10 bytes).map (fun line => String.ofList (decodeReplacing line)) ∧
      (ColumnMap.ofBytes source).rows =
        (ColumnMap.ofBytes bytes).rows.map (fun row => encodeChars (decodeReplacing row)) ∧
      String.ofList (decodeReplacing source) = text ∧
      decodeStrict? source = some text.toList ∧
      (source = bytes ↔ (decodeStrict? bytes).isSome = true) ∧
      ∀ (p : GrammarParser) (registry : Registry) (engine : List UInt8 → ParserReport)
        (tree : ParsedTree), (p.parse registry engine text).1.value = .ok (some tree) →
          (∃ hasError, engine source = .tree tree.root hasError) ∧
            tree.columns = .ofBytes source := by
  intro text source
  have hsource : source = encodeChars (decodeReplacing bytes) := encode_ofList _
  refine ⟨?_, ColumnMap.rows_encode_decodeReplacing bytes, ?_, ?_, ?_, ?_⟩
  · rw [Lines.split, String.toList_ofList, Lines.splitChars_decodeReplacing, List.map_map]
    rfl
  · rw [hsource, decodeReplacing_encodeChars]
  · rw [hsource, decodeStrict?_encodeChars, String.toList_ofList]
  · rw [hsource]
    exact encodeChars_decodeReplacing_eq_iff
  · intro p registry engine tree h
    exact GrammarParser.parse_eq_tree h

/-- Of a character of three bytes the last is missing; the line feed behind it stays, and a parser
counts two rows. -/
theorem Utf8.decodeReplacing_keeps_lines_cutOff :
    let bytes : List UInt8 := [0x78, 0xE2, 0x82, 0x0A, 0x79]
    let text := "x\uFFFD\ny"
    let root := RawNode.mk "source_file" ⟨0, 0⟩ ⟨1, 1⟩ false []
    String.ofList (decodeReplacing bytes) = text ∧
      Lines.cutAfter 10 bytes = [[0x78, 0xE2, 0x82, 0x0A], [0x79]] ∧
      (Lines.split text).length = 2 ∧
      (decodeStrict? bytes).isSome = false ∧
      ∃ tree, ((GrammarParser.mk "swift" false).parse .standard (fun _ => .tree root false)
          text).1.value = .ok (some tree) ∧
        tree.columns.rows.length = 2 := by
  intro bytes text root
  have htext : String.ofList (decodeReplacing bytes) = text := by
    have hfirst : unit 0x78 [0xE2, 0x82, 0x0A, 0x79] = (some 'x', [0xE2, 0x82, 0x0A, 0x79]) := rfl
    have hsecond : unit 0xE2 [0x82, 0x0A, 0x79] = (none, [0x0A, 0x79]) := rfl
    have hthird : unit 0x0A [0x79] = (some '\n', [0x79]) := rfl
    have hfourth : unit 0x79 [] = (some 'y', []) := rfl
    rw [decodeReplacing_cons, hfirst, decodeReplacing_cons, hsecond, decodeReplacing_cons, hthird,
      decodeReplacing_cons, hfourth, decodeReplacing_nil]
    rfl
  have hcut : Lines.cutAfter 10 bytes = [[0x78, 0xE2, 0x82, 0x0A], [0x79]] := by decide
  have hsupplied : (GrammarParser.mk "swift" false).IsSupplied .standard :=
    ⟨.swift, LanguagePack.ofName?_swift, Or.inr ⟨_, rfl, rfl⟩⟩
  obtain ⟨hlines, hrows, -, -, hsame, hparse⟩ := decodeReplacing_keeps_lines bytes
  rw [htext] at hlines hrows hsame hparse
  have hvalue : ∃ tree, ((GrammarParser.mk "swift" false).parse .standard
      (fun _ => .tree root false) text).1.value = .ok (some tree) := by
    rw [GrammarParser.parse_of_supplied hsupplied]
    exact ⟨_, rfl⟩
  obtain ⟨tree, htree⟩ := hvalue
  refine ⟨htext, hcut, ?_, ?_, tree, htree, ?_⟩
  · rw [hlines, hcut]
    rfl
  · rw [← Bool.not_eq_true, ← hsame]
    decide +kernel
  · rw [(hparse _ _ _ tree htree).2, hrows, List.length_map]
    rfl

end Enclosure
