import Enclosure.Text.Utf8
import Mathlib.Data.List.Basic
import Mathlib.Data.Nat.Find
import Mathlib.Order.Bounds.Basic

/-!
# Reading UTF-8

Reading the bytes of some characters gives back these characters, whatever bytes follow. Of any
bytes, well formed or not, a longer part never holds fewer characters. No character but the line
feed has the byte of a line feed in it.
-/

set_option autoImplicit false

namespace Enclosure.Utf8

/-- A number below 256 is that of its byte. -/
theorem toNat_ofNat {x : Nat} (hx : x < 256) : (UInt8.ofNat x).toNat = x :=
  UInt8.toNat_ofNat_of_lt' hx

/-- A unit that starts with a lead byte goes on with as many bytes as that byte announces. -/
theorem unit_ofNat {x payload : Nat} {ranges : List ByteRange} (hx : x < 256)
    (hlead : lead? x = some (payload, ranges)) (rest : List UInt8) :
    unit (UInt8.ofNat x) rest =
      ((follow payload ranges rest).1.map Char.ofNat, (follow payload ranges rest).2) := by
  rw [unit, toNat_ofNat hx, hlead]

/-- A byte in its range adds six bits to the code of a unit. -/
theorem follow_ofNat {low high x : Nat} (hlow : low ≤ x) (hhigh : x ≤ high) (hx : x < 256)
    (code : Nat) (more : List ByteRange) (rest : List UInt8) :
    follow code (⟨low, high⟩ :: more) (UInt8.ofNat x :: rest) =
      follow (code * 0x40 + (x - 0x80)) more rest := by
  rw [follow, toNat_ofNat hx, if_pos ⟨hlow, hhigh⟩]

/-- A byte from 0xC2 on and below 0xE0 leads a unit of two bytes. -/
theorem lead?_two {b : Nat} (hlow : 0xC2 ≤ b) (hhigh : b < 0xE0) :
    lead? b = some (b - 0xC0, [.tail]) := by
  unfold lead?
  rw [if_neg (by omega), if_neg (by omega), if_pos hhigh]

/-- After the leading byte of three the second byte is any that makes no overlong form and no
surrogate. -/
theorem lead?_three {b x : Nat} (hlow : 0xE0 ≤ b) (hhigh : b < 0xF0) (hx : 0x80 ≤ x)
    (hx' : x ≤ 0xBF) (hoverlong : b = 0xE0 → 0xA0 ≤ x) (hsurrogate : b = 0xED → x ≤ 0x9F) :
    ∃ low high, lead? b = some (b - 0xE0, [⟨low, high⟩, .tail]) ∧ low ≤ x ∧ x ≤ high := by
  unfold lead?
  rw [if_neg (by omega), if_neg (by omega), if_neg (by omega)]
  by_cases hfirst : b = 0xE0
  · rw [if_pos hfirst]
    exact ⟨0xA0, 0xBF, by rw [hfirst], hoverlong hfirst, hx'⟩
  · rw [if_neg hfirst]
    by_cases hthird : b = 0xED
    · rw [if_pos hthird]
      exact ⟨0x80, 0x9F, by rw [hthird], hx, hsurrogate hthird⟩
    · rw [if_neg hthird, if_pos hhigh]
      exact ⟨0x80, 0xBF, rfl, hx, hx'⟩

/-- After the leading byte of four the second byte is any that makes no overlong form and no code
point past the last one. -/
theorem lead?_four {b x : Nat} (hlow : 0xF0 ≤ b) (hhigh : b < 0xF5) (hx : 0x80 ≤ x)
    (hx' : x ≤ 0xBF) (hoverlong : b = 0xF0 → 0x90 ≤ x) (hlast : b = 0xF4 → x ≤ 0x8F) :
    ∃ low high, lead? b = some (b - 0xF0, [⟨low, high⟩, .tail, .tail]) ∧ low ≤ x ∧ x ≤ high := by
  unfold lead?
  rw [if_neg (by omega), if_neg (by omega), if_neg (by omega), if_neg (by omega),
    if_neg (by omega), if_neg (by omega)]
  by_cases hfirst : b = 0xF0
  · rw [if_pos hfirst]
    exact ⟨0x90, 0xBF, by rw [hfirst], hoverlong hfirst, hx'⟩
  · rw [if_neg hfirst]
    by_cases hmiddle : b < 0xF4
    · rw [if_pos hmiddle]
      exact ⟨0x80, 0xBF, rfl, hx, hx'⟩
    · have hfour : b = 0xF4 := by omega
      rw [if_neg hmiddle, if_pos hfour]
      exact ⟨0x80, 0x8F, by rw [hfour], hx, hlast hfour⟩

/-- The code of a character is no surrogate and below 0x110000. -/
theorem toNat_valid (c : Char) : c.toNat < 0xD800 ∨ 0xDFFF < c.toNat ∧ c.toNat < 0x110000 :=
  c.valid

/-- The bytes of a character are read as one unit that is this character. -/
theorem unit_encodeChar (c : Char) (rest : List UInt8) :
    ∃ b tail, encodeChar c = b :: tail ∧ unit b (tail ++ rest) = (some c, rest) := by
  have hvalid := toNat_valid c
  have hchar : Char.ofNat c.toNat = c := Char.ofNat_toNat c
  unfold encodeChar
  generalize c.toNat = n at hvalid hchar
  dsimp only
  by_cases hone : n < 0x80
  · refine ⟨UInt8.ofNat n, [], if_pos hone, ?_⟩
    rw [List.nil_append, unit_ofNat (by omega) (if_pos hone), follow, Option.map_some, hchar]
  rw [if_neg hone]
  by_cases htwo : n < 0x800
  · refine ⟨_, _, if_pos htwo, ?_⟩
    rw [List.cons_append, List.nil_append,
      unit_ofNat (by omega) (lead?_two (by omega) (by omega)), ByteRange.tail,
      follow_ofNat (by omega) (by omega) (by omega), follow, Option.map_some,
      show (0xC0 + n / 0x40 - 0xC0) * 0x40 + (0x80 + n % 0x40 - 0x80) = n by omega, hchar]
  rw [if_neg htwo]
  by_cases hthree : n < 0x10000
  · refine ⟨_, _, if_pos hthree, ?_⟩
    obtain ⟨low, high, hlead, hlow, hhigh⟩ :=
      lead?_three (b := 0xE0 + n / 0x1000) (x := 0x80 + n / 0x40 % 0x40) (by omega) (by omega)
        (by omega) (by omega) (by omega) (by omega)
    rw [List.cons_append, List.cons_append, List.nil_append, unit_ofNat (by omega) hlead,
      follow_ofNat hlow hhigh (by omega), ByteRange.tail,
      follow_ofNat (by omega) (by omega) (by omega), follow, Option.map_some,
      show ((0xE0 + n / 0x1000 - 0xE0) * 0x40 + (0x80 + n / 0x40 % 0x40 - 0x80)) * 0x40 +
        (0x80 + n % 0x40 - 0x80) = n by omega, hchar]
  · refine ⟨_, _, if_neg hthree, ?_⟩
    obtain ⟨low, high, hlead, hlow, hhigh⟩ :=
      lead?_four (b := 0xF0 + n / 0x40000) (x := 0x80 + n / 0x1000 % 0x40) (by omega) (by omega)
        (by omega) (by omega) (by omega) (by omega)
    rw [List.cons_append, List.cons_append, List.cons_append, List.nil_append,
      unit_ofNat (by omega) hlead, follow_ofNat hlow hhigh (by omega), ByteRange.tail,
      follow_ofNat (by omega) (by omega) (by omega),
      follow_ofNat (by omega) (by omega) (by omega), follow, Option.map_some,
      show (((0xF0 + n / 0x40000 - 0xF0) * 0x40 + (0x80 + n / 0x1000 % 0x40 - 0x80)) * 0x40 +
        (0x80 + n / 0x40 % 0x40 - 0x80)) * 0x40 + (0x80 + n % 0x40 - 0x80) = n by omega, hchar]

/-- No characters have no bytes. -/
@[simp] theorem encodeChars_nil : encodeChars [] = [] := rfl

/-- The bytes of characters are those of the first and then those of the others. -/
@[simp] theorem encodeChars_cons (c : Char) (cs : List Char) :
    encodeChars (c :: cs) = encodeChar c ++ encodeChars cs :=
  List.flatMap_cons

/-- The bytes of two lists of characters follow each other. -/
@[simp] theorem encodeChars_append (cs ds : List Char) :
    encodeChars (cs ++ ds) = encodeChars cs ++ encodeChars ds :=
  List.flatMap_append

/-- The bytes of a text are those of its characters. -/
theorem encode_ofList (cs : List Char) : encode (String.ofList cs) = encodeChars cs := by
  rw [encode, String.toList_ofList]

/-- Reading starts with the characters whose bytes come first. -/
theorem units_encodeChars_append (cs : List Char) (rest : List UInt8) :
    units (encodeChars cs ++ rest) = cs.map some ++ units rest := by
  induction cs with
  | nil => rfl
  | cons c cs ih =>
    obtain ⟨b, tail, hbytes, hunit⟩ := unit_encodeChar c (encodeChars cs ++ rest)
    rw [encodeChars_cons, List.append_assoc, hbytes, List.cons_append, units_cons, hunit, ih,
      List.map_cons, List.cons_append]

/-- The units of the bytes of characters are these characters. -/
theorem units_encodeChars (cs : List Char) : units (encodeChars cs) = cs.map some := by
  have h := units_encodeChars_append cs []
  rw [List.append_nil, units_nil, List.append_nil] at h
  exact h

/-- No bytes are read as no characters. -/
@[simp] theorem decodeLenient_nil : decodeLenient [] = [] := by
  rw [decodeLenient, units_nil, List.filterMap_nil]

/-- The bytes of characters are read as these, whatever follows them. -/
theorem decodeLenient_encodeChars_append (cs : List Char) (rest : List UInt8) :
    decodeLenient (encodeChars cs ++ rest) = cs ++ decodeLenient rest := by
  have hcs : (cs.map some).filterMap id = cs := by
    rw [List.filterMap_map]
    exact List.filterMap_some
  rw [decodeLenient, units_encodeChars_append, List.filterMap_append, hcs, decodeLenient]

/-- The bytes of characters are read as these. -/
theorem decodeLenient_encodeChars (cs : List Char) : decodeLenient (encodeChars cs) = cs := by
  have h := decodeLenient_encodeChars_append cs []
  rwa [List.append_nil, decodeLenient_nil, List.append_nil] at h

/-- The bytes of characters are well formed and read as these. -/
theorem decodeStrict?_encodeChars (cs : List Char) :
    decodeStrict? (encodeChars cs) = some cs := by
  have hall : (cs.map some).all Option.isSome = true := by simp
  rw [decodeStrict?, units_encodeChars, if_pos hall, List.filterMap_map]
  exact congrArg some List.filterMap_some

/-- The bytes that follow a leading byte run out, or further bytes change nothing. -/
theorem follow_append (code : Nat) (ranges : List ByteRange) (bytes more : List UInt8) :
    follow code ranges bytes = (none, []) ∨
      follow code ranges (bytes ++ more) =
        ((follow code ranges bytes).1, (follow code ranges bytes).2 ++ more) := by
  induction ranges generalizing code bytes with
  | nil => exact Or.inr rfl
  | cons range ranges ih =>
    cases bytes with
    | nil => exact Or.inl rfl
    | cons b rest =>
      rw [List.cons_append, follow, follow]
      by_cases h : range.low ≤ b.toNat ∧ b.toNat ≤ range.high
      · rw [if_pos h, if_pos h]
        exact ih _ rest
      · rw [if_neg h, if_neg h]
        exact Or.inr rfl

/-- A unit runs into the end of the bytes, or further bytes do not change it. -/
theorem unit_append (b : UInt8) (rest more : List UInt8) :
    unit b rest = (none, []) ∨
      unit b (rest ++ more) = ((unit b rest).1, (unit b rest).2 ++ more) := by
  unfold unit
  cases lead? b.toNat with
  | none => exact Or.inr rfl
  | some announced =>
    obtain ⟨payload, ranges⟩ := announced
    dsimp only
    rcases follow_append payload ranges rest more with h | h
    · left
      rw [h]
      rfl
    · right
      rw [h]

/-- Bytes are read unit by unit; a unit that is ill formed gives nothing. -/
theorem decodeLenient_cons (b : UInt8) (rest : List UInt8) :
    decodeLenient (b :: rest) = (unit b rest).1.toList ++ decodeLenient (unit b rest).2 := by
  rw [decodeLenient, decodeLenient, units_cons]
  cases (unit b rest).1 <;> rfl

/-- As many characters are read from ASCII bytes as there are bytes. -/
theorem length_decodeLenient_of_ascii {bytes : List UInt8} (h : ∀ b ∈ bytes, b.toNat < 0x80) :
    (decodeLenient bytes).length = bytes.length := by
  induction bytes with
  | nil => exact congrArg List.length decodeLenient_nil
  | cons b rest ih =>
    have hb : b.toNat < 0x80 := h b List.mem_cons_self
    have hlead : lead? b.toNat = some (b.toNat, []) := if_pos hb
    rw [decodeLenient_cons, unit, hlead]
    simp only [follow, Option.map_some, Option.toList_some, List.singleton_append,
      List.length_cons]
    rw [ih fun b' hb' => h b' (List.mem_cons_of_mem b hb')]

/-- Induction over the units of some bytes. -/
@[elab_as_elim]
theorem units_induction {P : List UInt8 → Prop} (nil : P [])
    (cons : ∀ b rest, P (unit b rest).2 → P (b :: rest)) (bytes : List UInt8) : P bytes := by
  induction h : bytes.length using Nat.strongRecOn generalizing bytes with
  | ind n ih =>
    cases bytes with
    | nil => exact nil
    | cons b rest =>
      have hshort : (unit b rest).2.length < n := by
        have hle := length_unit_le b rest
        rw [List.length_cons] at h
        omega
      exact cons b rest (ih _ hshort _ rfl)

/-- More bytes never hold fewer characters. -/
theorem length_decodeLenient_le_append (bytes more : List UInt8) :
    (decodeLenient bytes).length ≤ (decodeLenient (bytes ++ more)).length := by
  induction bytes using units_induction with
  | nil =>
    rw [decodeLenient_nil]
    exact Nat.zero_le _
  | cons b rest ih =>
    rw [List.cons_append, decodeLenient_cons, decodeLenient_cons]
    -- a unit cut off by the end holds no character and nothing comes after it
    rcases unit_append b rest more with hend | hsame
    · rw [hend, decodeLenient_nil]
      exact Nat.zero_le _
    · rw [hsame, List.length_append, List.length_append]
      exact Nat.add_le_add_left ih _

/-- No fewer characters are read from more of the bytes. -/
theorem length_decodeLenient_take_le (bytes : List UInt8) {m n : Nat} (h : m ≤ n) :
    (decodeLenient (bytes.take m)).length ≤ (decodeLenient (bytes.take n)).length := by
  have hsplit : bytes.take n = bytes.take m ++ (bytes.take n).drop m := by
    have htake : (bytes.take n).take m = bytes.take m := by
      rw [List.take_take, Nat.min_eq_left h]
    rw [← htake, List.take_append_drop]
  rw [hsplit]
  exact length_decodeLenient_le_append _ _

/-- The bytes of a character that is cut off hold no character. -/
theorem decodeLenient_take_encodeChar {c : Char} {n : Nat} (h : n < (encodeChar c).length) :
    decodeLenient ((encodeChar c).take n) = [] := by
  obtain ⟨b, tail, hbytes, hunit⟩ := unit_encodeChar c []
  rw [List.append_nil] at hunit
  rw [hbytes] at h ⊢
  cases n with
  | zero => rw [List.take_zero, decodeLenient_nil]
  | succ n =>
    rw [List.take_succ_cons, decodeLenient_cons]
    rcases unit_append b (tail.take n) (tail.drop n) with hend | hsame
    · rw [hend, decodeLenient_nil]
      rfl
    · -- the unit would be the whole character, with some of its bytes left over
      rw [List.take_append_drop, hunit] at hsame
      have hrest : (unit b (tail.take n)).2 ++ tail.drop n = [] :=
        (congrArg Prod.snd hsame).symm
      have hdrop : tail.drop n = [] := (List.append_eq_nil_iff.mp hrest).2
      have hlength := List.drop_eq_nil_iff.mp hdrop
      rw [List.length_cons] at h
      omega

/-- A character has at least one byte. -/
theorem length_encodeChar_pos (c : Char) : 0 < (encodeChar c).length := by
  obtain ⟨b, tail, hbytes, -⟩ := unit_encodeChar c []
  rw [hbytes, List.length_cons]
  exact Nat.succ_pos _

/-- One character more takes up its own bytes more. -/
theorem byteCount_take_succ {cs rest : List Char} {c : Char} {k : Nat} (h : cs.drop k = c :: rest) :
    byteCount (cs.take (k + 1)) = byteCount (cs.take k) + (encodeChar c).length := by
  have hk : cs[k]? = some c := by
    rw [← List.head?_drop, h, List.head?_cons]
  rw [List.take_add_one, hk, Option.toList_some, byteCount, encodeChars_append, List.length_append,
    encodeChars_cons, encodeChars_nil, List.append_nil, byteCount]

/-- More of the characters take up no fewer bytes. -/
theorem byteCount_take_le (cs : List Char) {m n : Nat} (h : m ≤ n) :
    byteCount (cs.take m) ≤ byteCount (cs.take n) := by
  obtain ⟨rest, hrest⟩ : cs.take m <+: cs.take n := List.take_prefix_take_left h
  rw [← hrest, byteCount, byteCount, encodeChars_append, List.length_append]
  exact Nat.le_add_right _ _

/-- More characters take more bytes. -/
theorem byteCount_take_lt {cs : List Char} {m n : Nat} (hmn : m < n) (hn : n ≤ cs.length) :
    byteCount (cs.take m) < byteCount (cs.take n) := by
  have hdrop := List.drop_eq_getElem_cons (lt_of_lt_of_le hmn hn)
  have hsucc := byteCount_take_succ hdrop
  have hpos := length_encodeChar_pos cs[m]
  have hle : byteCount (cs.take (m + 1)) ≤ byteCount (cs.take n) := byteCount_take_le cs hmn
  omega

/-- Bytes that end before the next character is whole hold the characters before it. -/
theorem decodeLenient_take_encodeChars {cs : List Char} {k n : Nat}
    (hk : byteCount (cs.take k) ≤ n)
    (hnext : ∀ c rest, cs.drop k = c :: rest → n < byteCount (cs.take (k + 1))) :
    decodeLenient ((encodeChars cs).take n) = cs.take k := by
  have hsplit : encodeChars cs = encodeChars (cs.take k) ++ encodeChars (cs.drop k) := by
    rw [← encodeChars_append, List.take_append_drop]
  obtain ⟨m, rfl⟩ := Nat.exists_eq_add_of_le hk
  have hrest : decodeLenient ((encodeChars (cs.drop k)).take m) = [] := by
    cases hdrop : cs.drop k with
    | nil => rw [encodeChars_nil, List.take_nil, decodeLenient_nil]
    | cons c rest =>
      have hcut := hnext c rest hdrop
      rw [byteCount_take_succ hdrop] at hcut
      rw [encodeChars_cons, List.take_append_of_le_length (by omega),
        decodeLenient_take_encodeChar (by omega)]
  rw [hsplit, byteCount, List.take_length_add_append, decodeLenient_encodeChars_append, hrest,
    List.append_nil]

/-- Some of the bytes of some characters hold the greatest number of these characters that they
have room for. -/
theorem isGreatest_length_decodeLenient_take (cs : List Char) (n : Nat) :
    IsGreatest {k | k ≤ cs.length ∧ byteCount (cs.take k) ≤ n}
      (decodeLenient ((encodeChars cs).take n)).length := by
  have hexists : ∃ k, IsGreatest {k | k ≤ cs.length ∧ byteCount (cs.take k) ≤ n} k := by
    refine ⟨Nat.findGreatest (fun k => byteCount (cs.take k) ≤ n) cs.length, ⟨?_, ?_⟩, ?_⟩
    · exact Nat.findGreatest_le cs.length
    · exact Nat.findGreatest_spec (P := fun k => byteCount (cs.take k) ≤ n) (Nat.zero_le _)
        (Nat.zero_le n)
    · rintro m ⟨hm, hroom⟩
      exact Nat.le_findGreatest hm hroom
  obtain ⟨k, hgreatest⟩ := hexists
  obtain ⟨hk, hroom⟩ := hgreatest.1
  have hnext : ∀ c rest, cs.drop k = c :: rest → n < byteCount (cs.take (k + 1)) := by
    intro c rest hdrop
    by_contra hfits
    have hlength : k < cs.length := by
      have := congrArg List.length hdrop
      rw [List.length_drop, List.length_cons] at this
      omega
    have := hgreatest.2 ⟨hlength, Nat.not_lt.mp hfits⟩
    omega
  rw [decodeLenient_take_encodeChars hroom hnext, List.length_take_of_le hk]
  exact hgreatest

/-- A number below 256 is the byte of a line feed only if it is ten. -/
theorem lineFeed_eq_ofNat_iff {x : Nat} (hx : x < 256) : (10 : UInt8) = UInt8.ofNat x ↔ x = 10 := by
  rw [← UInt8.toNat_inj, toNat_ofNat hx]
  exact eq_comm

/-- Only the line feed has the byte of a line feed in it. -/
theorem lineFeed_mem_encodeChar_iff {c : Char} : (10 : UInt8) ∈ encodeChar c ↔ c = '\n' := by
  have hvalid := toNat_valid c
  have hchar : c = '\n' ↔ c.toNat = 10 := Char.toNat_inj.symm
  rw [hchar]
  unfold encodeChar
  generalize c.toNat = n at hvalid
  dsimp only
  split
  · rw [List.mem_singleton, lineFeed_eq_ofNat_iff (by omega)]
  · split
    · rw [List.mem_pair, lineFeed_eq_ofNat_iff (by omega), lineFeed_eq_ofNat_iff (by omega)]
      omega
    · split
      · rw [List.mem_cons, List.mem_pair, lineFeed_eq_ofNat_iff (by omega),
          lineFeed_eq_ofNat_iff (by omega), lineFeed_eq_ofNat_iff (by omega)]
        omega
      · rw [List.mem_cons, List.mem_cons, List.mem_pair, lineFeed_eq_ofNat_iff (by omega),
          lineFeed_eq_ofNat_iff (by omega), lineFeed_eq_ofNat_iff (by omega),
          lineFeed_eq_ofNat_iff (by omega)]
        omega

/-- A line feed is one byte. -/
theorem encodeChar_lineFeed : encodeChar '\n' = [10] := by
  decide

end Enclosure.Utf8
