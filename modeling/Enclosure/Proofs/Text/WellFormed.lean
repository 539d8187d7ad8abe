import Enclosure.Proofs.Text.Utf8

/-!
# Well-formed UTF-8

A unit that holds a character is the bytes of this character, in their only spelling, so bytes that
are read strictly are the bytes of the characters that were read.
-/

set_option autoImplicit false

namespace Enclosure.Utf8

/-- A leading byte with its payload and the ranges of the bytes that must follow it. -/
inductive Announces (b payload : Nat) : List ByteRange → Prop
  | one (hb : b = payload) (hsmall : payload < 0x80) : Announces b payload []
  | two (hb : b = 0xC0 + payload) (hoverlong : 2 ≤ payload) (hsmall : payload < 0x20) :
    Announces b payload [.tail]
  | three {low high : Nat} (hb : b = 0xE0 + payload) (hsmall : payload < 0x10) (hlow : 0x80 ≤ low)
    (hhigh : high ≤ 0xBF) (hoverlong : payload = 0 → 0xA0 ≤ low)
    (hsurrogate : payload = 0xD → high ≤ 0x9F) : Announces b payload [⟨low, high⟩, .tail]
  | four {low high : Nat} (hb : b = 0xF0 + payload) (hsmall : payload < 5) (hlow : 0x80 ≤ low)
    (hhigh : high ≤ 0xBF) (hoverlong : payload = 0 → 0x90 ≤ low)
    (hlast : payload = 4 → high ≤ 0x8F) : Announces b payload [⟨low, high⟩, .tail, .tail]

/-- A lead byte announces one of four kinds of units. -/
theorem announces_of_lead? {b payload : Nat} {ranges : List ByteRange}
    (h : lead? b = some (payload, ranges)) : Announces b payload ranges := by
  have hinj {p : Nat} {rs : List ByteRange} (h : some (p, rs) = some (payload, ranges)) :
      p = payload ∧ rs = ranges := Prod.mk.inj (Option.some.inj h)
  unfold lead? at h
  split at h
  · obtain ⟨hpayload, rfl⟩ := hinj h
    exact .one hpayload (by omega)
  split at h
  · cases h
  split at h
  · obtain ⟨hpayload, rfl⟩ := hinj h
    exact .two (by omega) (by omega) (by omega)
  split at h
  · obtain ⟨hpayload, rfl⟩ := hinj h
    exact .three (by omega) (by omega) (by omega) (by omega) (by omega) (by omega)
  split at h
  · obtain ⟨hpayload, rfl⟩ := hinj h
    exact .three (by omega) (by omega) (by omega) (by omega) (by omega) (by omega)
  split at h
  · obtain ⟨hpayload, rfl⟩ := hinj h
    exact .three (by omega) (by omega) (by omega) (by omega) (by omega) (by omega)
  split at h
  · obtain ⟨hpayload, rfl⟩ := hinj h
    exact .four (by omega) (by omega) (by omega) (by omega) (by omega) (by omega)
  split at h
  · obtain ⟨hpayload, rfl⟩ := hinj h
    exact .four (by omega) (by omega) (by omega) (by omega) (by omega) (by omega)
  split at h
  · obtain ⟨hpayload, rfl⟩ := hinj h
    exact .four (by omega) (by omega) (by omega) (by omega) (by omega) (by omega)
  · cases h

/-- No byte that must follow another one is ASCII. -/
theorem Announces.le_low {b payload : Nat} {ranges : List ByteRange}
    (h : Announces b payload ranges) : ∀ range ∈ ranges, 0x80 ≤ range.low := by
  have htail : 0x80 ≤ ByteRange.tail.low := le_rfl
  cases h with
  | one => simp
  | two => simpa using htail
  | three _ _ hlow => simpa using ⟨hlow, htail⟩
  | four _ _ hlow => simpa using ⟨hlow, htail⟩

/-- A unit without further bytes has the code of its lead byte. -/
theorem follow_nil_eq_some {code n : Nat} {bytes after : List UInt8}
    (h : follow code [] bytes = (some n, after)) : n = code ∧ bytes = after := by
  rw [follow] at h
  cases h
  exact ⟨rfl, rfl⟩

/-- A unit goes on with a byte in the range that was announced. -/
theorem follow_cons_eq_some {code n : Nat} {range : ByteRange} {more : List ByteRange}
    {bytes after : List UInt8} (h : follow code (range :: more) bytes = (some n, after)) :
    ∃ x rest, bytes = x :: rest ∧ (range.low ≤ x.toNat ∧ x.toNat ≤ range.high) ∧
      follow (code * 0x40 + (x.toNat - 0x80)) more rest = (some n, after) := by
  cases bytes with
  | nil => cases h
  | cons x rest =>
    rw [follow] at h
    by_cases hx : range.low ≤ x.toNat ∧ x.toNat ≤ range.high
    · rw [if_pos hx] at h
      exact ⟨x, rest, rfl, hx, h⟩
    · rw [if_neg hx] at h
      cases h

/-- The code of a character that is made of a code is that code. -/
theorem toNat_charOfNat {n : Nat} (h : n.isValidChar) : (Char.ofNat n).toNat = n := by
  rw [Char.ofNat, dif_pos h]
  rfl

/-- A byte is made of its own number. -/
theorem ofNat_eq_of_toNat {x : UInt8} {n : Nat} (h : n = x.toNat) : UInt8.ofNat n = x := by
  rw [h, UInt8.ofNat_toNat]

section

variable {b x y z : UInt8} {p n : Nat}

/-- A code below 0x80 is written as one byte. -/
theorem encodeChar_one (hb : b.toNat = n) (hn : n < 0x80) : encodeChar (Char.ofNat n) = [b] := by
  have hvalid : n.isValidChar := Or.inl (by omega)
  unfold encodeChar
  rw [toNat_charOfNat hvalid]
  dsimp only
  rw [if_pos hn, ofNat_eq_of_toNat hb.symm]

/-- A code with eleven bits is written as two bytes. -/
theorem encodeChar_two (hb : b.toNat = 0xC0 + p) (hoverlong : 2 ≤ p) (hp : p < 0x20)
    (hx : 0x80 ≤ x.toNat) (hx' : x.toNat ≤ 0xBF) (hn : n = p * 0x40 + (x.toNat - 0x80)) :
    encodeChar (Char.ofNat n) = [b, x] := by
  have hvalid : n.isValidChar := Or.inl (by omega)
  unfold encodeChar
  rw [toNat_charOfNat hvalid]
  dsimp only
  rw [if_neg (by omega), if_pos (by omega), ofNat_eq_of_toNat (x := b) (by omega),
    ofNat_eq_of_toNat (x := x) (by omega)]

/-- A code with sixteen bits that is no surrogate is written as three bytes. -/
theorem encodeChar_three (hb : b.toNat = 0xE0 + p) (hp : p < 0x10) (hx : 0x80 ≤ x.toNat)
    (hx' : x.toNat ≤ 0xBF) (hoverlong : p = 0 → 0xA0 ≤ x.toNat)
    (hsurrogate : p = 0xD → x.toNat ≤ 0x9F) (hy : 0x80 ≤ y.toNat) (hy' : y.toNat ≤ 0xBF)
    (hn : n = (p * 0x40 + (x.toNat - 0x80)) * 0x40 + (y.toNat - 0x80)) :
    encodeChar (Char.ofNat n) = [b, x, y] := by
  have hvalid : n < 0xD800 ∨ 0xDFFF < n ∧ n < 0x110000 := by omega
  unfold encodeChar
  rw [toNat_charOfNat hvalid]
  dsimp only
  rw [if_neg (by omega), if_neg (by omega), if_pos (by omega),
    ofNat_eq_of_toNat (x := b) (by omega), ofNat_eq_of_toNat (x := x) (by omega),
    ofNat_eq_of_toNat (x := y) (by omega)]

/-- A code beyond sixteen bits is written as four bytes. -/
theorem encodeChar_four (hb : b.toNat = 0xF0 + p) (hp : p < 5) (hx : 0x80 ≤ x.toNat)
    (hx' : x.toNat ≤ 0xBF) (hoverlong : p = 0 → 0x90 ≤ x.toNat) (hlast : p = 4 → x.toNat ≤ 0x8F)
    (hy : 0x80 ≤ y.toNat) (hy' : y.toNat ≤ 0xBF) (hz : 0x80 ≤ z.toNat) (hz' : z.toNat ≤ 0xBF)
    (hn : n = ((p * 0x40 + (x.toNat - 0x80)) * 0x40 + (y.toNat - 0x80)) * 0x40 +
      (z.toNat - 0x80)) :
    encodeChar (Char.ofNat n) = [b, x, y, z] := by
  have hvalid : n < 0xD800 ∨ 0xDFFF < n ∧ n < 0x110000 := by omega
  unfold encodeChar
  rw [toNat_charOfNat hvalid]
  dsimp only
  rw [if_neg (by omega), if_neg (by omega), if_neg (by omega),
    ofNat_eq_of_toNat (x := b) (by omega), ofNat_eq_of_toNat (x := x) (by omega),
    ofNat_eq_of_toNat (x := y) (by omega), ofNat_eq_of_toNat (x := z) (by omega)]

end

/-- A unit that holds a character is the bytes of this character. -/
theorem encodeChar_of_unit {b : UInt8} {rest after : List UInt8} {c : Char}
    (h : unit b rest = (some c, after)) : b :: rest = encodeChar c ++ after := by
  unfold unit at h
  cases hlead : lead? b.toNat with
  | none =>
    rw [hlead] at h
    cases h
  | some announced =>
    obtain ⟨payload, ranges⟩ := announced
    rw [hlead] at h
    dsimp only at h
    obtain ⟨hcode, hafter⟩ := Prod.mk.inj h
    obtain ⟨n, hn, rfl⟩ := Option.map_eq_some_iff.mp hcode
    have hfollow : follow payload ranges rest = (some n, after) := Prod.ext hn hafter
    -- one case for each number of bytes; what follows the leading byte is peeled off byte by byte
    cases announces_of_lead? hlead with
    | one hb hsmall =>
      obtain ⟨rfl, rfl⟩ := follow_nil_eq_some hfollow
      rw [encodeChar_one hb hsmall]
      rfl
    | two hb hoverlong hsmall =>
      obtain ⟨x, rest, rfl, hx, hfollow⟩ := follow_cons_eq_some hfollow
      obtain ⟨hn, rfl⟩ := follow_nil_eq_some hfollow
      rw [encodeChar_two hb hoverlong hsmall hx.1 hx.2 hn]
      rfl
    | three hb hsmall hlow hhigh hoverlong hsurrogate =>
      obtain ⟨x, rest, rfl, hx, hfollow⟩ := follow_cons_eq_some hfollow
      obtain ⟨y, rest, rfl, hy, hfollow⟩ := follow_cons_eq_some hfollow
      obtain ⟨hn, rfl⟩ := follow_nil_eq_some hfollow
      dsimp only at hx
      rw [encodeChar_three hb hsmall (by omega) (by omega) (by omega) (by omega) hy.1 hy.2 hn]
      rfl
    | four hb hsmall hlow hhigh hoverlong hlast =>
      obtain ⟨x, rest, rfl, hx, hfollow⟩ := follow_cons_eq_some hfollow
      obtain ⟨y, rest, rfl, hy, hfollow⟩ := follow_cons_eq_some hfollow
      obtain ⟨z, rest, rfl, hz, hfollow⟩ := follow_cons_eq_some hfollow
      obtain ⟨hn, rfl⟩ := follow_nil_eq_some hfollow
      dsimp only at hx
      rw [encodeChar_four hb hsmall (by omega) (by omega) (by omega) (by omega) hy.1 hy.2 hz.1 hz.2
        hn]
      rfl

end Enclosure.Utf8
