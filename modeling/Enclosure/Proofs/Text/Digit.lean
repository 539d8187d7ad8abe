import Enclosure.Text.Digit
import Mathlib.Algebra.Group.Nat.Defs

/-!
# Integers that are read can be written

Digits in a base denote less than the base to the power of their number. In base ten only so many of
them are read, and an integer that is read has no more digits than are written.
-/

set_option autoImplicit false

namespace Enclosure.Digit

variable {base n d : Nat} {c : Char} {cs : List Char}

/-- The value of a digit in a base is less than the base. -/
theorem valueIn?_lt (h : valueIn? base c = some d) : d < base := by
  unfold valueIn? at h
  simpa using (Option.filter_eq_some_iff.mp h).2

/-- Digits after a number in a base denote no more than there is room for in their places. -/
theorem foldlM_lt {k : Nat} {ds : List Char}
    (h : ds.foldlM (fun n c => (valueIn? base c).map fun d => n * base + d) k = some n) :
    n < (k + 1) * base ^ ds.length := by
  induction ds generalizing k with
  | nil =>
    cases h
    simp
  | cons c rest ih =>
    rw [List.foldlM_cons] at h
    obtain ⟨next, hnext, hrest⟩ := Option.bind_eq_some_iff.mp h
    obtain ⟨d, hd, rfl⟩ := Option.map_eq_some_iff.mp hnext
    have hstep : k * base + d + 1 ≤ (k + 1) * base := by
      have hlt := valueIn?_lt hd
      rw [Nat.succ_mul]
      omega
    calc n < (k * base + d + 1) * base ^ rest.length := ih hrest
      _ ≤ (k + 1) * base * base ^ rest.length := Nat.mul_le_mul_right _ hstep
      _ = (k + 1) * base ^ (c :: rest).length := by
        rw [List.length_cons, Nat.pow_succ, Nat.mul_assoc, Nat.mul_comm base]

/-- Digits denote less than the base to the power of their number. -/
theorem ofDigits?_lt (h : ofDigits? base cs = some n) : n < base ^ cs.countP (· ≠ '_') := by
  have hlt := foldlM_lt h
  rwa [Nat.zero_add, Nat.one_mul, ← List.countP_eq_length_filter] at hlt

/-- A number that is read in base ten has no more digits than are written. -/
theorem natural_lt (h : natural 10 cs = .ok n) : n < 10 ^ Decimal.limit := by
  unfold natural at h
  dsimp only at h
  split at h
  · cases h
  · next hcount =>
    split at h
    · cases h
    · next hrest =>
      -- nothing follows the digits, so that all of them were counted
      have hall : cs.takeWhile isDecimal = cs := by
        have hnil : cs.dropWhile isDecimal = [] := by
          simpa [List.isEmpty_iff] using hrest
        have happend := List.takeWhile_append_dropWhile (p := isDecimal) (l := cs)
        rwa [hnil, List.append_nil] at happend
      rw [hall] at hcount
      split at h
      · next hspaced =>
        have hshort : cs.countP (· ≠ '_') ≤ Decimal.limit := by
          simpa [hspaced] using hcount
        split at h
        · next hdigits =>
          cases h
          have hpos : 0 < 10 := by decide
          exact Nat.lt_of_lt_of_le (ofDigits?_lt hdigits) (Nat.pow_le_pow_right hpos hshort)
        · cases h
      · cases h

/-- In base ten, no letter announces the base. -/
theorem unsigned_ten (cs : List Char) : unsigned 10 cs = natural 10 cs := by
  unfold unsigned
  split
  · exact if_neg (by simp [baseLetters])
  · rfl

/-- An integer that is read in base ten has no more digits than are written. -/
theorem natAbs_integer_lt {text : String} {i : Int} (h : integer 10 text = .ok i) :
    i.natAbs < 10 ^ Decimal.limit := by
  have hread {ds : List Char} {f : Nat → Int} (hf : ∀ n, (f n).natAbs = n)
      (hmap : (unsigned 10 ds).map f = .ok i) : i.natAbs < 10 ^ Decimal.limit := by
    rw [unsigned_ten] at hmap
    cases hn : natural 10 ds with
    | error e =>
      rw [hn] at hmap
      cases hmap
    | ok n =>
      rw [hn] at hmap
      cases hmap
      rw [hf]
      exact natural_lt hn
  unfold integer at h
  split at h
  · exact hread (fun n => by rw [Int.natAbs_neg, Int.natAbs_natCast]) h
  · exact hread Int.natAbs_natCast h
  · exact hread Int.natAbs_natCast h

end Enclosure.Digit
