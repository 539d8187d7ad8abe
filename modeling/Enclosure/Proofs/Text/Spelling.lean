import Enclosure.Proofs.Text.LowerCase
import Mathlib.Data.List.Basic

/-!
# Words in any letter case

A letter outside ASCII has its lower case outside ASCII, but for the Kelvin sign, whose lower case
is the letter k, and U+0130, whose lower case is two characters. So the texts whose lower case is a
given word of ASCII letters without a k are the spellings of that word in capital and small letters
of ASCII, and no others.
-/

set_option autoImplicit false

namespace Enclosure.LowerCase

/-- The lower case of an ASCII character is that of its letter. -/
theorem lowerChar_of_ascii {c : Char} (h : c.toNat < 0x80) : lowerChar c = c.toLower := by
  have htable : ∀ n : Fin 0x80, lowerChar (Char.ofNat n) = (Char.ofNat n).toLower := by
    decide +kernel
  have hc := htable ⟨c.toNat, h⟩
  rwa [Char.ofNat_toNat] at hc

/-- Only ASCII letters have a lower case of this kind. -/
theorem toLower_of_not_ascii {c : Char} (h : 0x80 ≤ c.toNat) : c.toLower = c := by
  unfold Char.toLower
  apply dif_neg
  rintro ⟨-, hlast⟩
  have hle : c.toNat ≤ 'Z'.toNat := UInt32.le_iff_toNat_le.mp hlast
  have hz : 'Z'.toNat = 0x5A := rfl
  omega

/-- The lower case of a letter outside ASCII is outside ASCII, with one exception. -/
theorem lowerChar_of_not_ascii {c : Char} (h : 0x80 ≤ c.toNat) :
    0x80 ≤ (lowerChar c).toNat ∨ lowerChar c = 'k' := by
  have htable : runs.all (fun r => Nat.ble 0x80 r.image.first ||
      Nat.beq r.image.first 0x6B && Nat.beq r.image.last 0x6B) = true := by
    decide +kernel
  unfold lowerChar
  rw [if_neg (by omega)]
  cases hfind : runs.find? fun r => r.holds c.toNat with
  | none => exact Or.inl h
  | some r =>
    have hmem : r ∈ runs := List.mem_of_find?_eq_some hfind
    have hholds := List.find?_some hfind
    have hlands : r.lands = true := lands_of_mem (List.mem_cons_of_mem _ hmem)
    have himage := Run.holds_iff.mp (Run.image_holds hlands hholds)
    have htoNat := Run.toNat_ofNat_of_lands hlands hholds
    have hrow := List.all_eq_true.mp htable r hmem
    simp only [Bool.or_eq_true, Bool.and_eq_true, Nat.ble_eq, Nat.beq_eq] at hrow
    rcases hrow with hfirst | ⟨hfirst, hlast⟩
    · left
      dsimp only
      omega
    · right
      have hk : (c.toNat + r.shift).toNat = 0x6B := by omega
      dsimp only
      rw [hk]

/-- A character outside ASCII leaves something in the lower case of a text that is outside ASCII or
the letter k. -/
theorem exists_mem_lowerFrom_cons {c : Char} (h : 0x80 ≤ c.toNat) (before rest : List Char) :
    ∃ d ∈ lowerFrom before (c :: rest), 0x80 ≤ d.toNat ∨ d = 'k' := by
  rw [lowerFrom]
  split
  · refine ⟨_, List.mem_cons_self, Or.inl ?_⟩
    split <;> decide
  · split
    · exact ⟨'\u0307', List.mem_cons_of_mem _ List.mem_cons_self, Or.inl (by decide)⟩
    · exact ⟨_, List.mem_cons_self, lowerChar_of_not_ascii h⟩

/-- Only a dot has a dot for its lower case. -/
theorem eq_dot_of_lowerChar_eq {c : Char} (h : lowerChar c = '.') : c = '.' := by
  have htable : ∀ n : Fin 0x80, lowerChar (Char.ofNat n) = '.' → Char.ofNat n = '.' := by
    decide +kernel
  by_cases hascii : c.toNat < 0x80
  · have hc := htable ⟨c.toNat, hascii⟩
    rw [Char.ofNat_toNat] at hc
    exact hc h
  · rcases lowerChar_of_not_ascii (Nat.not_lt.mp hascii) with hlarge | hk
    · rw [h] at hlarge
      exact absurd hlarge (by decide)
    · rw [h] at hk
      cases hk

/-- Changing to lower case makes no dots. -/
theorem dot_not_mem_lowerFrom {before cs : List Char} (h : '.' ∉ cs) :
    '.' ∉ lowerFrom before cs := by
  induction cs generalizing before with
  | nil => exact List.not_mem_nil
  | cons c rest ih =>
    rw [List.mem_cons, not_or] at h
    rw [lowerFrom]
    split
    · rw [List.mem_cons, not_or]
      refine ⟨?_, ih h.2⟩
      split <;> decide
    · split
      · rw [List.mem_cons, List.mem_cons, not_or, not_or]
        exact ⟨by decide, by decide, ih h.2⟩
      · rw [List.mem_cons, not_or]
        exact ⟨fun heq => h.1 (eq_dot_of_lowerChar_eq heq.symm).symm, ih h.2⟩

/-- A word in ASCII without the letter k is the lower case of its spellings in ASCII alone. -/
theorem lowerFrom_eq_iff {before cs word : List Char}
    (hword : ∀ d ∈ word, d.toNat < 0x80 ∧ d ≠ 'k') :
    lowerFrom before cs = word ↔ cs.map Char.toLower = word := by
  induction cs generalizing before word with
  | nil => rfl
  | cons c rest ih =>
    by_cases hascii : c.toNat < 0x80
    · have hsigma : c ≠ '\u03A3' := by
        rintro rfl
        exact absurd hascii (by decide)
      have hdot : c ≠ '\u0130' := by
        rintro rfl
        exact absurd hascii (by decide)
      rw [lowerFrom, if_neg hsigma, if_neg hdot, lowerChar_of_ascii hascii, List.map_cons]
      cases word with
      | nil => simp
      | cons d word =>
        rw [List.cons.injEq, List.cons.injEq,
          ih fun e he => hword e (List.mem_cons_of_mem d he)]
    · have hc : 0x80 ≤ c.toNat := by omega
      -- neither side holds: something is left that does not occur in the word
      refine iff_of_false ?_ ?_
      · rintro rfl
        obtain ⟨d, hd, hcase⟩ := exists_mem_lowerFrom_cons hc before rest
        obtain ⟨hsmall, hk⟩ := hword d hd
        rcases hcase with hlarge | rfl
        · omega
        · exact hk rfl
      · rintro rfl
        have hsmall := (hword c.toLower List.mem_cons_self).1
        rw [toLower_of_not_ascii hc] at hsmall
        omega

/-- A text has an ASCII word without `k` for its lower case exactly when it spells the word. -/
theorem lower_eq_iff {text word : String}
    (hword : ∀ d ∈ word.toList, d.toNat < 0x80 ∧ d ≠ 'k') :
    lower text = word ↔ text.toList.map Char.toLower = word.toList := by
  rw [lower, ← String.toList_inj, String.toList_ofList]
  exact lowerFrom_eq_iff hword

end Enclosure.LowerCase
