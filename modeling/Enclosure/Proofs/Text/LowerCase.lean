import Enclosure.Text.Blank
import Enclosure.Text.LowerCase

/-!
# Lower case once and for all

Lower-casing a text a second time changes nothing, and neither does trimming the lower case of a
trimmed text. Both rest on one fact about the table of letters: the lower case of a letter is not
itself the capital of another letter, and it is not blank.
-/

set_option autoImplicit false

namespace Enclosure.LowerCase

/-! ### Where the runs lead -/

/-- The capital letters of ASCII, then those outside of it. -/
def capitals : List Run :=
  ⟨0x41, 0x5A, 1, 32⟩ :: runs

/-- The code points that the lower case of a letter must not have: capitals, U+0130 and blanks. -/
def obstacles : List Run :=
  capitals ++ ⟨0x130, 0x130, 1, 0⟩ :: Blank.ranges.map fun r => ⟨r.1, r.2, 1, 0⟩

namespace Run

/-- The lower case of the letters of a run. -/
def image (r : Run) : Run :=
  ⟨(r.first + r.shift).toNat, (r.last + r.shift).toNat, r.step, 0⟩

/-- Whether two runs plainly have no code point in common: one ends before the other starts, or one
has the even and the other one the odd code points. -/
def misses (r s : Run) : Bool :=
  Nat.blt r.last s.first || Nat.blt s.last r.first
    || (Nat.beq s.step 2 && (Nat.beq r.step 2 || Nat.beq r.first r.last)
      && Nat.beq ((r.first + s.first) % 2) 1)

/-- Whether the lower case of a run is made of characters. -/
def lands (r : Run) : Bool :=
  0 ≤ r.first + r.shift
    && (r.last + r.shift < 0xD800 || (0xDFFF < r.first + r.shift && r.last + r.shift < 0x110000))

/-- A run holds the codes between its ends that are a multiple of its step away from the first. -/
theorem holds_iff {r : Run} {n : Nat} :
    r.holds n = true ↔ r.first ≤ n ∧ n ≤ r.last ∧ (n - r.first) % r.step = 0 := by
  simp [holds, and_assoc]

/-- A code in one of two runs that miss each other is not in the other. -/
theorem not_holds_of_misses {r s : Run} {n : Nat} (hmiss : r.misses s = true)
    (hr : r.holds n = true) : s.holds n = false := by
  rw [holds_iff] at hr
  obtain ⟨hfirst, hlast, hstep⟩ := hr
  rw [Bool.eq_false_iff, ne_eq, holds_iff]
  rintro ⟨sfirst, slast, sstep⟩
  simp only [misses, Bool.or_eq_true, Bool.and_eq_true, Nat.blt_eq, Nat.beq_eq] at hmiss
  rcases hmiss with (hbefore | hafter) | ⟨⟨hs, hr⟩, hparity⟩
  · omega
  · omega
  · rw [hs] at sstep
    rcases hr with hr | hr
    · rw [hr] at hstep
      omega
    · omega

/-- The image of a run holds the images of its codes. -/
theorem image_holds {r : Run} {n : Nat} (hlands : r.lands = true) (h : r.holds n = true) :
    r.image.holds (n + r.shift).toNat = true := by
  simp only [lands, Bool.and_eq_true, decide_eq_true_eq] at hlands
  rw [holds_iff] at h ⊢
  obtain ⟨hfirst, hlast, hstep⟩ := h
  have hdiff : (n + r.shift).toNat - (r.first + r.shift).toNat = n - r.first := by omega
  refine ⟨?_, ?_, ?_⟩
  · simp only [image]
    omega
  · simp only [image]
    omega
  · simp only [image]
    rw [hdiff]
    exact hstep

/-- A run that lands among the characters has characters for images. -/
theorem isValidChar_of_lands {r : Run} {n : Nat} (hlands : r.lands = true)
    (h : r.holds n = true) : (n + r.shift).toNat.isValidChar := by
  simp only [lands, Bool.and_eq_true, Bool.or_eq_true, decide_eq_true_eq] at hlands
  rw [holds_iff] at h
  unfold Nat.isValidChar
  omega

/-- The image of a code in a run that lands is the code of a character. -/
theorem toNat_ofNat_of_lands {r : Run} {n : Nat} (hlands : r.lands = true)
    (h : r.holds n = true) :
    (Char.ofNat (n + r.shift).toNat).toNat = (n + r.shift).toNat := by
  rw [Char.ofNat, dif_pos (isValidChar_of_lands hlands h)]
  rfl

end Run

/-- Every run of capitals lands among the characters. -/
theorem lands_of_mem {r : Run} (h : r ∈ capitals) : r.lands = true := by
  have htable : capitals.all Run.lands = true := by decide +kernel
  exact List.all_eq_true.mp htable r h

/-- No image of a run of capitals is an obstacle. -/
theorem misses_of_mem {r s : Run} (hr : r ∈ capitals) (hs : s ∈ obstacles) :
    r.image.misses s = true := by
  have htable : (capitals.map Run.image).all (fun r => obstacles.all r.misses) = true := by
    decide +kernel
  have hrow := List.all_eq_true.mp htable r.image (List.mem_map_of_mem hr)
  exact List.all_eq_true.mp hrow s hs

/-! ### Letters that are in lower case -/

/-- The lower case of a character is its image in the first run of capitals that holds it. -/
theorem lowerChar_eq (c : Char) :
    lowerChar c =
      match capitals.find? fun r => r.holds c.toNat with
      | some r => Char.ofNat (c.toNat + r.shift).toNat
      | none => c := by
  have hascii : (Run.mk 0x41 0x5A 1 32).holds c.toNat = true ↔ 'A' ≤ c ∧ c ≤ 'Z' := by
    rw [Run.holds_iff]
    have hle (a b : Char) : a ≤ b ↔ a.toNat ≤ b.toNat := by
      rw [Char.le_def, UInt32.le_iff_toNat_le]
      rfl
    rw [hle, hle]
    simp only [Nat.mod_one, and_true]
    rfl
  unfold lowerChar capitals
  rw [List.find?_cons]
  by_cases hsmall : c.toNat < 0x80
  · rw [if_pos hsmall]
    have hruns : runs.find? (fun r => r.holds c.toNat) = none := by
      have htable : runs.all (fun r => 0x80 ≤ r.first) = true := by decide
      rw [List.find?_eq_none]
      intro r hr hholds
      have hfirst : 0x80 ≤ r.first := by simpa using List.all_eq_true.mp htable r hr
      have := (Run.holds_iff.mp hholds).1
      omega
    by_cases hletter : 'A' ≤ c ∧ c ≤ 'Z'
    · rw [if_pos hletter, hascii.mpr hletter]
      simp only
      congr 1
    · rw [if_neg hletter, Bool.eq_false_iff.mpr (mt hascii.mp hletter), hruns]
  · rw [if_neg hsmall]
    have hletter : (Run.mk 0x41 0x5A 1 32).holds c.toNat = false := by
      rw [Bool.eq_false_iff, ne_eq, Run.holds_iff]
      rintro ⟨-, hlast, -⟩
      exact hsmall (Nat.lt_of_le_of_lt hlast (by decide))
    cases runs.find? fun r => r.holds c.toNat <;> simp only [hletter]

/-- Whether a character is no capital and not U+0130. -/
def IsLow (c : Char) : Prop :=
  (∀ r ∈ capitals, r.holds c.toNat = false) ∧ c ≠ '\u0130'

/-- A low character is its own lower case. -/
theorem IsLow.lowerChar_eq {c : Char} (h : IsLow c) : lowerChar c = c := by
  have hnone : capitals.find? (fun r => r.holds c.toNat) = none := by
    rw [List.find?_eq_none]
    intro r hr
    rw [h.1 r hr]
    exact Bool.false_ne_true
  rw [LowerCase.lowerChar_eq, hnone]

/-- A low character is no capital sigma. -/
theorem IsLow.ne_sigma {c : Char} (h : IsLow c) : c ≠ '\u03A3' := by
  rintro rfl
  have hsome : capitals.any (fun r => r.holds '\u03A3'.toNat) = true := by decide +kernel
  obtain ⟨r, hr, hholds⟩ := List.any_eq_true.mp hsome
  rw [h.1 r hr] at hholds
  cases hholds

/-- A capital becomes a letter that misses all obstacles, and any other character stays. -/
theorem lowerChar_cases (c : Char) :
    (∀ s ∈ obstacles, s.holds (lowerChar c).toNat = false) ∨
      lowerChar c = c ∧ ∀ r ∈ capitals, r.holds c.toNat = false := by
  rw [lowerChar_eq]
  cases hfind : capitals.find? fun r => r.holds c.toNat with
  | some r =>
    left
    intro s hs
    have hmem := List.mem_of_find?_eq_some hfind
    have hholds := List.find?_some hfind
    have hlands := lands_of_mem hmem
    dsimp only
    rw [Run.toNat_ofNat_of_lands hlands hholds]
    exact Run.not_holds_of_misses (misses_of_mem hmem hs) (Run.image_holds hlands hholds)
  | none =>
    right
    rw [List.find?_eq_none] at hfind
    exact ⟨rfl, fun r hr => Bool.eq_false_iff.mpr (hfind r hr)⟩

/-- The lower case of a character is low, unless it is the capital that becomes two. -/
theorem isLow_lowerChar {c : Char} (h : c ≠ '\u0130') : IsLow (lowerChar c) := by
  rcases lowerChar_cases c with hmiss | ⟨heq, hlow⟩
  · refine ⟨fun r hr => hmiss r (List.mem_append_left _ hr), ?_⟩
    intro heq
    have hdot : (⟨0x130, 0x130, 1, 0⟩ : Run) ∈ obstacles :=
      List.mem_append_right _ List.mem_cons_self
    have := hmiss _ hdot
    rw [heq] at this
    exact absurd this (by decide)
  · rw [heq]
    exact ⟨hlow, h⟩

/-- The lower case of a character that is not blank is not blank. -/
theorem isBlank_lowerChar {c : Char} (h : Blank.isBlank c = false) :
    Blank.isBlank (lowerChar c) = false := by
  rcases lowerChar_cases c with hmiss | ⟨heq, -⟩
  · rw [Blank.isBlank, Bool.eq_false_iff, ne_eq, CodeRanges.mem_iff]
    rintro ⟨r, hr, hfirst, hlast⟩
    have hmem : (⟨r.1, r.2, 1, 0⟩ : Run) ∈ obstacles :=
      List.mem_append_right _ (List.mem_cons_of_mem _ (List.mem_map_of_mem hr))
    have hholds : (⟨r.1, r.2, 1, 0⟩ : Run).holds (lowerChar c).toNat = true :=
      Run.holds_iff.mpr ⟨hfirst, hlast, Nat.mod_one _⟩
    rw [hmiss _ hmem] at hholds
    cases hholds
  · rw [heq]
    exact h

/-! ### Texts that are in lower case -/

/-- What a character is replaced by in front of some characters and after others. -/
theorem exists_lowerFrom_cons (before : List Char) (c : Char) (rest : List Char) :
    ∃ ds, ds ≠ [] ∧ (∀ d ∈ ds, IsLow d) ∧
      (Blank.isBlank c = false → ∀ d ∈ ds, Blank.isBlank d = false) ∧
      lowerFrom before (c :: rest) = ds ++ lowerFrom (c :: before) rest := by
  rw [lowerFrom]
  split
  · refine ⟨[_], List.cons_ne_nil _ _, ?_, ?_, rfl⟩
    · rw [List.forall_mem_singleton]
      split <;> exact ⟨by decide +kernel, by decide⟩
    · intro _
      rw [List.forall_mem_singleton]
      split <;> decide
  · split
    · refine ⟨['i', '\u0307'], List.cons_ne_nil _ _, ?_, ?_, rfl⟩
      · intro d hd
        simp only [List.mem_cons, List.not_mem_nil, or_false] at hd
        rcases hd with rfl | rfl <;> exact ⟨by decide +kernel, by decide⟩
      · intro _ d hd
        simp only [List.mem_cons, List.not_mem_nil, or_false] at hd
        rcases hd with rfl | rfl <;> decide
    · next hdot =>
      refine ⟨[lowerChar c], List.cons_ne_nil _ _, ?_, ?_, rfl⟩
      · rw [List.forall_mem_singleton]
        exact isLow_lowerChar hdot
      · intro hblank
        rw [List.forall_mem_singleton]
        exact isBlank_lowerChar hblank

/-- All characters of a text in lower case are low. -/
theorem isLow_of_mem_lowerFrom {before cs : List Char} {d : Char}
    (h : d ∈ lowerFrom before cs) : IsLow d := by
  induction cs generalizing before with
  | nil => cases h
  | cons c rest ih =>
    obtain ⟨ds, -, hlow, -, heq⟩ := exists_lowerFrom_cons before c rest
    rw [heq, List.mem_append] at h
    rcases h with h | h
    · exact hlow d h
    · exact ih h

/-- A text of low characters is its own lower case. -/
theorem lowerFrom_eq_self {before cs : List Char} (h : ∀ c ∈ cs, IsLow c) :
    lowerFrom before cs = cs := by
  induction cs generalizing before with
  | nil => rfl
  | cons c rest ih =>
    rw [List.forall_mem_cons] at h
    rw [lowerFrom, if_neg h.1.ne_sigma, if_neg h.1.2, h.1.lowerChar_eq, ih h.2]

/-- A text in lower case is its own lower case. -/
theorem lower_lower (text : String) : lower (lower text) = lower text := by
  unfold lower
  rw [String.toList_ofList, lowerFrom_eq_self fun _ hd => isLow_of_mem_lowerFrom hd]

end Enclosure.LowerCase

/-! ### Trimmed texts -/

namespace Enclosure.Blank

variable {test : Char → Bool} {cs : List Char}

/-- Whether neither the first nor the last of some characters satisfies a test. -/
def Trimmed (test : Char → Bool) (cs : List Char) : Prop :=
  (∀ c ∈ cs.head?, test c = false) ∧ ∀ c ∈ cs.getLast?, test c = false

/-- What is left after characters are dropped starts with one that is not to be dropped. -/
theorem head?_dropWhile {c : Char} (h : c ∈ (cs.dropWhile test).head?) : test c = false := by
  have hhead := List.head?_dropWhile_not test cs
  rw [Option.mem_def] at h
  rw [h] at hhead
  simpa using hhead

/-- Nothing is dropped from characters that start with one that is not to be dropped. -/
theorem dropWhile_eq_self (h : ∀ c ∈ cs.head?, test c = false) : cs.dropWhile test = cs := by
  cases cs with
  | nil => rfl
  | cons c rest =>
    rw [List.dropWhile_cons_of_neg]
    rw [h c rfl]
    exact Bool.false_ne_true

/-- What is trimmed is trimmed. -/
theorem trimmed_trimWhile (test : Char → Bool) (cs : List Char) :
    Trimmed test (trimWhile test cs) := by
  have hsuffix := List.dropWhile_suffix test (l := (cs.dropWhile test).reverse)
  obtain ⟨dropped, hdropped⟩ := hsuffix
  unfold trimWhile
  constructor
  · intro c hc
    rw [List.head?_reverse] at hc
    have hlast : c ∈ ((cs.dropWhile test).reverse).getLast? := by
      have happend := congrArg List.getLast? hdropped
      rw [Option.mem_def] at hc ⊢
      rw [List.getLast?_append, hc] at happend
      exact happend.symm
    rw [List.getLast?_reverse] at hlast
    exact head?_dropWhile hlast
  · intro c hc
    rw [List.getLast?_reverse] at hc
    exact head?_dropWhile hc

/-- Trimming changes nothing in what is trimmed. -/
theorem Trimmed.trimWhile_eq (h : Trimmed test cs) : trimWhile test cs = cs := by
  unfold trimWhile
  rw [dropWhile_eq_self h.1, dropWhile_eq_self, List.reverse_reverse]
  rw [List.head?_reverse]
  exact h.2

end Enclosure.Blank

namespace Enclosure.LowerCase

/-- The lower case of a text that does not end in a blank does not end in one. -/
theorem isBlank_getLast?_lowerFrom {before cs : List Char}
    (h : ∀ c ∈ cs.getLast?, Blank.isBlank c = false) :
    ∀ d ∈ (lowerFrom before cs).getLast?, Blank.isBlank d = false := by
  induction cs generalizing before with
  | nil => exact h
  | cons c rest ih =>
    obtain ⟨ds, -, -, hblank, heq⟩ := exists_lowerFrom_cons before c rest
    intro d hd
    rw [heq, List.getLast?_append, Option.mem_def] at hd
    cases rest with
    | nil =>
      rw [lowerFrom, List.getLast?_nil, Option.none_or] at hd
      exact hblank (h c rfl) d (List.mem_of_getLast? hd)
    | cons e more =>
      have hrest : ∀ c ∈ (e :: more).getLast?, Blank.isBlank c = false := by
        rw [List.getLast?_cons_cons] at h
        exact h
      obtain ⟨es, hne, -, -, heqRest⟩ := exists_lowerFrom_cons (c :: before) e more
      have hsome : (lowerFrom (c :: before) (e :: more)).getLast?.isSome := by
        rw [heqRest, List.getLast?_isSome]
        exact List.append_ne_nil_of_left_ne_nil hne _
      obtain ⟨f, hf⟩ := Option.isSome_iff_exists.mp hsome
      rw [hf, Option.some_or] at hd
      exact ih hrest d (hf.trans hd)

/-- The lower case of a trimmed text is trimmed. -/
theorem trimmed_lowerFrom {before cs : List Char} (h : Blank.Trimmed Blank.isBlank cs) :
    Blank.Trimmed Blank.isBlank (lowerFrom before cs) := by
  refine ⟨?_, isBlank_getLast?_lowerFrom h.2⟩
  cases cs with
  | nil => exact h.1
  | cons c rest =>
    obtain ⟨ds, hne, -, hblank, heq⟩ := exists_lowerFrom_cons before c rest
    obtain ⟨d, more, rfl⟩ := List.exists_cons_of_ne_nil hne
    intro e he
    rw [heq, List.cons_append, List.head?_cons, Option.mem_some] at he
    subst he
    exact hblank (h.1 c rfl) d List.mem_cons_self

/-- The lower case of a text without blanks at its ends has none there. -/
theorem trim_lower_trim (text : String) :
    Blank.trim (lower (Blank.trim text)) = lower (Blank.trim text) := by
  unfold Blank.trim lower
  rw [String.toList_ofList, String.toList_ofList]
  rw [(trimmed_lowerFrom (Blank.trimmed_trimWhile _ _)).trimWhile_eq]

/-- The lower case of a trimmed text stays as it is when it is trimmed and put in lower case. -/
theorem lower_trim_lower_trim (text : String) :
    lower (Blank.trim (lower (Blank.trim text))) = lower (Blank.trim text) := by
  rw [trim_lower_trim, lower_lower]

end Enclosure.LowerCase
