import Enclosure.FilePath
import Enclosure.Proofs.Except

/-!
# Paths and their texts

The path of a text is in normal form, and an absolute path in normal form is the path of its own
text. The suffix of a name is its extension with the dot. Filling in a home directory keeps the
normal form and leaves absolute paths alone.
-/

set_option autoImplicit false

namespace Enclosure.FilePath

variable {cs piece : List Char} {parts : List (List Char)} {p : FilePath}

/-! ### Pieces between slashes -/

/-- A slash ends an empty piece. -/
theorem pieces_slash_cons (cs : List Char) : pieces ('/' :: cs) = [] :: pieces cs := rfl

/-- There is at least one piece. -/
theorem pieces_ne_nil (cs : List Char) : pieces cs ≠ [] := by
  cases cs with
  | nil => exact List.cons_ne_nil _ _
  | cons c rest =>
    simp only [pieces, List.foldr_cons]
    split
    · exact List.cons_ne_nil _ _
    · split <;> exact List.cons_ne_nil _ _

/-- A character other than a slash goes in front of the first piece. -/
theorem pieces_cons_of_ne {c : Char} (hc : c ≠ '/') (hcs : pieces cs = piece :: parts) :
    pieces (c :: cs) = (c :: piece) :: parts := by
  unfold pieces at hcs ⊢
  rw [List.foldr_cons, hcs, if_neg hc]

/-- No piece holds a slash. -/
theorem slash_not_mem_of_mem_pieces (h : piece ∈ pieces cs) : '/' ∉ piece := by
  induction cs generalizing piece with
  | nil =>
    have hnil : piece = [] := List.mem_singleton.mp h
    rw [hnil]
    exact List.not_mem_nil
  | cons c rest ih =>
    by_cases hc : c = '/'
    · rw [hc, pieces_slash_cons, List.mem_cons] at h
      rcases h with rfl | h
      · exact List.not_mem_nil
      · exact ih h
    · obtain ⟨first, others, hrest⟩ := List.exists_cons_of_ne_nil (pieces_ne_nil rest)
      rw [pieces_cons_of_ne hc hrest, List.mem_cons] at h
      rcases h with rfl | h
      · rw [List.mem_cons, not_or]
        exact ⟨Ne.symm hc, ih (by rw [hrest]; exact List.mem_cons_self)⟩
      · exact ih (by rw [hrest]; exact List.mem_cons_of_mem _ h)

/-- A text without a slash is one piece. -/
theorem pieces_of_slash_not_mem (h : '/' ∉ piece) : pieces piece = [piece] := by
  induction piece with
  | nil => rfl
  | cons c rest ih =>
    rw [List.mem_cons, not_or] at h
    exact pieces_cons_of_ne (Ne.symm h.1) (ih h.2)

/-- What stands in front of a slash is a piece. -/
theorem pieces_append_slash (h : '/' ∉ piece) (cs : List Char) :
    pieces (piece ++ '/' :: cs) = piece :: pieces cs := by
  induction piece with
  | nil => exact pieces_slash_cons cs
  | cons c rest ih =>
    rw [List.mem_cons, not_or] at h
    exact pieces_cons_of_ne (Ne.symm h.1) (ih h.2)

/-- Parts without slashes are the pieces of the text that joins them by slashes. -/
theorem pieces_intercalate (hne : parts ≠ []) (h : ∀ part ∈ parts, '/' ∉ part) :
    pieces (['/'].intercalate parts) = parts := by
  induction parts with
  | nil => exact absurd rfl hne
  | cons part rest ih =>
    rw [List.forall_mem_cons] at h
    cases rest with
    | nil =>
      rw [List.intercalate_singleton]
      exact pieces_of_slash_not_mem h.1
    | cons next more =>
      rw [List.intercalate_cons_cons, List.append_assoc, List.singleton_append,
        pieces_append_slash h.1, ih (List.cons_ne_nil _ _) h.2]

/-! ### Normal form -/

/-- Whether every part of a path counts and is free of slashes. -/
def IsNormal (p : FilePath) : Prop :=
  ∀ part ∈ p.parts, counts part = true ∧ '/' ∉ part

/-- A path that is read from characters is in normal form. -/
theorem isNormal_ofChars (cs : List Char) : (ofChars cs).IsNormal := by
  intro part hpart
  simp only [ofChars, List.mem_filter] at hpart
  exact ⟨hpart.2, slash_not_mem_of_mem_pieces hpart.1⟩

/-- A path that is read from a text is in normal form. -/
theorem isNormal_ofText (text : String) : (ofText text).IsNormal :=
  isNormal_ofChars text.toList

/-- A piece that counts is not empty. -/
theorem ne_nil_of_counts (h : counts piece = true) : piece ≠ [] := by
  rintro rfl
  cases h

/-- Normal parts that are joined by slashes do not start with a slash. -/
theorem intercalate_ne_slash_cons (hnormal : ∀ part ∈ parts, counts part = true ∧ '/' ∉ part)
    (rest : List Char) : ['/'].intercalate parts ≠ '/' :: rest := by
  intro heq
  cases parts with
  | nil => cases heq
  | cons part more =>
    have hpart := hnormal part List.mem_cons_self
    obtain ⟨c, others, rfl⟩ := List.exists_cons_of_ne_nil (ne_nil_of_counts hpart.1)
    have hc : c ≠ '/' := by
      rintro rfl
      exact hpart.2 List.mem_cons_self
    cases more with
    | nil =>
      rw [List.intercalate_singleton, List.cons.injEq] at heq
      exact hc heq.1
    | cons next more =>
      rw [List.intercalate_cons_cons, List.append_assoc, List.cons_append, List.cons.injEq] at heq
      exact hc heq.1

/-- One slash in front is a single root. -/
theorem rootOf_slash_cons (h : ∀ rest, cs ≠ '/' :: rest) : rootOf ('/' :: cs) = .single := by
  cases cs with
  | nil => rfl
  | cons c rest =>
    have hc : c ≠ '/' := fun hc => h rest (by rw [hc])
    simp [rootOf, hc]

/-- Two slashes in front are a root of their own. -/
theorem rootOf_slash_slash_cons (h : ∀ rest, cs ≠ '/' :: rest) :
    rootOf ('/' :: '/' :: cs) = .double := by
  rw [rootOf]
  exact h

/-- An absolute path in normal form is the path of its text. -/
theorem IsNormal.ofText_text (hnormal : p.IsNormal) (habsolute : p.isAbsolute = true) :
    ofText p.text = p := by
  obtain ⟨root, parts⟩ := p
  have hfront := intercalate_ne_slash_cons hnormal
  have hfilter : (pieces (['/'].intercalate parts)).filter counts = parts := by
    cases parts with
    | nil => rfl
    | cons part rest =>
      rw [pieces_intercalate (List.cons_ne_nil _ _) fun part h => (hnormal part h).2]
      exact List.filter_eq_self.mpr fun part h => (hnormal part h).1
  unfold ofText text
  rw [String.toList_ofList]
  cases root with
  | relative => cases habsolute
  | single =>
    have hchars : chars ⟨.single, parts⟩ = '/' :: ['/'].intercalate parts := rfl
    rw [hchars, ofChars, rootOf_slash_cons hfront, pieces_slash_cons]
    exact congrArg (FilePath.mk .single) hfilter
  | double =>
    have hchars : chars ⟨.double, parts⟩ = '/' :: '/' :: ['/'].intercalate parts := rfl
    rw [hchars, ofChars, rootOf_slash_slash_cons hfront, pieces_slash_cons, pieces_slash_cons]
    exact congrArg (FilePath.mk .double) hfilter

/-- The text of an absolute path starts with a slash. -/
theorem exists_text_of_isAbsolute (habsolute : p.isAbsolute = true) :
    ∃ rest, p.text.toList = '/' :: rest := by
  obtain ⟨root, parts⟩ := p
  unfold text
  rw [String.toList_ofList]
  cases root with
  | relative => cases habsolute
  | single => exact ⟨_, rfl⟩
  | double => exact ⟨_, rfl⟩

/-! ### Extensions -/

/-- A name has an extension: it is what follows the last dot, with something on either side. -/
def HasExtension (name ext : List Char) : Prop :=
  ext ≠ [] ∧ '.' ∉ ext ∧ ∃ stem, stem ≠ [] ∧ name = stem ++ '.' :: ext

variable {name stem tail ext : List Char}

/-- Up to the first dot, a reversed tail without one stays whole. -/
theorem takeWhile_reverse_append (h : '.' ∉ tail) (rest : List Char) :
    (tail.reverse ++ rest).takeWhile (· ≠ '.') = tail.reverse ++ rest.takeWhile (· ≠ '.') := by
  refine List.takeWhile_append_of_pos fun c hc => decide_eq_true ?_
  rintro rfl
  exact h (List.mem_reverse.mp hc)

/-- A name without a dot has no suffix. -/
theorem suffixOf_of_not_mem (h : '.' ∉ name) : suffixOf name = [] := by
  have htail : name.reverse.takeWhile (· ≠ '.') = name.reverse := by
    have := takeWhile_reverse_append h []
    rwa [List.append_nil, List.takeWhile_nil, List.append_nil] at this
  rw [suffixOf, htail, List.reverse_reverse, Nat.sub_self]
  exact if_neg fun hdot => absurd hdot.1 (by decide)

/-- The last dot of a name starts its suffix, unless the dot is its first or last character. -/
theorem suffixOf_append (h : '.' ∉ tail) :
    suffixOf (stem ++ '.' :: tail) = if stem ≠ [] ∧ tail ≠ [] then '.' :: tail else [] := by
  have htail : (stem ++ '.' :: tail).reverse.takeWhile (· ≠ '.') = tail.reverse := by
    rw [List.reverse_append, List.reverse_cons, List.append_assoc, takeWhile_reverse_append h,
      List.singleton_append, List.takeWhile_cons_of_neg (by decide), List.append_nil]
  have hdot : (stem ++ '.' :: tail).length - tail.length = stem.length + 1 := by
    rw [List.length_append, List.length_cons]
    omega
  have hstem : 1 < stem.length + 1 ↔ stem ≠ [] := by
    rw [← List.length_pos_iff]
    omega
  simp only [suffixOf, htail, List.reverse_reverse, hdot, hstem]

/-- The suffix of a name is its extension with the dot. -/
theorem suffixOf_eq_cons_iff : suffixOf name = '.' :: ext ↔ HasExtension name ext := by
  constructor
  · intro h
    have hdot : '.' ∈ name := by
      refine Decidable.of_not_not fun hnone => ?_
      rw [suffixOf_of_not_mem hnone] at h
      cases h
    obtain ⟨tail, stem, hreverse, htail⟩ :=
      List.eq_append_cons_of_mem (List.mem_reverse.mpr hdot)
    have hname : name = stem.reverse ++ '.' :: tail.reverse := by
      rw [← List.reverse_reverse name, hreverse, List.reverse_append, List.reverse_cons,
        List.append_assoc, List.singleton_append]
    have hlast : '.' ∉ tail.reverse := fun hmem => htail (List.mem_reverse.mp hmem)
    rw [hname, suffixOf_append hlast] at h
    split at h
    · next hparts =>
      injection h with _ h
      subst h
      exact ⟨hparts.2, hlast, stem.reverse, hparts.1, hname⟩
    · cases h
  · rintro ⟨hext, hlast, stem, hstem, rfl⟩
    rw [suffixOf_append hlast, if_pos ⟨hstem, hext⟩]

/-- A name has no suffix exactly when it has no extension. -/
theorem suffixOf_eq_nil_iff : suffixOf name = [] ↔ ∀ ext, ¬ HasExtension name ext := by
  constructor
  · intro h ext hext
    rw [suffixOf_eq_cons_iff.mpr hext] at h
    cases h
  · intro h
    unfold suffixOf
    dsimp only
    split
    · next hparts =>
      have hsuffix := suffixOf_eq_cons_iff.mp (if_pos hparts)
      exact absurd hsuffix (h _)
    · rfl

/-! ### Home directories -/

section Home

variable {q : FilePath} {homes : Homes} {user : List Char}

/-- The parts of a home directory are in normal form. -/
theorem isNormal_of_directory (h : homes.directory user = .ok q) : q.IsNormal := by
  unfold Homes.directory at h
  obtain ⟨text, -, h⟩ := bind_eq_ok_iff.mp h
  dsimp only at h
  split at h
  · cases h
  · cases h
    split
    · intro part hpart
      cases hpart
    · exact isNormal_ofChars _

/-- A path in normal form is in normal form with a home directory filled in. -/
theorem IsNormal.of_expand (hnormal : p.IsNormal) (h : p.expand homes = .ok q) : q.IsNormal := by
  unfold expand at h
  split at h
  · next user rest _ hparts =>
    obtain ⟨base, hbase, h⟩ := bind_eq_ok_iff.mp h
    cases h
    intro part hpart
    rcases List.mem_append.mp hpart with hpart | hpart
    · exact isNormal_of_directory hbase part hpart
    · exact hnormal part (by rw [hparts]; exact List.mem_cons_of_mem _ hpart)
  · cases h
    exact hnormal

/-- An absolute path names no home directory. -/
theorem expand_of_isAbsolute (habsolute : p.isAbsolute = true) : p.expand homes = .ok p := by
  unfold expand
  split
  · next hroot _ =>
    rw [isAbsolute, hroot] at habsolute
    cases habsolute
  · rfl

end Home

end Enclosure.FilePath
