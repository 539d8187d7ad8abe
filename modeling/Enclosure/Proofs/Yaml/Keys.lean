import Enclosure.Proofs.Except
import Enclosure.Proofs.Value.WellKeyed
import Enclosure.Yaml.Document

/-!
# Keys of YAML mappings

A key that comes twice in a YAML mapping gives its value anew, so every text is the key of at most
one entry. What a scalar node stands for never changes, which carries this from the entries of a
mapping, whose keys are nodes, to the value that is put together of them.
-/

set_option autoImplicit false

namespace Enclosure.Yaml

/-! ### Scalars -/

/-- The value of a date is well keyed. -/
theorem WrittenDate.wellKeyed_of_value {d : WrittenDate} {v : Value} (h : d.value = .ok v) :
    v.WellKeyed := by
  unfold WrittenDate.value at h
  split at h
  · obtain ⟨day, -, h⟩ := bind_eq_ok_iff.mp h
    cases h
    trivial
  · obtain ⟨offset, -, h⟩ := bind_eq_ok_iff.mp h
    obtain ⟨day, -, h⟩ := bind_eq_ok_iff.mp h
    obtain ⟨time, -, h⟩ := bind_eq_ok_iff.mp h
    cases h
    trivial

/-- The value of a scalar is well keyed. -/
theorem Scalar.wellKeyed_of_value {tag : Tag} {cs : List Char} {v : Value}
    (h : Scalar.value tag cs = .ok v) : v.WellKeyed := by
  cases tag with
  | null =>
    cases h
    trivial
  | bool =>
    obtain ⟨b, -, rfl⟩ := map_eq_ok_iff.mp (mapError_eq_ok_iff.mp h)
    trivial
  | int =>
    obtain ⟨i, -, rfl⟩ := map_eq_ok_iff.mp (mapError_eq_ok_iff.mp h)
    trivial
  | float =>
    obtain ⟨x, -, rfl⟩ := map_eq_ok_iff.mp (mapError_eq_ok_iff.mp h)
    trivial
  | timestamp =>
    have htimestamp : timestamp cs = .ok v := mapError_eq_ok_iff.mp h
    unfold timestamp at htimestamp
    split at htimestamp
    · exact WrittenDate.wellKeyed_of_value (mapError_eq_ok_iff.mp htimestamp)
    · cases htimestamp
  | binary =>
    have hbinary : binary cs = .ok v := h
    unfold binary at hbinary
    split at hbinary
    · split at hbinary
      · cases hbinary
        trivial
      · cases hbinary
    · cases hbinary
  | str =>
    cases h
    trivial
  | _ => cases h

namespace Workshop

variable {u w w' : Workshop} {n m k : Nat} {o : Object} {entries : List (Nat × Nat)}

/-- Putting an object in a place changes that place and no other. -/
theorem object?_put (w : Workshop) (n : Nat) (o : Object) (m : Nat) :
    (w.put n o).object? m = if n = m ∧ n < w.objects.size then some o else w.object? m := by
  unfold object? put
  dsimp only
  rw [Array.getElem?_setIfInBounds]
  by_cases hnm : n = m
  · subst hnm
    by_cases hn : n < w.objects.size
    · simp [hn]
    · simp [hn]
  · simp [hnm]

/-- What scalar nodes stand for stays. -/
def Le (w w' : Workshop) : Prop :=
  ∀ n v own, w.object? n = some (.atom v own) → w'.object? n = some (.atom v own)

/-- A workshop goes on from itself. -/
theorem Le.refl (w : Workshop) : w.Le w := fun _ _ _ h => h

/-- Going on from a workshop is transitive. -/
theorem Le.trans (h : u.Le w) (h' : w.Le w') : u.Le w' :=
  fun n v own hn => h' n v own (h n v own hn)

/-- The keys of some entries are known scalars, and no two of them are the same text. -/
structure KeysApart (w : Workshop) (entries : List (Nat × Nat)) : Prop where
  known : ∀ e ∈ entries, ∃ v own, w.object? e.1 = some (.atom v own)
  apart : entries.Pairwise fun e f => ∀ s own own',
    w.object? e.1 = some (.atom (.str s) own) → w.object? f.1 ≠ some (.atom (.str s) own')

/-- Keys that are apart stay so when a workshop goes on. -/
theorem KeysApart.of_le (h : w.KeysApart entries) (hle : w.Le w') : w'.KeysApart entries := by
  have hback {e : Nat × Nat} (he : e ∈ entries) {v : Value} {own : Option Nat}
      (hv : w'.object? e.1 = some (.atom v own)) : w.object? e.1 = some (.atom v own) := by
    obtain ⟨v', own', hknown⟩ := h.known e he
    rw [hle _ _ _ hknown] at hv
    rw [hknown, hv]
  constructor
  · intro e he
    obtain ⟨v, own, hknown⟩ := h.known e he
    exact ⟨v, own, hle _ _ _ hknown⟩
  · refine h.apart.imp_of_mem ?_
    intro e f he hf hapart s own own' hes hfs
    exact hapart s own own' (hback he hes) (hback hf hfs)

/-- What holds of a scalar's value: it is no mapping, and a text is never told apart by a number. -/
structure IsScalar (v : Value) (own : Option Nat) : Prop where
  keyed : v.WellKeyed
  text : ∀ s, v = .str s → own = none

/-- What holds of the nodes that have been reached: the keys of mappings are apart, and what was
begun is no scalar. -/
structure Sorted (w : Workshop) : Prop where
  maps : ∀ n entries, w.object? n = some (.map entries) → w.KeysApart entries
  begun : ∀ n ∈ w.begun, n < w.objects.size →
    ∃ o, w.object? n = some o ∧ ∀ v own, o ≠ .atom v own
  atoms : ∀ n v own, w.object? n = some (.atom v own) → IsScalar v own

/-- The place of a collection that was begun holds no scalar. -/
theorem Sorted.free_of_begun (h : w.Sorted) (hn : n ∈ w.begun) (v : Value) (own : Option Nat) :
    w.object? n ≠ some (.atom v own) := by
  intro hatom
  by_cases hsize : n < w.objects.size
  · obtain ⟨o, ho, hfree⟩ := h.begun n hn hsize
    rw [ho] at hatom
    injection hatom with hatom
    exact hfree v own hatom
  · unfold object? at hatom
    rw [Array.getElem?_eq_none (Nat.not_lt.mp hsize)] at hatom
    cases hatom

/-- A step keeps what is known, and what has been begun. -/
structure Step (w w' : Workshop) : Prop where
  le : w.Le w'
  begun : ∀ n ∈ w.begun, n ∈ w'.begun
  sorted : w'.Sorted

/-- A sorted workshop steps to itself. -/
theorem Step.refl (h : w.Sorted) : w.Step w :=
  ⟨.refl w, fun _ h => h, h⟩

/-- Two steps of a workshop are one. -/
theorem Step.trans (h : u.Step w) (h' : w.Step w') : u.Step w' :=
  ⟨h.le.trans h'.le, fun n hn => h'.begun n (h.begun n hn), h'.sorted⟩

/-- A workshop goes on when an object is put where there is no scalar. -/
theorem le_put (hfree : ∀ v own, w.object? n ≠ some (.atom v own)) : w.Le (w.put n o) := by
  intro m v own hm
  rw [object?_put]
  split
  · next hnm =>
    rw [← hnm.1] at hm
    exact absurd hm (hfree v own)
  · exact hm

/-- Letting a node stand for something that its place allows is a step. -/
theorem Sorted.put (h : w.Sorted) (hfree : ∀ v own, w.object? n ≠ some (.atom v own))
    (hmap : ∀ entries, o = .map entries → w.KeysApart entries)
    (hatom : ∀ v own, o = .atom v own → w.object? n = none ∧ IsScalar v own) :
    w.Step (w.put n o) := by
  have hle : w.Le (w.put n o) := le_put hfree
  refine ⟨hle, fun _ h => h, ?_, ?_, ?_⟩
  · intro m entries hm
    rw [object?_put] at hm
    split at hm
    · injection hm with hm
      exact (hmap entries hm).of_le hle
    · exact (h.maps m entries hm).of_le hle
  · intro m hm hsize
    have hsame : (w.put n o).objects.size = w.objects.size := by simp [Workshop.put]
    rw [hsame] at hsize
    obtain ⟨old, hold, hnot⟩ := h.begun m hm hsize
    rw [object?_put]
    split
    · next hnm =>
      refine ⟨o, rfl, ?_⟩
      intro v own ho
      have hnone := (hatom v own ho).1
      rw [hnm.1, hold] at hnone
      cases hnone
    · exact ⟨old, hold, hnot⟩
  · intro m v own hm
    rw [object?_put] at hm
    split at hm
    · injection hm with hm
      exact (hatom v own hm).2
    · exact h.atoms m v own hm

/-- A collection is begun where nothing was. -/
theorem Sorted.begin (h : w.Sorted) (hnone : w.object? n = none)
    (hfree : ∀ v own, o ≠ .atom v own) (hempty : ∀ entries, o = .map entries → entries = []) :
    w.Step (w.begin n o) := by
  have hput : w.Step (w.put n o) := by
    refine h.put (by simp [hnone]) ?_ fun v own ho => absurd ho (hfree v own)
    intro entries ho
    rw [hempty entries ho]
    exact ⟨by simp, List.Pairwise.nil⟩
  have hsame : (w.put n o).Le (w.begin n o) := fun _ _ _ h => h
  refine ⟨hput.le.trans hsame, fun m hm => Array.mem_push_of_mem _ hm, ?_, ?_, hput.sorted.atoms⟩
  · exact fun m entries hm => (hput.sorted.maps m entries hm).of_le hsame
  intro m hm hsize
  rcases Array.mem_push.mp hm with hm | rfl
  · exact hput.sorted.begun m hm hsize
  · have hin : m < w.objects.size := by
      have hsame : (w.begin m o).objects.size = w.objects.size := by
        simp [Workshop.begin, Workshop.put]
      rwa [hsame] at hsize
    refine ⟨o, ?_, hfree⟩
    have hobject := object?_put w m o m
    rw [if_pos ⟨rfl, hin⟩] at hobject
    exact hobject

/-- What is made of a scalar node is a scalar object. -/
theorem atom_of_ok (h : w.atom n = .ok o) :
    ∃ v own, o = .atom v own ∧ IsScalar v own := by
  unfold atom at h
  obtain ⟨-, -, h⟩ := bind_eq_ok_iff.mp h
  obtain ⟨text, -, h⟩ := bind_eq_ok_iff.mp h
  obtain ⟨-, -, h⟩ := bind_eq_ok_iff.mp h
  obtain ⟨v, hv, h⟩ := bind_eq_ok_iff.mp h
  cases h
  refine ⟨v, _, rfl, Scalar.wellKeyed_of_value hv, ?_⟩
  rintro s rfl
  rfl

/-- Reaching a node is a step. -/
theorem Sorted.reach (h : w.Sorted) (hreach : w.reach n = .ok w') : w.Step w' := by
  unfold Workshop.reach at hreach
  cases hobject : w.object? n with
  | some o =>
    rw [hobject] at hreach
    cases hreach
    exact .refl h
  | none =>
    rw [hobject] at hreach
    dsimp only at hreach
    split at hreach
    · cases hreach
      exact h.begin hobject (by simp) (by simp)
    · cases hreach
      exact h.begin hobject (by simp) (by simp)
    · cases hreach
      exact h.begin hobject (by simp) (by simp)
    · cases hreach
      exact h.begin hobject (by simp) (by simp)
    · cases hreach
      exact h.begin hobject (by simp) (by simp)
    · obtain ⟨o, ho, hreach⟩ := bind_eq_ok_iff.mp hreach
      cases hreach
      obtain ⟨v, own, rfl, hscalar⟩ := atom_of_ok ho
      refine h.put (by simp [hobject]) (by simp) ?_
      intro v' own' heq
      injection heq with hv hown
      subst hv hown
      exact ⟨hobject, hscalar⟩

/-- Reaching nodes one after the other is a step. -/
theorem Sorted.reachAll {items : List Nat} (h : w.Sorted)
    (hreach : items.foldlM Workshop.reach w = .ok w') : w.Step w' :=
  foldlM_keeps (p := w.Step) (fun _ _ _ _ hstep hnext => hstep.trans (hstep.sorted.reach hnext))
    (.refl h) hreach

/-! ### Going through a mapping -/

/-- Other nodes do not change what has been reached. -/
theorem Sorted.withGraph (h : w.Sorted) (g : Graph) : w.Step { w with graph := g } :=
  have hsame : w.Le { w with graph := g } := fun _ _ _ h => h
  ⟨hsame, fun _ h => h, fun n entries hn => (h.maps n entries hn).of_le hsame, h.begun, h.atoms⟩

/-- Whether the entries of a mapping that have been gone through have known keys, each of them
once. -/
structure Holds (w : Workshop) (seen : List KeyedEntry) : Prop where
  known : ∀ e ∈ seen, ∃ v, w.object? e.keyNode = some (.atom v e.key.own) ∧
    e.key.identity = v.identity
  once : seen.Pairwise fun e f => e.key ≠ f.key

/-- Keys that a workshop holds are held when it goes on. -/
theorem Holds.of_le {seen : List KeyedEntry} (h : w.Holds seen) (hle : w.Le w') :
    w'.Holds seen := by
  refine ⟨?_, h.once⟩
  intro e he
  obtain ⟨v, hv, hidentity⟩ := h.known e he
  exact ⟨v, hle _ _ _ hv, hidentity⟩

/-- After an entry was inserted, there are that entry and those from before, perhaps with other
values. -/
theorem mem_insert {seen : List KeyedEntry} {e f : KeyedEntry} (h : f ∈ KeyedEntry.insert e seen) :
    f = e ∨ ∃ g ∈ seen, f.key = g.key ∧ f.keyNode = g.keyNode := by
  induction seen with
  | nil => exact .inl (List.mem_singleton.mp h)
  | cons g rest ih =>
    rw [KeyedEntry.insert] at h
    split at h
    · rcases List.mem_cons.mp h with rfl | h
      · exact .inr ⟨g, List.mem_cons_self, rfl, rfl⟩
      · exact .inr ⟨f, List.mem_cons_of_mem _ h, rfl, rfl⟩
    · rcases List.mem_cons.mp h with rfl | h
      · exact .inr ⟨f, List.mem_cons_self, rfl, rfl⟩
      · rcases ih h with heq | ⟨g', hg', hsame⟩
        · exact .inl heq
        · exact .inr ⟨g', List.mem_cons_of_mem _ hg', hsame⟩

/-- Inserting an entry leaves keys that differ different. -/
theorem pairwise_insert {seen : List KeyedEntry} (e : KeyedEntry)
    (h : seen.Pairwise fun e f => e.key ≠ f.key) :
    (KeyedEntry.insert e seen).Pairwise fun e f => e.key ≠ f.key := by
  induction seen with
  | nil => exact List.pairwise_singleton _ _
  | cons g rest ih =>
    rw [List.pairwise_cons] at h
    rw [KeyedEntry.insert]
    split
    · rw [List.pairwise_cons]
      exact h
    · next hkey =>
      rw [List.pairwise_cons]
      refine ⟨?_, ih h.2⟩
      intro f hf
      rcases mem_insert hf with rfl | ⟨g', hg', hsame, -⟩
      · exact hkey
      · rw [hsame]
        exact h.1 g' hg'

/-- After an entry was inserted, its key is held as well. -/
theorem Holds.insert {seen : List KeyedEntry} {key : Key} (h : w.Holds seen) (valueNode : Nat)
    (hkey : w.key k = .ok key) : w.Holds (KeyedEntry.insert ⟨key, k, valueNode⟩ seen) := by
  refine ⟨?_, pairwise_insert _ h.once⟩
  intro f hf
  rcases mem_insert hf with rfl | ⟨g, hg, hsame, hnode⟩
  · unfold Workshop.key at hkey
    split at hkey
    · next v own hobject =>
      cases hkey
      exact ⟨v, hobject, rfl⟩
    · cases hkey
  · rw [hsame, hnode]
    exact h.known g hg

/-- Keys that are different are not the same text. -/
theorem Holds.keysApart {seen : List KeyedEntry} (h : w.Holds seen) (hw : w.Sorted) :
    w.KeysApart (seen.map KeyedEntry.nodes) := by
  constructor
  · intro e he
    obtain ⟨f, hf, rfl⟩ := List.mem_map.mp he
    obtain ⟨v, hv, -⟩ := h.known f hf
    exact ⟨v, _, hv⟩
  · rw [List.pairwise_map]
    refine h.once.imp_of_mem ?_
    intro e f he hf hne s own own' hes hfs
    have htext {g : KeyedEntry} (hg : g ∈ seen) {own : Option Nat}
        (hgs : w.object? g.keyNode = some (.atom (.str s) own)) : g.key = ⟨.str s, none⟩ := by
      obtain ⟨v, hv, hidentity⟩ := h.known g hg
      rw [hgs] at hv
      injection hv with hv
      injection hv with hv hown
      have hnone := (hw.atoms _ _ _ hgs).text s rfl
      have hsame : g.key = ⟨g.key.identity, g.key.own⟩ := rfl
      rw [hsame, hidentity, ← hv, ← hown, hnone]
      rfl
    exact hne ((htext he hes).trans (htext hf hfs).symm)

/-- Reaching the entries of a mapping is a step, and their keys are apart. -/
theorem Sorted.reachEntries {seen : List KeyedEntry} {result : Workshop × List (Nat × Nat)}
    (h : w.Sorted) (hseen : w.Holds seen) (hreach : w.reachEntries seen entries = .ok result) :
    w.Step result.1 ∧ result.1.KeysApart result.2 := by
  induction entries generalizing w seen with
  | nil =>
    cases hreach
    exact ⟨.refl h, hseen.keysApart h⟩
  | cons e rest ih =>
    obtain ⟨k, v⟩ := e
    rw [Workshop.reachEntries] at hreach
    obtain ⟨w₁, hw₁, hreach⟩ := bind_eq_ok_iff.mp hreach
    obtain ⟨key, hkey, hreach⟩ := bind_eq_ok_iff.mp hreach
    obtain ⟨w₂, hw₂, hreach⟩ := bind_eq_ok_iff.mp hreach
    have hfirst := h.reach hw₁
    have hsecond := hfirst.sorted.reach hw₂
    have hholds := ((hseen.of_le hfirst.le).insert v hkey).of_le hsecond.le
    obtain ⟨hrest, hapart⟩ := ih hsecond.sorted hholds hreach
    exact ⟨(hfirst.trans hsecond).trans hrest, hapart⟩

/-- Reaching a mapping is a step, and the keys of its entries are apart. -/
theorem Sorted.reachMapping {result : Workshop × List (Nat × Nat)} (h : w.Sorted)
    (hreach : w.reachMapping n = .ok result) :
    w.Step result.1 ∧ result.1.KeysApart result.2 := by
  unfold Workshop.reachMapping at hreach
  split at hreach
  · obtain ⟨g, -, hreach⟩ := bind_eq_ok_iff.mp hreach
    have hgraph := h.withGraph g
    have hnone : ({ w with graph := g } : Workshop).Holds [] := ⟨by simp, List.Pairwise.nil⟩
    obtain ⟨hrest, hapart⟩ := hgraph.sorted.reachEntries hnone hreach
    exact ⟨hgraph.trans hrest, hapart⟩
  · cases hreach

/-- Reaching a list of pairs is a step. -/
theorem Sorted.reachPairs {items : List Nat} {seen : List (Nat × Nat)}
    {result : Workshop × List (Nat × Nat)} (h : w.Sorted)
    (hreach : w.reachPairs seen items = .ok result) : w.Step result.1 := by
  induction items generalizing w seen with
  | nil =>
    cases hreach
    exact .refl h
  | cons item rest ih =>
    rw [Workshop.reachPairs] at hreach
    split at hreach
    · obtain ⟨w₁, hw₁, hreach⟩ := bind_eq_ok_iff.mp hreach
      obtain ⟨w₂, hw₂, hreach⟩ := bind_eq_ok_iff.mp hreach
      have hfirst := h.reach hw₁
      have hsecond := hfirst.sorted.reach hw₂
      exact (hfirst.trans hsecond).trans (ih hsecond.sorted hreach)
    · cases hreach

/-- A collection that was begun may be gone through. -/
theorem Sorted.complete (h : w.Sorted) (hn : n ∈ w.begun) (hcomplete : w.complete n = .ok w') :
    w.Step w' := by
  have hput {u : Workshop} {o : Object} (hstep : w.Step u) (hfree : ∀ v own, o ≠ .atom v own)
      (hmap : ∀ entries, o = .map entries → u.KeysApart entries) : w.Step (u.put n o) :=
    hstep.trans (hstep.sorted.put (hstep.sorted.free_of_begun (hstep.begun n hn)) hmap
      fun v own ho => absurd ho (hfree v own))
  unfold Workshop.complete at hcomplete
  split at hcomplete
  · obtain ⟨u, hu, hcomplete⟩ := bind_eq_ok_iff.mp hcomplete
    cases hcomplete
    exact hput (h.reachAll hu) (by simp) (by simp)
  · obtain ⟨⟨u, entries⟩, hu, hcomplete⟩ := bind_eq_ok_iff.mp hcomplete
    cases hcomplete
    obtain ⟨hstep, hapart⟩ := h.reachMapping hu
    refine hput hstep (by simp) ?_
    intro entries' heq
    injection heq with heq
    rw [← heq]
    exact hapart
  · obtain ⟨⟨u, entries⟩, hu, hcomplete⟩ := bind_eq_ok_iff.mp hcomplete
    cases hcomplete
    exact hput (h.reachMapping hu).1 (by simp) (by simp)
  · obtain ⟨⟨u, entries⟩, hu, hcomplete⟩ := bind_eq_ok_iff.mp hcomplete
    cases hcomplete
    exact hput (h.reachPairs hu) (by simp) (by simp)
  · obtain ⟨⟨u, entries⟩, hu, hcomplete⟩ := bind_eq_ok_iff.mp hcomplete
    cases hcomplete
    exact hput (h.reachPairs hu) (by simp) (by simp)
  · cases hcomplete

/-- Completing the collections that were begun leaves a workshop sorted. -/
theorem Sorted.completeFrom {fuel place : Nat} (h : w.Sorted)
    (hcomplete : Workshop.completeFrom fuel place w = .ok w') : w'.Sorted := by
  induction fuel generalizing place w with
  | zero =>
    cases hcomplete
    exact h
  | succ fuel ih =>
    rw [Workshop.completeFrom] at hcomplete
    split at hcomplete
    · cases hcomplete
      exact h
    · next n hn =>
      obtain ⟨u, hu, hcomplete⟩ := bind_eq_ok_iff.mp hcomplete
      exact ih (h.complete (Array.mem_of_getElem? hn) hu).sorted hcomplete

/-- A workshop that has nothing yet is sorted. -/
theorem sorted_start (frames : Nat) (g : Graph) : (start frames g).Sorted := by
  have hnone (n : Nat) : (start frames g).object? n = none := by
    unfold object? start
    dsimp only
    rw [Array.getElem?_replicate]
    split <;> rfl
  constructor
  · intro n entries h
    rw [hnone] at h
    cases h
  · intro n hn
    exact absurd hn (Array.not_mem_empty n)
  · intro n v own h
    rw [hnone] at h
    cases h

end Workshop

end Enclosure.Yaml
