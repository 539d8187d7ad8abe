import Enclosure.Proofs.Value.Lookup

/-!
# Values whose mappings have every key once

In the values that are read from files and variables, no mapping at any depth has a text as the key
of two entries. Looking at the outermost collection of such a value, and merging such mappings,
keeps it so.
-/

set_option autoImplicit false

namespace Enclosure

mutual

/-- No mapping in a value has a text as the key of two entries. -/
def Value.WellKeyed : Value → Prop
  | .list items => Value.AllWellKeyed items
  | .map entries => Entries.KeysOnce entries ∧ Value.EntriesWellKeyed entries
  | .pair first second => first.WellKeyed ∧ second.WellKeyed
  | .knot _ body => body.WellKeyed
  | _ => True

/-- No mapping in any of several values has a text as the key of two entries. -/
def Value.AllWellKeyed : List Value → Prop
  | [] => True
  | v :: rest => v.WellKeyed ∧ Value.AllWellKeyed rest

/-- No mapping in a value of several entries has a text as the key of two entries. -/
def Value.EntriesWellKeyed : List (Value × Value) → Prop
  | [] => True
  | (_, v) :: rest => v.WellKeyed ∧ Value.EntriesWellKeyed rest

end

namespace Value

/-- Values are well keyed together when each of them is. -/
theorem allWellKeyed_iff {vs : List Value} : AllWellKeyed vs ↔ ∀ v ∈ vs, v.WellKeyed := by
  induction vs with
  | nil => exact iff_of_true trivial (by simp)
  | cons v rest ih => rw [AllWellKeyed, ih, List.forall_mem_cons]

/-- The values of entries are well keyed together when each of them is. -/
theorem entriesWellKeyed_iff {es : Entries} :
    EntriesWellKeyed es ↔ ∀ e ∈ es, e.2.WellKeyed := by
  induction es with
  | nil => exact iff_of_true trivial (by simp)
  | cons e rest ih =>
    obtain ⟨k, v⟩ := e
    rw [EntriesWellKeyed, ih, List.forall_mem_cons]

/-- A mapping is well keyed when texts are keys once and all its values are well keyed. -/
theorem wellKeyed_map_iff {es : Entries} :
    (Value.map es).WellKeyed ↔ es.KeysOnce ∧ ∀ e ∈ es, e.2.WellKeyed := by
  rw [WellKeyed, entriesWellKeyed_iff]

/-- An empty mapping is well keyed. -/
theorem wellKeyed_map_nil : (Value.map []).WellKeyed :=
  wellKeyed_map_iff.mpr ⟨List.Pairwise.nil, by simp⟩

/-- A field of a well-keyed mapping is well keyed. -/
theorem WellKeyed.of_field? {es : Entries} {name : String} {v : Value}
    (hes : (Value.map es).WellKeyed) (h : es.field? name = some v) : v.WellKeyed :=
  (wellKeyed_map_iff.mp hes).2 _ (Entries.mem_of_field? h)

section Fill

variable {label : Label} {whole : Value}

/-- Filling in a value for a label keeps the keys. -/
theorem map_fst_fillEntries (es : Entries) :
    (fillEntries label whole es).map Prod.fst = es.map Prod.fst := by
  induction es with
  | nil => rw [fillEntries]
  | cons e rest ih =>
    obtain ⟨k, v⟩ := e
    rw [fillEntries, List.map_cons, List.map_cons, ih]

/-- Whether texts are keys once depends on the keys only. -/
theorem keysOnce_iff_map_fst {es : Entries} :
    es.KeysOnce ↔ (es.map Prod.fst).Pairwise fun k l =>
      ∀ s, k.identity = .str s → l.identity ≠ .str s := by
  rw [Entries.KeysOnce, List.pairwise_map]

mutual

/-- Filling a well-keyed value in for a label keeps a value well keyed. -/
theorem WellKeyed.fill (hwhole : whole.WellKeyed) :
    ∀ {v : Value}, v.WellKeyed → (Value.fill label whole v).WellKeyed
  | .again l, h => by
    rw [Value.fill]
    split
    · exact hwhole
    · exact h
  | .knot l body, h => by
    rw [Value.fill]
    split
    · exact h
    · rw [WellKeyed] at h ⊢
      exact WellKeyed.fill hwhole h
  | .list items, h => by
    rw [WellKeyed] at h
    rw [Value.fill, WellKeyed]
    exact AllWellKeyed.fill hwhole h
  | .map entries, h => by
    rw [WellKeyed] at h
    rw [Value.fill, WellKeyed, keysOnce_iff_map_fst, map_fst_fillEntries,
      ← keysOnce_iff_map_fst]
    exact ⟨h.1, EntriesWellKeyed.fill hwhole h.2⟩
  | .pair first second, h => by
    rw [WellKeyed] at h
    rw [Value.fill, WellKeyed]
    exact ⟨WellKeyed.fill hwhole h.1, WellKeyed.fill hwhole h.2⟩
  | .null, h | .bool _, h | .int _, h | .float _, h | .str _, h | .date _, h | .timestamp _, h
  | .bytes _, h | .set _, h => by
    rw [Value.fill]
    · exact h
    all_goals simp

/-- Filling a well-keyed value in for a label keeps values well keyed. -/
theorem AllWellKeyed.fill (hwhole : whole.WellKeyed) :
    ∀ {vs : List Value}, AllWellKeyed vs → AllWellKeyed (fillItems label whole vs)
  | [], _ => by
    rw [fillItems]
    trivial
  | v :: rest, h => by
    rw [AllWellKeyed] at h
    rw [fillItems, AllWellKeyed]
    exact ⟨WellKeyed.fill hwhole h.1, AllWellKeyed.fill hwhole h.2⟩

/-- Filling a well-keyed value in for a label keeps the values of entries well keyed. -/
theorem EntriesWellKeyed.fill (hwhole : whole.WellKeyed) :
    ∀ {es : List (Value × Value)}, EntriesWellKeyed es →
      EntriesWellKeyed (fillEntries label whole es)
  | [], _ => by
    rw [fillEntries]
    trivial
  | (k, v) :: rest, h => by
    rw [EntriesWellKeyed] at h
    rw [fillEntries, EntriesWellKeyed]
    exact ⟨WellKeyed.fill hwhole h.1, EntriesWellKeyed.fill hwhole h.2⟩

end

end Fill

/-- A well-keyed value that lies within itself is well keyed when it is opened. -/
theorem WellKeyed.opened {v : Value} (h : v.WellKeyed) : v.opened.WellKeyed := by
  cases v with
  | knot label body =>
    have hbody : body.WellKeyed := by
      rw [WellKeyed] at h
      exact h
    exact WellKeyed.fill h hbody
  | _ => exact h

/-! ### Merging -/

/-- A change that keeps values well keyed keeps a mapping well keyed when an entry is altered by it.
-/
theorem WellKeyed.alter {key : Value} {change : Option Value → Value} {es : Entries}
    (hes : (Value.map es).WellKeyed)
    (hchange : ∀ old : Option Value, (∀ v ∈ old, v.WellKeyed) → (change old).WellKeyed) :
    (Value.map (Entries.alter key change es)).WellKeyed := by
  rw [wellKeyed_map_iff] at hes ⊢
  refine ⟨hes.1.alter change, ?_⟩
  have hvalues := hes.2
  clear hes
  induction es with
  | nil =>
    rw [Entries.alter, List.forall_mem_singleton]
    exact hchange none (by simp)
  | cons e rest ih =>
    obtain ⟨k, v⟩ := e
    rw [List.forall_mem_cons] at hvalues
    rw [Entries.alter]
    split
    · rw [List.forall_mem_cons]
      exact ⟨hchange (some v) (by simpa using hvalues.1), hvalues.2⟩
    · rw [List.forall_mem_cons]
      exact ⟨hvalues.1, ih hvalues.2⟩

/-- Putting in values whose mappings have every key once keeps it so. -/
theorem WellKeyed.insertAll {upper base : Entries} (hupper : ∀ e ∈ upper, e.2.WellKeyed)
    (hbase : (Value.map base).WellKeyed) :
    (Value.map (Entries.insertAll upper base)).WellKeyed := by
  induction upper generalizing base with
  | nil => exact hbase
  | cons e rest ih =>
    rw [List.forall_mem_cons] at hupper
    exact ih hupper.2 (hbase.alter fun _ _ => hupper.1)

/-- A value stands for another one whose mappings have every key once if its own have. -/
theorem WellKeyed.overrideWith? {merge? : Entries → Entries → Option Entries}
    {old : Option Value} {new w : Value}
    (hmerge : ∀ {base upper merged : Entries}, (Value.map base).WellKeyed →
      (Value.map upper).WellKeyed → merge? base upper = some merged →
        (Value.map merged).WellKeyed)
    (hold : ∀ v ∈ old, v.WellKeyed) (hnew : new.WellKeyed)
    (h : Value.overrideWith? merge? old new = some w) : w.WellKeyed := by
  rcases overrideWith?_cases h with ⟨rfl, -⟩ | ⟨b, base, upper, merged, hb, hbase, hupper, hm, rfl⟩
  · exact hnew
  · exact hmerge (hbase ▸ (hold b hb).opened) (hupper ▸ hnew.opened) hm

/-- Merged mappings have every key once if both have. -/
theorem WellKeyed.merge? {levels : Nat} {base upper merged : Entries}
    (hbase : (Value.map base).WellKeyed) (hupper : (Value.map upper).WellKeyed)
    (h : Entries.merge? levels base upper = some merged) : (Value.map merged).WellKeyed := by
  induction levels generalizing base upper merged with
  | zero => cases h
  | succ levels ih =>
    refine Entries.merge?_keeps (p := fun es => (Value.map es).WellKeyed) ?_ hbase h
    intro e he es w hes hw
    have hvalue : w.WellKeyed := by
      refine WellKeyed.overrideWith? ih ?_ ((wellKeyed_map_iff.mp hupper).2 e he) hw
      intro v hv
      obtain ⟨k, -, hmem⟩ := Entries.exists_mem_of_get? hv
      exact (wellKeyed_map_iff.mp hes).2 _ hmem
    exact hes.alter fun _ _ => hvalue

end Value

end Enclosure
