import Enclosure.Proofs.Value.Lookup

/-!
# How deep merging goes

Merges lie within each other as the mappings of the override do, so an override whose mappings lie
within each other only so often is merged when there are as many levels. More levels give the same
merged mapping. A mapping that lies within itself nests without end, unless a list comes in between:
lists are not merged, and what lies in them does not matter.
-/

set_option autoImplicit false

namespace Enclosure

/-- Whether no more mappings lie within each other than there are levels. -/
def Value.NestsWithin : Nat → Value → Prop
  | 0, v => ¬ v.IsMapping
  | levels + 1, v => ∀ entries, v.opened = .map entries → ∀ e ∈ entries, NestsWithin levels e.2

namespace Value

variable {v old new w : Value} {levels more : Nat} {es : Entries}

/-- What is no mapping nests within any number of levels. -/
theorem nestsWithin_of_not_isMapping (hv : ¬ v.IsMapping) (levels : Nat) :
    v.NestsWithin levels := by
  cases levels with
  | zero => exact hv
  | succ levels => exact fun entries h => absurd ⟨entries, h⟩ hv

/-- A mapping takes a level more than its values. -/
theorem nestsWithin_map_iff :
    (Value.map es).NestsWithin (levels + 1) ↔ ∀ e ∈ es, e.2.NestsWithin levels := by
  constructor
  · intro h
    exact h es rfl
  · rintro h _ ⟨⟩
    exact h

/-- A mapping takes a level. -/
theorem NestsWithin.exists_levels (h : (Value.map es).NestsWithin levels) :
    ∃ below, levels = below + 1 := by
  cases levels with
  | zero => exact absurd (isMapping_map es) h
  | succ below => exact ⟨below, rfl⟩

/-- A mapping that can be looked at nests as deep as the value that it is. -/
theorem NestsWithin.of_opened (h : v.NestsWithin levels) (hv : v.opened = .map es) :
    (Value.map es).NestsWithin levels := by
  cases levels with
  | zero => exact absurd ⟨es, hv⟩ h
  | succ below => exact nestsWithin_map_iff.mpr (h es hv)

/-- What nests within some levels nests within more of them. -/
theorem NestsWithin.mono (h : v.NestsWithin levels) (hle : levels ≤ more) : v.NestsWithin more := by
  induction levels generalizing v more with
  | zero => exact nestsWithin_of_not_isMapping h more
  | succ levels ih =>
    obtain ⟨below, rfl⟩ := Nat.exists_eq_add_of_le' (Nat.lt_of_lt_of_le (Nat.succ_pos _) hle)
    intro entries hv e he
    exact ih (h entries hv e he) (Nat.le_of_succ_le_succ hle)

/-- What lies under a key of a mapping nests a level less. -/
theorem NestsWithin.of_get? {key : Value} (h : (Value.map es).NestsWithin (levels + 1))
    (hv : Entries.get? key es = some v) : v.NestsWithin levels := by
  obtain ⟨k, -, hmem⟩ := Entries.exists_mem_of_get? hv
  exact nestsWithin_map_iff.mp h _ hmem

/-- A way of merging that gives what another one gives makes the same values stand. -/
theorem overrideWith?_mono {merge? merge'? : Entries → Entries → Option Entries}
    {old : Option Value}
    (hmerge : ∀ {base upper merged}, merge? base upper = some merged →
      merge'? base upper = some merged)
    (h : overrideWith? merge? old new = some w) : overrideWith? merge'? old new = some w := by
  unfold overrideWith? at h ⊢
  split at h
  · next hb hnew =>
    obtain ⟨merged, hmerged, rfl⟩ := Option.map_eq_some_iff.mp h
    rw [hmerge hmerged, Option.map_some]
  · exact h

end Value

namespace Entries

variable {base upper merged : Entries} {levels more : Nat}

/-- More levels give the same merged mapping. -/
theorem merge?_mono (h : merge? levels base upper = some merged) (hle : levels ≤ more) :
    merge? more base upper = some merged := by
  -- on the levels, for merges within each other, and on the override, for those after each other
  induction levels generalizing base upper merged more with
  | zero => cases h
  | succ levels ih =>
    obtain ⟨below, rfl⟩ := Nat.exists_eq_add_of_le' (Nat.lt_of_lt_of_le (Nat.succ_pos _) hle)
    induction upper generalizing base with
    | nil => exact h
    | cons e rest ihrest =>
      obtain ⟨k, v⟩ := e
      rw [merge?_cons] at h ⊢
      obtain ⟨w, hw, h⟩ := Option.bind_eq_some_iff.mp h
      have hsame := Value.overrideWith?_mono (fun hm => ih hm (Nat.le_of_succ_le_succ hle)) hw
      exact Option.bind_eq_some_iff.mpr ⟨w, hsame, ihrest h⟩

/-- An override that nests within the levels is merged. -/
theorem exists_merge? (base : Entries) (h : (Value.map upper).NestsWithin levels) :
    ∃ merged, merge? levels base upper = some merged := by
  induction levels generalizing base upper with
  | zero => exact absurd (Value.isMapping_map upper) h
  | succ levels ih =>
    rw [Value.nestsWithin_map_iff] at h
    induction upper generalizing base with
    | nil => exact ⟨base, rfl⟩
    | cons e rest ihrest =>
      obtain ⟨k, v⟩ := e
      rw [List.forall_mem_cons] at h
      have hvalue : ∃ w, Value.overrideWith? (merge? levels) (base.get? k) v = some w := by
        unfold Value.overrideWith?
        split
        · next us _ hv =>
          obtain ⟨merged, hmerged⟩ := ih _ (h.1.of_opened hv)
          exact ⟨.map merged, by rw [hmerged, Option.map_some]⟩
        · exact ⟨v, rfl⟩
      obtain ⟨w, hw⟩ := hvalue
      obtain ⟨merged, hmerged⟩ := ihrest (base.insert k w) h.2
      refine ⟨merged, ?_⟩
      rw [merge?_cons, hw, Option.bind_some, hmerged]

/-- Merged mappings nest no deeper than both do. -/
theorem nestsWithin_merge? {within : Nat} (hbase : (Value.map base).NestsWithin within)
    (hupper : (Value.map upper).NestsWithin within) (h : merge? levels base upper = some merged) :
    (Value.map merged).NestsWithin within := by
  induction levels generalizing base upper merged within with
  | zero => cases h
  | succ levels ih =>
    obtain ⟨below, rfl⟩ := hupper.exists_levels
    refine merge?_keeps (p := fun es => (Value.map es).NestsWithin (below + 1)) ?_ hbase h
    intro e he es w hes hw
    have hnew : e.2.NestsWithin below := Value.nestsWithin_map_iff.mp hupper e he
    have hvalue : w.NestsWithin below := by
      rcases Value.overrideWith?_cases hw with
        ⟨rfl, -⟩ | ⟨b, bs, us, m, hb, hbs, hus, hm, rfl⟩
      · exact hnew
      · exact ih ((hes.of_get? hb).of_opened hbs) (hnew.of_opened hus) hm
    rw [Value.nestsWithin_map_iff] at hes ⊢
    exact forall_mem_insert hes hvalue

end Entries

end Enclosure
