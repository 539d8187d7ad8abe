import Enclosure.Proofs.Except
import Enclosure.Value.Merge

/-!
# Looking up what was merged

Under a key that the override of a merge has once at most, the merged mapping holds what the
override holds there, put over what the base holds, and what the base holds where the override holds
nothing. A text is the key of at most one entry of a mapping, and merging keeps it so.
-/

set_option autoImplicit false

namespace Enclosure

/-- Only a text denotes a text. -/
theorem Value.identity_eq_str_iff {v : Value} {s : String} :
    v.identity = .str s ↔ v = .str s := by
  constructor
  · intro h
    cases v with
    | str t =>
      simp only [identity, KeyIdentity.str.injEq] at h
      rw [h]
    | float x =>
      unfold identity at h
      dsimp only at h
      split at h <;> cases h
    | timestamp t =>
      unfold identity at h
      dsimp only at h
      split at h <;> cases h
    | _ => cases h
  · rintro rfl
    rfl

instance (v : Value) (s : String) : Decidable (v = .str s) :=
  decidable_of_iff _ Value.identity_eq_str_iff

namespace Value

variable {merge? : Entries → Entries → Option Entries} {old : Option Value} {new w : Value}

/-- Where there is no old value the new one stands. -/
theorem overrideWith?_none : overrideWith? merge? none new = some new := rfl

/-- What is no mapping stands as it is. -/
theorem overrideWith?_of_not_isMapping (hnew : ¬ new.IsMapping) :
    overrideWith? merge? old new = some new := by
  unfold overrideWith?
  split
  · next heq => exact absurd ⟨_, heq⟩ hnew
  · rfl

/-- A mapping is merged into another one. -/
theorem overrideWith?_of_opened {b : Value} {base upper : Entries} (hb : b.opened = .map base)
    (hnew : new.opened = .map upper) :
    overrideWith? merge? (some b) new = (merge? base upper).map .map := by
  unfold overrideWith?
  rw [Option.map_some, hb, hnew]

/-- What stands is the new value, unless both are mappings and it is what these are merged to. -/
theorem overrideWith?_cases (h : overrideWith? merge? old new = some w) :
    w = new ∧ (¬ new.IsMapping ∨ ∀ b ∈ old, ¬ b.IsMapping) ∨
      ∃ b base upper merged, old = some b ∧ b.opened = .map base ∧ new.opened = .map upper ∧
        merge? base upper = some merged ∧ w = .map merged := by
  by_cases hnew : new.IsMapping
  · obtain ⟨upper, hupper⟩ := hnew
    cases old with
    | none =>
      rw [overrideWith?_none, Option.some.injEq] at h
      exact .inl ⟨h.symm, .inr (by simp)⟩
    | some b =>
      by_cases hb : b.IsMapping
      · obtain ⟨base, hbase⟩ := hb
        rw [overrideWith?_of_opened hbase hupper, Option.map_eq_some_iff] at h
        obtain ⟨merged, hmerged, rfl⟩ := h
        exact .inr ⟨b, base, upper, merged, rfl, hbase, hupper, hmerged, rfl⟩
      · refine .inl ⟨?_, .inr (by simpa using hb)⟩
        unfold overrideWith? at h
        split at h
        · next heq _ => exact absurd ⟨_, Option.some.inj heq⟩ hb
        · exact (Option.some.inj h).symm
  · rw [overrideWith?_of_not_isMapping hnew, Option.some.injEq] at h
    exact .inl ⟨h.symm, .inl hnew⟩

end Value

namespace Entries

variable {es base upper rest : Entries} {k key wanted v : Value} {name : String}

/-- There is nothing in an empty mapping. -/
theorem get?_nil : get? wanted [] = none := rfl

/-- What lies under a key is the first value under an equal key. -/
theorem get?_cons :
    get? wanted ((k, v) :: rest) =
      if k.identity = wanted.identity then some v else get? wanted rest := by
  rw [get?]

/-- Under equal keys lies the same. -/
theorem get?_congr (h : key.identity = wanted.identity) : get? key es = get? wanted es := by
  induction es with
  | nil => rfl
  | cons e rest ih =>
    obtain ⟨k, v⟩ := e
    rw [get?_cons, get?_cons, h, ih]

/-- What lies under a key is the value of an entry with an equal key. -/
theorem exists_mem_of_get? (h : get? wanted es = some v) :
    ∃ k, k.identity = wanted.identity ∧ (k, v) ∈ es := by
  induction es with
  | nil => cases h
  | cons e rest ih =>
    obtain ⟨k, w⟩ := e
    rw [get?_cons] at h
    by_cases hk : k.identity = wanted.identity
    · rw [if_pos hk] at h
      injection h with h
      exact ⟨k, hk, by rw [h]; exact List.mem_cons_self⟩
    · rw [if_neg hk] at h
      obtain ⟨l, hl, hmem⟩ := ih h
      exact ⟨l, hl, List.mem_cons_of_mem _ hmem⟩

/-- Nothing lies under a key that no key is equal to. -/
theorem get?_eq_none_of_forall (h : ∀ e ∈ es, e.1.identity ≠ wanted.identity) :
    get? wanted es = none := by
  cases hget : get? wanted es with
  | none => rfl
  | some v =>
    obtain ⟨k, hk, hmem⟩ := exists_mem_of_get? hget
    exact absurd hk (h _ hmem)

/-- A key is that of one entry at most. -/
def HasOnce (wanted : Value) (es : Entries) : Prop :=
  es.Pairwise fun e f => e.1.identity = wanted.identity → f.1.identity ≠ wanted.identity

/-- No text is the key of two entries. -/
def KeysOnce (es : Entries) : Prop :=
  es.Pairwise fun e f => ∀ s, e.1.identity = .str s → f.1.identity ≠ .str s

/-- Texts are keys once exactly when they are in the rest and the first key is not one of those. -/
theorem keysOnce_cons :
    KeysOnce ((k, v) :: rest) ↔
      (∀ f ∈ rest, ∀ s, k.identity = .str s → f.1.identity ≠ .str s) ∧ KeysOnce rest :=
  List.pairwise_cons

/-- If texts are keys once, each text is. -/
theorem KeysOnce.hasOnce (h : es.KeysOnce) (name : String) : es.HasOnce (.str name) :=
  List.Pairwise.imp (fun hapart hname => hapart name hname) h

/-- No field is in an empty mapping. -/
theorem field?_nil : field? [] name = none := rfl

/-- A field is the first value under its name. -/
theorem field?_cons :
    field? ((k, v) :: rest) name =
      if k.identity = .str name then some v else field? rest name :=
  get?_cons

/-- A field is an entry under its name. -/
theorem mem_of_field? (h : es.field? name = some v) : (.str name, v) ∈ es := by
  obtain ⟨k, hk, hmem⟩ := exists_mem_of_get? h
  have hkey : k = .str name := Value.identity_eq_str_iff.mp hk
  rwa [hkey] at hmem

/-- A name that no key is equal to is no field. -/
theorem field?_eq_none_of_forall (h : ∀ e ∈ es, e.1.identity ≠ .str name) :
    es.field? name = none :=
  get?_eq_none_of_forall h

/-! ### Changing one entry -/

/-- The keys after a change are the keys before it and the one that it is made under. -/
theorem forall_mem_alter_iff {p : Value → Prop}
    (hp : ∀ k l : Value, k.identity = l.identity → (p k ↔ p l)) (change : Option Value → Value) :
    (∀ e ∈ alter key change es, p e.1) ↔ p key ∧ ∀ e ∈ es, p e.1 := by
  induction es with
  | nil => simp [alter]
  | cons d rest ih =>
    obtain ⟨k, v⟩ := d
    rw [alter]
    by_cases hk : k.identity = key.identity
    · rw [if_pos hk, List.forall_mem_cons, List.forall_mem_cons, ← hp k key hk, ← and_assoc,
        and_self]
    · rw [if_neg hk, List.forall_mem_cons, List.forall_mem_cons, ih, and_left_comm]

/-- Altering an entry changes what lies under its key and nothing else. -/
theorem get?_alter (change : Option Value → Value) :
    get? wanted (alter key change es) =
      if key.identity = wanted.identity then some (change (get? wanted es))
      else get? wanted es := by
  induction es with
  | nil => rw [alter, get?_cons, get?_nil]
  | cons d rest ih =>
    obtain ⟨k, v⟩ := d
    rw [alter]
    by_cases hk : k.identity = key.identity
    · -- The entry in front is the one that changes, and it keeps its key.
      rw [if_pos hk, get?_cons, get?_cons, hk]
      by_cases hwanted : key.identity = wanted.identity
      · rw [if_pos hwanted, if_pos hwanted, if_pos hwanted]
      · rw [if_neg hwanted, if_neg hwanted, if_neg hwanted]
    · rw [if_neg hk, get?_cons, get?_cons, ih]
      by_cases hwanted : k.identity = wanted.identity
      · have hkey : key.identity ≠ wanted.identity := fun hkey => hk (hwanted.trans hkey.symm)
        rw [if_pos hwanted, if_neg hkey, if_pos hwanted]
      · rw [if_neg hwanted, if_neg hwanted]

/-- Altering an entry changes the field of its name and nothing else. -/
theorem field?_alter (change : Option Value → Value) :
    field? (alter key change es) name =
      if key.identity = .str name then some (change (es.field? name)) else es.field? name :=
  get?_alter change

/-- What holds of all values holds of them after one is put in of which it holds. -/
theorem forall_mem_insert {p : Value → Prop} (hes : ∀ e ∈ es, p e.2) (hv : p v) :
    ∀ e ∈ insert key v es, p e.2 := by
  unfold insert
  induction es with
  | nil => simpa [alter] using hv
  | cons d rest ih =>
    obtain ⟨k, w⟩ := d
    rw [List.forall_mem_cons] at hes
    rw [alter]
    split
    · exact List.forall_mem_cons.mpr ⟨hv, hes.2⟩
    · exact List.forall_mem_cons.mpr ⟨hes.1, ih hes.2⟩

/-- Keys that are apart stay apart when a value is changed or put under a key apart from them. -/
theorem pairwise_alter (apart : Value → Value → Prop)
    (hcongr : ∀ k l m : Value, l.identity = m.identity → (apart k l ↔ apart k m))
    (hkey : ∀ k : Value, k.identity ≠ key.identity → apart k key)
    (hes : es.Pairwise fun e f => apart e.1 f.1) (change : Option Value → Value) :
    (alter key change es).Pairwise fun e f => apart e.1 f.1 := by
  induction es with
  | nil => exact List.pairwise_singleton _ _
  | cons d rest ih =>
    obtain ⟨k, v⟩ := d
    rw [List.pairwise_cons] at hes
    rw [Entries.alter]
    by_cases hk : k.identity = key.identity
    · rw [if_pos hk, List.pairwise_cons]
      exact hes
    · rw [if_neg hk, List.pairwise_cons]
      exact ⟨(forall_mem_alter_iff (hcongr k) change).mpr ⟨hkey k hk, hes.1⟩, ih hes.2⟩

/-- Altering an entry keeps texts keys once. -/
theorem KeysOnce.alter (hes : es.KeysOnce) (change : Option Value → Value) :
    (alter key change es).KeysOnce := by
  let apart (k l : Value) : Prop := ∀ s, k.identity = .str s → l.identity ≠ .str s
  refine pairwise_alter apart ?_ ?_ hes change
  · intro k l m h
    simp only [apart, h]
  · intro k hk s hs hkey
    exact hk (hs.trans hkey.symm)

/-- Entries that are put in stand in the place of others. -/
theorem field?_insertAll (base : Entries) (hupper : upper.KeysOnce) :
    field? (insertAll upper base) name = (upper.field? name).or (base.field? name) := by
  induction upper generalizing base with
  | nil => rfl
  | cons e rest ih =>
    obtain ⟨k, v⟩ := e
    have hstep : insertAll ((k, v) :: rest) base = insertAll rest (insert k v base) := rfl
    rw [keysOnce_cons] at hupper
    rw [hstep, ih _ hupper.2, insert, field?_alter, field?_cons]
    by_cases hk : k.identity = .str name
    · have hrest : field? rest name = none :=
        field?_eq_none_of_forall fun f hf => hupper.1 f hf name hk
      rw [if_pos hk, if_pos hk, hrest]
      rfl
    · rw [if_neg hk, if_neg hk]

/-! ### Merging -/

section Merging

variable {levels : Nat} {merged : Entries}

/-- Merging goes through the override from its first entry on. -/
theorem merge?_cons :
    merge? (levels + 1) base ((k, v) :: rest) =
      (Value.overrideWith? (merge? levels) (base.get? k) v).bind fun w =>
        merge? (levels + 1) (base.insert k w) rest := by
  simp only [merge?, List.foldlM_cons, Option.bind_eq_bind, Option.bind_map, Function.comp_def]

/-- Merging nothing changes nothing. -/
theorem merge?_nil : merge? (levels + 1) base [] = some base := rfl

/-- Merging at no level gives nothing. -/
theorem exists_levels_of_merge? (h : merge? levels base upper = some merged) :
    ∃ below, levels = below + 1 := by
  cases levels with
  | zero => cases h
  | succ below => exact ⟨below, rfl⟩

/-- What every step of merging keeps holds of the merged entries. -/
theorem merge?_keeps {p : Entries → Prop}
    (hstep : ∀ e ∈ upper, ∀ es w, p es →
      Value.overrideWith? (merge? levels) (es.get? e.1) e.2 = some w → p (es.insert e.1 w))
    (hbase : p base) (h : merge? (levels + 1) base upper = some merged) : p merged := by
  refine foldlM_some_keeps (fun e he es next hes hnext => ?_) hbase h
  obtain ⟨w, hw, rfl⟩ := Option.map_eq_some_iff.mp hnext
  exact hstep e he es w hes hw

/-- The keys of merged mappings are those of both. -/
theorem forall_mem_merge?_iff {p : Value → Prop}
    (hp : ∀ k l : Value, k.identity = l.identity → (p k ↔ p l))
    (h : merge? levels base upper = some merged) :
    (∀ e ∈ merged, p e.1) ↔ (∀ e ∈ base, p e.1) ∧ ∀ e ∈ upper, p e.1 := by
  obtain ⟨below, rfl⟩ := exists_levels_of_merge? h
  induction upper generalizing base with
  | nil =>
    cases h
    simp
  | cons e rest ih =>
    obtain ⟨k, v⟩ := e
    rw [merge?_cons] at h
    obtain ⟨w, -, h⟩ := Option.bind_eq_some_iff.mp h
    rw [ih h, insert, forall_mem_alter_iff hp, List.forall_mem_cons, and_assoc, and_left_comm]

/-- Under a key that the override has once it stands over the base. -/
theorem get?_merge? (hupper : upper.HasOnce wanted)
    (h : merge? (levels + 1) base upper = some merged) :
    match get? wanted upper with
    | some v => ∃ w, Value.overrideWith? (merge? levels) (get? wanted base) v = some w ∧
        get? wanted merged = some w
    | none => get? wanted merged = get? wanted base := by
  induction upper generalizing base with
  | nil =>
    cases h
    rfl
  | cons e rest ih =>
    obtain ⟨k, v⟩ := e
    rw [HasOnce, List.pairwise_cons] at hupper
    rw [merge?_cons] at h
    obtain ⟨w, hw, h⟩ := Option.bind_eq_some_iff.mp h
    have hrest := ih hupper.2 h
    rw [insert, get?_alter] at hrest
    rw [get?_cons]
    by_cases hk : k.identity = wanted.identity
    · have hnone : get? wanted rest = none :=
        get?_eq_none_of_forall fun f hf => hupper.1 f hf hk
      rw [hnone, if_pos hk] at hrest
      rw [if_pos hk, ← get?_congr hk]
      exact ⟨w, hw, hrest⟩
    · rw [if_neg hk] at hrest
      rw [if_neg hk]
      exact hrest

/-- Under a key that the override has it stands over the base. -/
theorem get?_merge?_of_some (hupper : upper.HasOnce wanted)
    (h : merge? (levels + 1) base upper = some merged) (hv : get? wanted upper = some v) :
    ∃ w, Value.overrideWith? (merge? levels) (get? wanted base) v = some w ∧
      get? wanted merged = some w := by
  have hget := get?_merge? hupper h
  rwa [hv] at hget

/-- Under a key that the override has not the base stays as it is. -/
theorem get?_merge?_of_none (hupper : upper.HasOnce wanted)
    (h : merge? (levels + 1) base upper = some merged) (hv : get? wanted upper = none) :
    get? wanted merged = get? wanted base := by
  have hget := get?_merge? hupper h
  rwa [hv] at hget

end Merging

end Entries

end Enclosure
