import Enclosure.Proofs.Value.Levels

/-!
# Merging nested mappings

A nested mapping has every key once, at every depth, and none of its mappings lies within itself.
Laid over a base, it keeps the keys of the base in front and adds its own behind them. What the
merged mapping holds besides mappings is everything that the override holds, and what the base holds
where the override does not reach: at paths that it leaves free and that do not go on below
something of it that is no mapping. So laying it over a second time changes nothing.
-/

set_option autoImplicit false

namespace Enclosure

namespace Entries

variable {es base upper : Entries} {key : Value} {e : Value × Value}

/-- No two entries have the same key. -/
def KeysDistinct (es : Entries) : Prop :=
  es.Pairwise fun e f => e.1.identity ≠ f.1.identity

instance (es : Entries) : Decidable es.KeysDistinct :=
  inferInstanceAs (Decidable (es.Pairwise _))

/-- If all keys are distinct, each of them is there once. -/
theorem KeysDistinct.hasOnce (h : es.KeysDistinct) (wanted : Value) : es.HasOnce wanted := by
  refine List.Pairwise.imp ?_ h
  intro e f hapart he hf
  exact hapart (he.trans hf.symm)

/-- If all keys are distinct, an entry is what lies under its key. -/
theorem get?_of_mem (hes : es.KeysDistinct) (he : e ∈ es) : get? e.1 es = some e.2 := by
  induction es with
  | nil => cases he
  | cons d rest ih =>
    obtain ⟨k, v⟩ := d
    rw [KeysDistinct, List.pairwise_cons] at hes
    rw [get?_cons]
    rcases List.mem_cons.mp he with rfl | hrest
    · exact if_pos rfl
    · rw [if_neg (hes.1 e hrest)]
      exact ih hes.2 hrest

/-! ### Keys -/

/-- Altering an entry keeps the keys, with the key of a new entry at the end. -/
theorem keys_alter (change : Option Value → Value) :
    (alter key change es).keys =
      if (get? key es).isNone then es.keys ++ [key] else es.keys := by
  induction es with
  | nil => rfl
  | cons d rest ih =>
    obtain ⟨k, v⟩ := d
    rw [alter, get?_cons]
    by_cases hk : k.identity = key.identity
    · simp [hk, keys]
    · have hkeys (es : Entries) : keys ((k, v) :: es) = k :: es.keys := rfl
      rw [if_neg hk, if_neg hk, hkeys, hkeys, ih]
      split <;> rfl

/-- The keys of the base come first, in their order, and then the new ones of the override. -/
theorem keys_merge? {levels : Nat} {merged : Entries} (hupper : upper.KeysDistinct)
    (h : merge? levels base upper = some merged) :
    merged.keys = base.keys ++ upper.keys.filter fun k => (get? k base).isNone := by
  obtain ⟨below, rfl⟩ := exists_levels_of_merge? h
  induction upper generalizing base with
  | nil =>
    cases h
    simp [keys]
  | cons d rest ih =>
    obtain ⟨k, v⟩ := d
    rw [KeysDistinct, List.pairwise_cons] at hupper
    rw [merge?_cons] at h
    obtain ⟨w, -, h⟩ := Option.bind_eq_some_iff.mp h
    -- the other keys of the override are new just as before
    have hnew : ((keys rest).filter fun l => (get? l (base.insert k w)).isNone) =
        (keys rest).filter fun l => (get? l base).isNone := by
      apply List.filter_congr
      intro l hl
      obtain ⟨f, hf, rfl⟩ := List.mem_map.mp hl
      rw [insert, get?_alter, if_neg (hupper.1 f hf)]
    have hkeys : keys ((k, v) :: rest) = k :: keys rest := rfl
    rw [ih hupper.2 h, hnew, insert, keys_alter, hkeys, List.filter_cons]
    split <;> simp

/-! ### Laying over what is already there -/

/-- Altering an entry that stays as it is changes nothing. -/
theorem alter_eq_self {w : Value} {change : Option Value → Value} (hw : get? key es = some w)
    (hchange : change (some w) = w) : alter key change es = es := by
  induction es with
  | nil => cases hw
  | cons d rest ih =>
    obtain ⟨k, v⟩ := d
    rw [get?_cons] at hw
    rw [alter]
    by_cases hk : k.identity = key.identity
    · rw [if_pos hk, Option.some.injEq] at hw
      rw [if_pos hk, hw, hchange]
    · rw [if_neg hk] at hw
      rw [if_neg hk, ih hw]

/-- An override whose values change nothing one by one changes nothing. -/
theorem merge?_eq_self {levels : Nat}
    (h : ∀ e ∈ upper, ∃ w, get? e.1 base = some w ∧
      Value.overrideWith? (merge? levels) (some w) e.2 = some w) :
    merge? (levels + 1) base upper = some base := by
  induction upper with
  | nil => exact merge?_nil
  | cons d rest ih =>
    obtain ⟨k, v⟩ := d
    obtain ⟨w, hw, hchange⟩ := h (k, v) List.mem_cons_self
    rw [merge?_cons, hw, hchange, Option.bind_some, insert, alter_eq_self hw rfl]
    exact ih fun e he => h e (List.mem_cons_of_mem _ he)

/-- A mapping is what an override merged into a base gives, where enough merges can lie within each
other. -/
def MergesTo (base upper merged : Entries) : Prop :=
  ∃ enough, ∀ levels ≥ enough, merge? levels base upper = some merged

/-- What is merged at some level is what the override merged into the base gives. -/
theorem mergesTo_of_merge? {levels : Nat} {merged : Entries}
    (h : merge? levels base upper = some merged) : base.MergesTo upper merged :=
  ⟨levels, fun _ hmore => merge?_mono h hmore⟩

end Entries

namespace Value

variable {v w new leaf : Value} {key : Value} {path : List Value} {es : Entries}

/-- A value in which every mapping has its keys once and none lies within itself. -/
inductive IsTree : Value → Prop
  | leaf {v : Value} (hleaf : ¬ v.IsMapping) : v.IsTree
  | map {es : Entries} (hkeys : es.KeysDistinct) (hvalues : ∀ e ∈ es, e.2.IsTree) :
    (Value.map es).IsTree

/-- A mapping is a tree when its keys are distinct and all its values are trees. -/
theorem isTree_map_iff :
    (Value.map es).IsTree ↔ es.KeysDistinct ∧ ∀ e ∈ es, e.2.IsTree := by
  constructor
  · rintro (hleaf | ⟨hkeys, hvalues⟩)
    · exact absurd (isMapping_map es) hleaf
    · exact ⟨hkeys, hvalues⟩
  · rintro ⟨hkeys, hvalues⟩
    exact .map hkeys hvalues

/-- If every value of a mapping nests within some number of levels, one number does for all. -/
theorem exists_forall_nestsWithin (h : ∀ e ∈ es, ∃ levels, e.2.NestsWithin levels) :
    ∃ levels, ∀ e ∈ es, e.2.NestsWithin levels := by
  induction es with
  | nil => exact ⟨0, by simp⟩
  | cons e rest ih =>
    rw [List.forall_mem_cons] at h
    obtain ⟨first, hfirst⟩ := h.1
    obtain ⟨others, hothers⟩ := ih h.2
    refine ⟨max first others, List.forall_mem_cons.mpr ⟨?_, fun d hd => ?_⟩⟩
    · exact hfirst.mono (Nat.le_max_left _ _)
    · exact (hothers d hd).mono (Nat.le_max_right _ _)

/-- A value in which no mapping lies within itself nests within some number of levels. -/
theorem IsTree.exists_nestsWithin (h : v.IsTree) : ∃ levels, v.NestsWithin levels := by
  induction h with
  | leaf hleaf => exact ⟨0, hleaf⟩
  | map _ _ ih =>
    obtain ⟨levels, hlevels⟩ := exists_forall_nestsWithin ih
    exact ⟨levels + 1, nestsWithin_map_iff.mpr hlevels⟩

section Again

variable {levels : Nat} {old : Option Value}

/-- Laying a value over itself changes nothing. -/
theorem overrideWith?_self (h : v.IsTree) (hlevels : v.NestsWithin levels) :
    overrideWith? (Entries.merge? levels) (some v) v = some v := by
  induction h generalizing levels with
  | leaf hleaf => exact overrideWith?_of_not_isMapping hleaf
  | map hkeys hvalues ih =>
    obtain ⟨below, rfl⟩ := hlevels.exists_levels
    rw [overrideWith?_of_opened rfl rfl, Entries.merge?_eq_self, Option.map_some]
    intro e he
    exact ⟨e.2, Entries.get?_of_mem hkeys he, ih e he (nestsWithin_map_iff.mp hlevels e he)⟩

/-- Laying a value over a second time changes nothing. -/
theorem overrideWith?_again (hnew : new.IsTree) (hlevels : new.NestsWithin levels)
    (h : overrideWith? (Entries.merge? levels) old new = some w) :
    overrideWith? (Entries.merge? levels) (some w) new = some w := by
  induction hnew generalizing old levels w with
  | leaf hleaf =>
    rw [overrideWith?_of_not_isMapping hleaf] at h ⊢
    exact h
  | @map us hkeys hvalues ih =>
    rcases overrideWith?_cases h with ⟨rfl, -⟩ | ⟨b, bs, _, merged, -, -, ⟨⟩, hmerged, rfl⟩
    · exact overrideWith?_self (.map hkeys hvalues) hlevels
    · obtain ⟨below, rfl⟩ := hlevels.exists_levels
      rw [overrideWith?_of_opened rfl rfl, Entries.merge?_eq_self, Option.map_some]
      intro e he
      have hvalue := Entries.get?_of_mem hkeys he
      obtain ⟨x, hx, hget⟩ := Entries.get?_merge?_of_some (hkeys.hasOnce e.1) hmerged hvalue
      exact ⟨x, hget, ih e he (nestsWithin_map_iff.mp hlevels e he) hx⟩

end Again

/-! ### Paths -/

/-- What lies at a path of keys in a value. -/
def at? : Value → List Value → Option Value
  | v, [] => some v
  | v, key :: path =>
    match v.opened with
    | .map es => (Entries.get? key es).bind fun w => w.at? path
    | _ => none

/-- The empty path leads to the value itself. -/
theorem at?_nil (v : Value) : v.at? [] = some v := rfl

/-- A path leads on from the value under its first key. -/
theorem at?_cons_of_opened (hv : v.opened = .map es) :
    v.at? (key :: path) = (Entries.get? key es).bind fun w => w.at? path := by
  rw [at?, hv]

/-- No path leads on from what is no mapping. -/
theorem at?_cons_of_not_isMapping (hv : ¬ v.IsMapping) : v.at? (key :: path) = none := by
  rw [at?]
  split
  · next heq => exact absurd ⟨_, heq⟩ hv
  · rfl

/-- A value that is no mapping lies at a path. -/
def HasLeaf (v : Value) (path : List Value) (leaf : Value) : Prop :=
  v.at? path = some leaf ∧ ¬ leaf.IsMapping

/-- A value binds a path, or it binds a proper beginning of the path to something that is no
mapping. -/
def Reaches (v : Value) (path : List Value) : Prop :=
  (∃ w, v.at? path = some w) ∨
    ∃ front w, front <+: path ∧ front ≠ path ∧ v.at? front = some w ∧ ¬ w.IsMapping

/-- A leaf lies at a path when it lies at the rest of it below the first key. -/
theorem hasLeaf_cons_iff (hv : v.opened = .map es) :
    v.HasLeaf (key :: path) leaf ↔ ∃ w ∈ Entries.get? key es, w.HasLeaf path leaf := by
  unfold HasLeaf
  rw [at?_cons_of_opened hv, Option.bind_eq_some_iff]
  constructor
  · rintro ⟨⟨w, hw, hpath⟩, hleaf⟩
    exact ⟨w, hw, hpath, hleaf⟩
  · rintro ⟨w, hw, hpath, hleaf⟩
    exact ⟨⟨w, hw, hpath⟩, hleaf⟩

/-- What is no mapping has no leaf below it. -/
theorem not_hasLeaf_cons (hv : ¬ v.IsMapping) : ¬ v.HasLeaf (key :: path) leaf := by
  unfold HasLeaf
  rw [at?_cons_of_not_isMapping hv]
  simp

/-- Every value reaches the empty path. -/
theorem reaches_nil (v : Value) : v.Reaches [] :=
  .inl ⟨v, rfl⟩

/-- What is no mapping reaches every path. -/
theorem reaches_of_not_isMapping (hv : ¬ v.IsMapping) (path : List Value) : v.Reaches path := by
  cases path with
  | nil => exact reaches_nil v
  | cons key path => exact .inr ⟨[], v, List.nil_prefix, by simp, rfl, hv⟩

/-- A mapping reaches a path when what lies under its first key reaches the rest. -/
theorem reaches_cons_iff (hv : v.opened = .map es) :
    v.Reaches (key :: path) ↔ ∃ w ∈ Entries.get? key es, w.Reaches path := by
  constructor
  · rintro (⟨w, hw⟩ | ⟨front, w, hfront, hne, hw, hleaf⟩)
    · rw [at?_cons_of_opened hv, Option.bind_eq_some_iff] at hw
      obtain ⟨u, hu, hw⟩ := hw
      exact ⟨u, hu, .inl ⟨w, hw⟩⟩
    · cases front with
      | nil =>
        rw [at?_nil, Option.some.injEq] at hw
        exact absurd ⟨es, hw ▸ hv⟩ hleaf
      | cons k front =>
        obtain ⟨rfl, hbelow⟩ := List.cons_prefix_cons.mp hfront
        rw [at?_cons_of_opened hv, Option.bind_eq_some_iff] at hw
        obtain ⟨u, hu, hw⟩ := hw
        have hproper : front ≠ path := fun heq => hne (by rw [heq])
        exact ⟨u, hu, .inr ⟨front, w, hbelow, hproper, hw, hleaf⟩⟩
  · rintro ⟨u, hu, ⟨w, hw⟩ | ⟨front, w, hfront, hne, hw, hleaf⟩⟩
    · refine .inl ⟨w, ?_⟩
      rw [at?_cons_of_opened hv, hu]
      exact hw
    · refine .inr ⟨key :: front, w, List.cons_prefix_cons.mpr ⟨rfl, hfront⟩, ?_, ?_, hleaf⟩
      · simpa using hne
      · rw [at?_cons_of_opened hv, hu]
        exact hw

/-- What lies under a key of a tree is a tree. -/
theorem IsTree.of_get? (hes : (Value.map es).IsTree) (hv : Entries.get? key es = some v) :
    v.IsTree := by
  obtain ⟨k, -, hmem⟩ := Entries.exists_mem_of_get? hv
  exact (isTree_map_iff.mp hes).2 _ hmem

/-- What lies at a path of a tree is a tree. -/
theorem IsTree.at? {path : List Value} {w : Value} (hv : v.IsTree) (hw : v.at? path = some w) :
    w.IsTree := by
  induction path generalizing v with
  | nil =>
    rw [at?_nil, Option.some.injEq] at hw
    exact hw ▸ hv
  | cons key path ih =>
    cases hv with
    | leaf hleaf =>
      rw [at?_cons_of_not_isMapping hleaf] at hw
      cases hw
    | @map es hkeys hvalues =>
      rw [at?_cons_of_opened rfl, Option.bind_eq_some_iff] at hw
      obtain ⟨u, hu, hw⟩ := hw
      exact ih (IsTree.of_get? (.map hkeys hvalues) hu) hw

section Laid

variable {levels : Nat}

/-- The leaves of a value laid over another one are its own and those of the other that it does not
reach. -/
theorem hasLeaf_overrideWith?_iff {old : Option Value} (hnew : new.IsTree)
    (h : overrideWith? (Entries.merge? levels) old new = some w) :
    w.HasLeaf path leaf ↔
      new.HasLeaf path leaf ∨ (∃ b ∈ old, b.HasLeaf path leaf) ∧ ¬ new.Reaches path := by
  -- Each key of the path leads one merge further in, so the levels go down with it.
  induction path generalizing old new levels w with
  | nil =>
    have hreaches := reaches_nil new
    have hboth (es : Entries) : ¬ (Value.map es).HasLeaf [] leaf := by
      rintro ⟨heq, hleaf⟩
      rw [at?_nil, Option.some.injEq] at heq
      exact hleaf (heq ▸ isMapping_map es)
    rcases overrideWith?_cases h with ⟨rfl, -⟩ | ⟨b, bs, us, merged, -, -, hus, -, rfl⟩
    · simp [hreaches]
    · cases hnew with
      | leaf hleaf => exact absurd ⟨us, hus⟩ hleaf
      | map => simp [hboth, hreaches]
  | cons key path ih =>
    cases hnew with
    | leaf hleaf =>
      have hreaches := reaches_of_not_isMapping hleaf (key :: path)
      rw [overrideWith?_of_not_isMapping hleaf, Option.some.injEq] at h
      simp [← h, hreaches]
    | @map us hkeys hvalues =>
      rcases overrideWith?_cases h with
        ⟨rfl, hmap | hold⟩ | ⟨b, bs, _, merged, rfl, hbs, ⟨⟩, hmerged, rfl⟩
      · exact absurd (isMapping_map us) hmap
      · have hnone : ¬ ∃ b ∈ old, b.HasLeaf (key :: path) leaf := by
          rintro ⟨b, hb, hleaf⟩
          exact not_hasLeaf_cons (hold b hb) hleaf
        rw [iff_false_intro hnone, false_and, or_false]
      · obtain ⟨below, rfl⟩ := Entries.exists_levels_of_merge? hmerged
        rw [hasLeaf_cons_iff rfl, hasLeaf_cons_iff rfl, reaches_cons_iff rfl]
        simp only [Option.mem_some_iff, exists_eq_left', hasLeaf_cons_iff hbs]
        cases hget : Entries.get? key us with
        | none => simp [Entries.get?_merge?_of_none (hkeys.hasOnce key) hmerged hget]
        | some u =>
          obtain ⟨x, hx, hlaid⟩ :=
            Entries.get?_merge?_of_some (hkeys.hasOnce key) hmerged hget
          have hu : u.IsTree := IsTree.of_get? (.map hkeys hvalues) hget
          simpa [hlaid] using ih hu hx

/-- Where both a value and what is laid over it hold mappings, the result holds these merged. -/
theorem at?_overrideWith? {b u : Entries} {base : Value} (hnew : new.IsTree)
    (h : overrideWith? (Entries.merge? levels) (some base) new = some w)
    (hbase : base.at? path = some (.map b)) (hpath : new.at? path = some (.map u)) :
    ∃ below merged, Entries.merge? below b u = some merged ∧ w.at? path = some (.map merged) := by
  induction path generalizing base new levels w with
  | nil =>
    rw [at?_nil, Option.some.injEq] at hbase hpath
    rw [hbase, hpath, overrideWith?_of_opened rfl rfl, Option.map_eq_some_iff] at h
    obtain ⟨merged, hmerged, rfl⟩ := h
    exact ⟨levels, merged, hmerged, rfl⟩
  | cons key path ih =>
    cases hnew with
    | leaf hleaf =>
      rw [at?_cons_of_not_isMapping hleaf] at hpath
      cases hpath
    | @map us hkeys hvalues =>
      rcases overrideWith?_cases h with
        ⟨-, hmap | hold⟩ | ⟨_, bs, _, merged, ⟨⟩, hbs, ⟨⟩, hmerged, rfl⟩
      · exact absurd (isMapping_map us) hmap
      · rw [at?_cons_of_not_isMapping (hold base rfl)] at hbase
        cases hbase
      · obtain ⟨below, rfl⟩ := Entries.exists_levels_of_merge? hmerged
        rw [at?_cons_of_opened hbs, Option.bind_eq_some_iff] at hbase
        rw [at?_cons_of_opened rfl, Option.bind_eq_some_iff] at hpath
        obtain ⟨v, hv, hbase⟩ := hbase
        obtain ⟨u, hu, hpath⟩ := hpath
        obtain ⟨x, hx, hlaid⟩ := Entries.get?_merge?_of_some (hkeys.hasOnce key) hmerged hu
        rw [hv] at hx
        rw [at?_cons_of_opened rfl, hlaid]
        exact ih (IsTree.of_get? (.map hkeys hvalues) hu) hx hbase hpath

end Laid

end Value

/-- Nested mappings can be merged. The merged one has the keys of the base, in their order, and then
the new ones of the override, in theirs, and the same holds of all mappings that both have at one
path. It holds at a path what the override holds there besides mappings, and what the base holds
there if the override does not reach the path. Merging the override in again changes nothing, nor
does merging a mapping into itself. -/
theorem Entries.merge_lays_over {base upper : Entries} (hbase : (Value.map base).IsTree)
    (hupper : (Value.map upper).IsTree) :
    ∃ merged, base.MergesTo upper merged ∧
      merged.keys = base.keys ++ upper.keys.filter (fun k => (get? k base).isNone) ∧
      (∀ path (b u : Entries), (Value.map base).at? path = some (.map b) →
        (Value.map upper).at? path = some (.map u) →
          ∃ inner, b.MergesTo u inner ∧ (Value.map merged).at? path = some (.map inner) ∧
            inner.keys = b.keys ++ u.keys.filter (fun k => (get? k b).isNone)) ∧
      (∀ path leaf, (Value.map merged).HasLeaf path leaf ↔
        (Value.map upper).HasLeaf path leaf ∨
          (Value.map base).HasLeaf path leaf ∧ ¬ (Value.map upper).Reaches path) ∧
      merged.MergesTo upper merged ∧ base.MergesTo base base := by
  obtain ⟨levels, hlevels⟩ := hupper.exists_nestsWithin
  obtain ⟨within, hwithin⟩ := hbase.exists_nestsWithin
  obtain ⟨merged, hmerged⟩ := exists_merge? base hlevels
  have hlaid : Value.overrideWith? (merge? levels) (some (.map base)) (.map upper) =
      some (.map merged) := by
    rw [Value.overrideWith?_of_opened rfl rfl, hmerged, Option.map_some]
  have hmerges {n : Nat} {b u m : Entries}
      (h : Value.overrideWith? (merge? n) (some (.map b)) (.map u) = some (.map m)) :
      b.MergesTo u m := by
    rw [Value.overrideWith?_of_opened rfl rfl, Option.map_eq_some_iff] at h
    obtain ⟨_, hm, ⟨⟩⟩ := h
    exact mergesTo_of_merge? hm
  refine ⟨merged, mergesTo_of_merge? hmerged,
    keys_merge? (Value.isTree_map_iff.mp hupper).1 hmerged, ?_, ?_, ?_, ?_⟩
  · intro path b u hb hu
    obtain ⟨below, inner, hinner, hpath⟩ := Value.at?_overrideWith? hupper hlaid hb hu
    have hkeys := (Value.isTree_map_iff.mp (hupper.at? hu)).1
    exact ⟨inner, mergesTo_of_merge? hinner, hpath, keys_merge? hkeys hinner⟩
  · intro path leaf
    rw [Value.hasLeaf_overrideWith?_iff hupper hlaid]
    simp
  · exact hmerges (Value.overrideWith?_again hupper hlevels hlaid)
  · exact hmerges (Value.overrideWith?_self hbase hwithin)

/-- Mappings over mappings, over a number and under one, and two spellings of one key. -/
theorem Entries.merge_lays_over_mixed :
    let base : Entries := [(.str "a", .map [(.str "x", .int 1), (.str "y", .int 2)]),
      (.str "c", .map [(.str "z", .int 3)]), (.int 1, .int 4)]
    let upper : Entries := [(.str "d", .int 5), (.str "c", .int 6), (.bool true, .int 7),
      (.str "a", .map [(.str "y", .map [(.str "w", .int 8)]), (.str "v", .map [])])]
    (Value.map base).IsTree ∧ (Value.map upper).IsTree ∧
      ∃ merged, base.MergesTo upper merged ∧
        merged.keys = [.str "a", .str "c", .int 1, .str "d"] ∧
        (Value.map merged).HasLeaf [.str "a", .str "x"] (.int 1) ∧
        (Value.map merged).HasLeaf [.str "a", .str "y", .str "w"] (.int 8) ∧
        ¬ (Value.map merged).HasLeaf [.str "c", .str "z"] (.int 3) ∧
        merged.MergesTo upper merged ∧ base.MergesTo base base := by
  intro base upper
  have hint (i : Int) : ¬ (Value.int i).IsMapping := fun ⟨_, h⟩ => by cases h
  have htree (i : Int) : (Value.int i).IsTree := .leaf (hint i)
  have hbase : (Value.map base).IsTree := by
    simp [base, Value.isTree_map_iff, KeysDistinct, Value.identity, htree]
  have hupper : (Value.map upper).IsTree := by
    simp [upper, Value.isTree_map_iff, KeysDistinct, Value.identity, htree]
  obtain ⟨merged, hmerges, hkeys, -, hleaves, hagain, hself⟩ :=
    Entries.merge_lays_over hbase hupper
  refine ⟨hbase, hupper, merged, hmerges, hkeys.trans rfl, ?_, ?_, ?_, hagain, hself⟩
  · refine (hleaves _ _).mpr (.inr ⟨⟨rfl, hint 1⟩, ?_⟩)
    -- the override goes into the mapping and has nothing there
    rw [Value.reaches_cons_iff rfl]
    rintro ⟨w, hw, hreaches⟩
    obtain rfl : _ = w := Option.some.inj hw
    obtain ⟨u, hu, -⟩ := (Value.reaches_cons_iff rfl).mp hreaches
    cases hu
  · exact (hleaves _ _).mpr (.inl ⟨rfl, hint 8⟩)
  · rw [hleaves]
    rintro (⟨hleaf, -⟩ | ⟨-, hfree⟩)
    · cases hleaf
    · refine hfree (.inr ⟨[.str "c"], .int 6, ?_, by simp, rfl, hint 6⟩)
      exact List.prefix_append _ _

end Enclosure
