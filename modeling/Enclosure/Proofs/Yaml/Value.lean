import Enclosure.Proofs.Yaml.Keys
import Enclosure.Yaml.Document

/-!
# Keys in the values of YAML documents

In the value that is put together of the nodes of a document every text is the key of at most one
entry of a mapping, wherever aliases put the mapping and even if it lies within itself.
-/

set_option autoImplicit false

namespace Enclosure.Yaml.Assembly

variable {objects : Array (Option Object)} {α β : Type} {p : α → Prop} {q : β → Prop}

/-- What is used of the objects of a document: no two keys of a mapping are the same text, and
scalars are no mappings. -/
structure Apart (objects : Array (Option Object)) : Prop where
  keys : ∀ (n : Nat) (entries : List (Nat × Nat)), objects[n]? = some (some (.map entries)) →
    (entries.map fun e => atomValue objects e.1).Pairwise fun k l =>
      ∀ s, k.identity = .str s → l.identity ≠ .str s
  atoms : ∀ (n : Nat) (v : Value) (own : Option Nat),
    objects[n]? = some (some (.atom v own)) → v.WellKeyed

/-- Whether keys occur once in all values that have been put together. -/
def AllKeyed (known : Known) : Prop :=
  ∀ (n : Nat) (v : Value), known[n]? = some (some v) → v.WellKeyed

/-- Whether something that is put together has a property, and keys still occur once in what is
known after it. -/
def Yields (m : StateM Known α) (p : α → Prop) : Prop :=
  ∀ known, AllKeyed known → p (m.run known).1 ∧ AllKeyed (m.run known).2

/-- A good value by itself is a good result. -/
theorem Yields.pure {a : α} (h : p a) : Yields (Pure.pure a) p :=
  fun _ hknown => ⟨h, hknown⟩

/-- Two steps in a row have a good result if the second makes one of each good result of the first.
-/
theorem Yields.bind {m : StateM Known α} {f : α → StateM Known β} (hm : Yields m p)
    (hf : ∀ a, p a → Yields (f a) q) : Yields (m >>= f) q := by
  intro known hknown
  obtain ⟨hp, hafter⟩ := hm known hknown
  exact hf _ hp _ hafter

/-- Steps with good results have good results one after the other. -/
theorem Yields.mapM {f : α → StateM Known β} {items : List α}
    (h : ∀ a ∈ items, Yields (f a) q) :
    Yields (items.mapM f) fun bs => bs.length = items.length ∧ ∀ b ∈ bs, q b := by
  induction items with
  | nil =>
    rw [List.mapM_nil]
    exact .pure ⟨rfl, by simp⟩
  | cons a rest ih =>
    rw [List.forall_mem_cons] at h
    rw [List.mapM_cons]
    refine .bind h.1 fun b hb => .bind (ih h.2) fun bs hbs => .pure ?_
    rw [List.forall_mem_cons, List.length_cons, List.length_cons, hbs.1]
    exact ⟨rfl, hb, hbs.2⟩

/-- Keeping a well-keyed value for a place gives a well-keyed value. -/
theorem Yields.keep {n : Nat} {l : Loose} (h : l.value.WellKeyed) :
    Yields (Assembly.keep n l) fun l => l.value.WellKeyed := by
  intro known hknown
  unfold Assembly.keep
  by_cases hclosed : l.isClosed = true
  · rw [if_pos hclosed]
    refine ⟨h, ?_⟩
    intro m v hv
    have hset : (known.setIfInBounds n (some l.value))[m]? = some (some v) := hv
    rw [Array.getElem?_setIfInBounds] at hset
    split at hset
    · split at hset
      · injection hset with hset
        injection hset with hset
        rw [← hset]
        exact h
      · cases hset
    · exact hknown m v hset
  · rw [if_neg hclosed]
    exact ⟨h, hknown⟩

/-- A well-keyed collection stays so when the places where it lies within itself are tied to it. -/
theorem wellKeyed_tie {label : Label} {parts : List Loose} {collection : Value}
    (h : collection.WellKeyed) : (Loose.tie label parts collection).value.WellKeyed := by
  unfold Loose.tie
  dsimp only
  split
  · exact h
  · rw [Value.WellKeyed]
    exact h

/-- A list of well-keyed values is well keyed. -/
theorem wellKeyed_list {parts : List Loose} (h : ∀ l ∈ parts, l.value.WellKeyed) :
    (Value.list (parts.map Loose.value)).WellKeyed := by
  rw [Value.WellKeyed, Value.allWellKeyed_iff]
  intro v hv
  obtain ⟨l, hl, rfl⟩ := List.mem_map.mp hv
  exact h l hl

/-- A mapping of well-keyed values is well keyed if no text is a key twice. -/
theorem wellKeyed_map {keys values : List Value} (hlength : keys.length ≤ values.length)
    (hkeys : keys.Pairwise fun k l => ∀ s, k.identity = .str s → l.identity ≠ .str s)
    (hvalues : ∀ v ∈ values, v.WellKeyed) : (Value.map (keys.zip values)).WellKeyed := by
  rw [Value.wellKeyed_map_iff, Value.keysOnce_iff_map_fst, List.map_fst_zip hlength]
  refine ⟨hkeys, ?_⟩
  intro e he
  exact hvalues _ (List.of_mem_zip he).2

/-- What a node is put together to has every key once. -/
theorem yields_assemble (happart : Apart objects) (depth : Nat) (around : List Label) (n : Nat) :
    Yields (assemble objects depth around n) fun l => l.value.WellKeyed := by
  induction depth generalizing around n with
  | zero => exact .pure trivial
  | succ depth ih =>
    rw [assemble]
    dsimp only
    split
    · exact .pure trivial
    · refine .bind (p := AllKeyed) (fun known hknown => ⟨hknown, hknown⟩) fun known hknown => ?_
      split
      · next v hv => exact .pure (hknown n v hv)
      · split
        · next v own hv => exact .pure (happart.atoms n v own hv)
        · next items _ =>
          refine .bind (.mapM fun item _ => ih _ item) fun parts hparts => ?_
          exact .keep (wellKeyed_tie (wellKeyed_list hparts.2))
        · next entries hentries =>
          refine .bind (.mapM fun e _ => ih _ e.2) fun parts hparts => ?_
          refine .keep (wellKeyed_tie (wellKeyed_map ?_ (happart.keys n entries hentries) ?_))
          · exact Nat.le_of_eq (by rw [List.length_map, List.length_map, hparts.1])
          · intro v hv
            obtain ⟨l, hl, rfl⟩ := List.mem_map.mp hv
            exact hparts.2 l hl
        · exact .pure trivial
        · refine .bind (.mapM (q := fun l => l.value.WellKeyed) fun e _ => ?_)
            fun parts hparts => ?_
          · refine .bind (ih _ _) fun first hfirst => .bind (ih _ _) fun second hsecond => .pure ?_
            exact wellKeyed_tie ⟨hfirst, hsecond⟩
          · exact .keep (wellKeyed_tie (wellKeyed_list hparts.2))
        · exact .pure trivial

end Enclosure.Yaml.Assembly

namespace Enclosure.Yaml

/-- The keys of the mappings in a sorted workshop are apart. -/
theorem Workshop.Sorted.apart {w : Workshop} (h : w.Sorted) : Assembly.Apart w.objects := by
  have hobject {n : Nat} {o : Object} (hn : w.objects[n]? = some (some o)) :
      w.object? n = some o := by
    rw [object?, hn]
    rfl
  constructor
  · intro n entries hn
    have hkeys := h.maps n entries (hobject hn)
    rw [List.pairwise_map]
    refine hkeys.apart.imp_of_mem ?_
    intro e f he hf hapart s hes hfs
    have hatom {d : Nat × Nat} (hd : d ∈ entries)
        (hds : (Assembly.atomValue w.objects d.1).identity = .str s) :
        ∃ own, w.object? d.1 = some (.atom (.str s) own) := by
      obtain ⟨v, own, hv⟩ := hkeys.known d hd
      have hget : w.objects[d.1]? = some (some (.atom v own)) := Option.join_eq_some_iff.mp hv
      rw [Assembly.atomValue, hget, Value.identity_eq_str_iff] at hds
      rw [← hds]
      exact ⟨own, hv⟩
    obtain ⟨own, hown⟩ := hatom he hes
    obtain ⟨own', hown'⟩ := hatom hf hfs
    exact hapart s own own' hown hown'
  · intro n v own hn
    exact (h.atoms n v own (hobject hn)).keyed

/-- The value of a graph is well keyed. -/
theorem wellKeyed_of_value {frames : Nat} {g : Graph} {root : Nat} {v : Value}
    (h : g.value frames root = .ok v) : v.WellKeyed := by
  unfold Graph.value at h
  obtain ⟨objects, hobjects, h⟩ := bind_eq_ok_iff.mp h
  unfold Graph.objects at hobjects
  obtain ⟨reached, hreached, hobjects⟩ := bind_eq_ok_iff.mp hobjects
  obtain ⟨w, hw, hobjects⟩ := bind_eq_ok_iff.mp hobjects
  cases hobjects
  cases h
  have hstart := (Workshop.sorted_start frames g).reach hreached
  have hsorted := hstart.sorted.completeFrom hw
  refine (Assembly.yields_assemble hsorted.apart _ _ _ _ ?_).1
  intro n v hv
  rw [Array.getElem?_replicate] at hv
  split at hv <;> cases hv

/-- In the value of a document every key occurs once. -/
theorem wellKeyed_of_ofBytes {frames : Nat} {bytes : List UInt8} {v : Value}
    (h : ofBytes frames bytes = .ok v) : v.WellKeyed := by
  obtain ⟨found, -, h⟩ := bind_eq_ok_iff.mp h
  cases found with
  | none =>
    cases h
    trivial
  | some found => exact wellKeyed_of_value h

end Enclosure.Yaml
