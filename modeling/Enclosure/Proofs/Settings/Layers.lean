import Enclosure.Proofs.Value.WellKeyed
import Enclosure.Settings.Load

/-!
# Settings in layers

A setting lies in a group, and a group lies in the entries of a source. In merged entries a setting
has the value of the override, if the override gives one, and otherwise that of the base. Only
mappings are an exception: a mapping over a mapping becomes one that was merged of both.
-/

set_option autoImplicit false

namespace Enclosure

namespace Value

/-- A value stands for a given one when it is that one, or when both are mappings. -/
def StandsFor (shown given : Value) : Prop :=
  shown = given ∨ shown.IsMapping ∧ given.IsMapping

/-- A value stands for itself. -/
theorem StandsFor.refl (v : Value) : v.StandsFor v :=
  .inl rfl

/-- What stands for a value stands for what that stands for. -/
theorem StandsFor.trans {u v w : Value} (huv : u.StandsFor v) (hvw : v.StandsFor w) :
    u.StandsFor w := by
  rcases huv with rfl | ⟨hu, hv⟩
  · exact hvw
  · rcases hvw with rfl | ⟨-, hw⟩
    · exact .inr ⟨hu, hv⟩
    · exact .inr ⟨hu, hw⟩

/-- What is put over another value stands for itself. -/
theorem standsFor_of_overrideWith? {merge? : Entries → Entries → Option Entries}
    {old : Option Value} {new w : Value} (h : overrideWith? merge? old new = some w) :
    w.StandsFor new := by
  rcases overrideWith?_cases h with ⟨rfl, -⟩ | ⟨b, base, upper, merged, -, -, hnew, -, rfl⟩
  · exact .refl w
  · exact .inr ⟨isMapping_map merged, upper, hnew⟩

/-- What a source gives for a setting, if anything, and what is shown for it. -/
def StandsFor? : Option Value → Option Value → Prop
  | some shown, some given => shown.StandsFor given
  | none, none => True
  | _, _ => False

/-- A value that may be there stands for itself. -/
theorem StandsFor?.refl : ∀ v : Option Value, StandsFor? v v
  | some v => StandsFor.refl v
  | none => trivial

/-- Standing for a value is transitive where either may not be there. -/
theorem StandsFor?.trans : ∀ {u v w : Option Value}, StandsFor? u v → StandsFor? v w →
    StandsFor? u w
  | some _, some _, some _, huv, hvw => StandsFor.trans huv hvw
  | none, none, none, _, _ => trivial

/-- Of two pairs, the first values that are there stand for each other if each pair does. -/
theorem StandsFor?.or : ∀ {u v u' v' : Option Value}, StandsFor? u v → StandsFor? u' v' →
    StandsFor? (u.or u') (v.or v')
  | some _, some _, _, _, h, _ => h
  | none, none, _, _, _, h => h

end Value

namespace Entries

variable {es base upper : Entries} {group key : String} {v : Value}

/-- The members of a group of settings; a group that is absent or no mapping has none. -/
def members (es : Entries) (group : String) : Entries :=
  match (es.field? group).map Value.opened with
  | some (.map ms) => ms
  | _ => []

/-- What entries give for a setting of a group. -/
def setting? (es : Entries) (group key : String) : Option Value :=
  (es.members group).field? key

/-- Whether a group is a mapping if it is present. -/
def MapsGroup (es : Entries) (group : String) : Prop :=
  ∀ v ∈ es.field? group, v.IsMapping

instance (es : Entries) (group : String) : Decidable (es.MapsGroup group) :=
  inferInstanceAs (Decidable (∀ v ∈ es.field? group, v.IsMapping))

/-- A group that is absent has no members. -/
theorem members_of_absent (h : es.field? group = none) : es.members group = [] := by
  unfold members
  rw [h]
  rfl

/-- A group that is a mapping has its entries for members. -/
theorem members_of_field? {ms : Entries} (h : es.field? group = some v)
    (hv : v.opened = .map ms) : es.members group = ms := by
  unfold members
  rw [h, Option.map_some, hv]

/-- A setting has a value exactly when its group is a mapping that has it. -/
theorem setting?_eq_some_iff :
    es.setting? group key = some v ↔
      ∃ w ms, es.field? group = some w ∧ w.opened = .map ms ∧ field? ms key = some v := by
  unfold setting? members
  constructor
  · intro h
    split at h
    · next ms heq =>
      obtain ⟨w, hw, hms⟩ := Option.map_eq_some_iff.mp heq
      exact ⟨w, ms, hw, hms, h⟩
    · rw [field?_nil] at h
      cases h
  · rintro ⟨w, ms, hw, hms, hv⟩
    rw [hw, Option.map_some, hms]
    exact hv

/-- The members of a group in a well-keyed mapping are well keyed. -/
theorem wellKeyed_members (hes : (Value.map es).WellKeyed) (group : String) :
    (Value.map (es.members group)).WellKeyed := by
  unfold members
  split
  · next ms heq =>
    obtain ⟨v, hv, hms⟩ := Option.map_eq_some_iff.mp heq
    rw [← hms]
    exact (hes.of_field? hv).opened
  · exact Value.wellKeyed_map_nil

/-- Entries as a source gives them: their keys occur once, and a group is a mapping. -/
structure IsLayer (es : Entries) (group : String) : Prop where
  keyed : (Value.map es).WellKeyed
  maps : es.MapsGroup group

section Merged

variable {levels : Nat} {merged : Entries}

/-- Merged layers are one again. -/
theorem IsLayer.merge? (hbase : base.IsLayer group) (hupper : upper.IsLayer group)
    (h : Entries.merge? levels base upper = some merged) : merged.IsLayer group := by
  refine ⟨Value.WellKeyed.merge? hbase.keyed hupper.keyed h, ?_⟩
  obtain ⟨below, rfl⟩ := exists_levels_of_merge? h
  have honce := (Value.wellKeyed_map_iff.mp hupper.keyed).1.hasOnce group
  intro v hv
  cases hw : upper.field? group with
  | none => exact hbase.maps v ((get?_merge?_of_none honce h hw).symm.trans hv)
  | some w =>
    obtain ⟨x, hx, hget⟩ := get?_merge?_of_some honce h hw
    obtain rfl : x = v := Option.some.inj (hget.symm.trans hv)
    rcases Value.standsFor_of_overrideWith? hx with rfl | ⟨hmap, -⟩
    · exact hupper.maps x hw
    · exact hmap

/-- Merged mappings give for a key what the override gives, and else what the base gives. -/
theorem standsFor_field? (hupper : upper.KeysOnce)
    (h : Entries.merge? levels base upper = some merged) (key : String) :
    Value.StandsFor? (merged.field? key) ((upper.field? key).or (base.field? key)) := by
  obtain ⟨below, rfl⟩ := exists_levels_of_merge? h
  have honce := hupper.hasOnce key
  cases hv : upper.field? key with
  | none =>
    have hsame : merged.field? key = base.field? key := get?_merge?_of_none honce h hv
    rw [hsame, Option.none_or]
    exact .refl _
  | some given =>
    obtain ⟨x, hx, hget⟩ := get?_merge?_of_some honce h hv
    have hfield : merged.field? key = some x := hget
    rw [hfield, Option.some_or]
    exact Value.standsFor_of_overrideWith? hx

/-- Merged entries give for a setting what the override gives, and else what the base gives. -/
theorem IsLayer.standsFor_setting? (hbase : base.IsLayer group) (hupper : upper.IsLayer group)
    (h : Entries.merge? levels base upper = some merged) (key : String) :
    Value.StandsFor? (merged.setting? group key)
      ((upper.setting? group key).or (base.setting? group key)) := by
  obtain ⟨below, rfl⟩ := exists_levels_of_merge? h
  have honce := (Value.wellKeyed_map_iff.mp hupper.keyed).1.hasOnce group
  have hmembers := (Value.wellKeyed_map_iff.mp (wellKeyed_members hupper.keyed group)).1
  unfold setting?
  cases hw : upper.field? group with
  | none =>
    -- The group of the base stays as it is.
    have hsame : merged.members group = base.members group := by
      unfold members
      rw [field?, get?_merge?_of_none honce h hw, field?]
    rw [hsame, members_of_absent hw, field?_nil, Option.none_or]
    exact .refl _
  | some w =>
    obtain ⟨x, hx, hfield⟩ := get?_merge?_of_some honce h hw
    obtain ⟨ms, hms⟩ := hupper.maps w hw
    rw [members_of_field? hw hms] at hmembers ⊢
    rcases Value.overrideWith?_cases hx with
      ⟨rfl, hmap | hold⟩ | ⟨b, bs, us, inner, hb, hbs, hus, hinner, rfl⟩
    · exact absurd ⟨ms, hms⟩ hmap
    · -- The group of the override is the only one.
      have hnone : base.field? group = none := by
        cases hb : base.field? group with
        | none => rfl
        | some b => exact absurd (hbase.maps b hb) (hold b hb)
      rw [members_of_field? hfield hms, members_of_absent hnone, field?_nil, Option.or_none]
      exact .refl _
    · obtain rfl : us = ms := Value.map.inj (hus.symm.trans hms)
      rw [members_of_field? hfield rfl, members_of_field? hb hbs]
      exact standsFor_field? hmembers hinner key

end Merged

end Entries

end Enclosure
