import Enclosure.Json.Reader
import Enclosure.Proofs.Value.WellKeyed

/-!
# Keys of JSON objects

A key that comes twice in a JSON object gives its value anew, so every key occurs once in what is
read.
-/

set_option autoImplicit false

namespace Enclosure.Json

/-- A number holds no keys. -/
theorem wellKeyed_number? {negative : Bool} {cs rest : List Char} {v : Value}
    (h : number? negative cs = some (v, rest)) : v.WellKeyed := by
  unfold number? at h
  grind [Value.WellKeyed]

/-- What is well formed was found. -/
theorem wellFormed_eq_ok_iff {α : Type} {found : Option α} {a : α} :
    wellFormed found = .ok a ↔ found = some a := by
  cases found <;> simp [wellFormed]

/-- Whether reading with some fuel only gives values in which keys occur once. -/
structure GivesWellKeyed (fuel : Nat) : Prop where
  value : ∀ {levels : Nat} {cs rest : List Char} {v : Value},
    value fuel levels cs = .ok (v, rest) → v.WellKeyed
  items : ∀ {levels : Nat} {seen : List Value} {cs rest : List Char} {v : Value},
    (∀ w ∈ seen, w.WellKeyed) → items fuel levels seen cs = .ok (v, rest) → v.WellKeyed
  entries : ∀ {levels : Nat} {seen : Entries} {cs rest : List Char} {v : Value},
    (Value.map seen).WellKeyed → entries fuel levels seen cs = .ok (v, rest) → v.WellKeyed

section Step

variable {fuel levels : Nat} {cs rest : List Char} {v : Value}

/-- Reading a value with one more unit of fuel gives keys that occur once. -/
theorem GivesWellKeyed.value_succ (ih : GivesWellKeyed fuel)
    (h : Json.value (fuel + 1) levels cs = .ok (v, rest)) : v.WellKeyed := by
  unfold Json.value at h
  split at h
  · obtain ⟨⟨s, after⟩, -, heq⟩ := Option.map_eq_some_iff.mp (wellFormed_eq_ok_iff.mp h)
    cases heq
    trivial
  · cases h
  · split at h
    · cases h
      trivial
    · exact ih.items (by simp) h
  · cases h
  · split at h
    · cases h
      exact Value.wellKeyed_map_nil
    · exact ih.entries Value.wellKeyed_map_nil h
  · split at h
    · cases h
      trivial
    · exact wellKeyed_number? (wellFormed_eq_ok_iff.mp h)
  · split at h
    · cases h
      trivial
    · cases h
      trivial
    · cases h
      trivial
    · split at h
      · cases h
        trivial
      · cases h
        trivial
      · exact wellKeyed_number? (wellFormed_eq_ok_iff.mp h)

/-- Reading the items of a list with one more unit of fuel gives keys that occur once. -/
theorem GivesWellKeyed.items_succ (ih : GivesWellKeyed fuel) {seen : List Value}
    (hseen : ∀ w ∈ seen, w.WellKeyed) (h : Json.items (fuel + 1) levels seen cs = .ok (v, rest)) :
    v.WellKeyed := by
  rw [Json.items] at h
  obtain ⟨⟨w, more⟩, hw, h⟩ := bind_eq_ok_iff.mp h
  have hall : ∀ u ∈ w :: seen, u.WellKeyed := List.forall_mem_cons.mpr ⟨ih.value hw, hseen⟩
  dsimp only at h
  split at h
  · exact ih.items hall h
  · cases h
    rw [Value.WellKeyed, Value.allWellKeyed_iff]
    intro u hu
    exact hall u (List.mem_reverse.mp hu)
  · cases h

/-- Reading the entries of an object with one more unit of fuel gives keys that occur once. -/
theorem GivesWellKeyed.entries_succ (ih : GivesWellKeyed fuel) {seen : Entries}
    (hseen : (Value.map seen).WellKeyed)
    (h : Json.entries (fuel + 1) levels seen cs = .ok (v, rest)) : v.WellKeyed := by
  rw [Json.entries] at h
  split at h
  · obtain ⟨⟨key, afterKey⟩, -, h⟩ := bind_eq_ok_iff.mp h
    dsimp only at h
    split at h
    · obtain ⟨⟨w, more⟩, hw, h⟩ := bind_eq_ok_iff.mp h
      have hentries : (Value.map (Entries.insert (.str key) w seen)).WellKeyed :=
        hseen.alter fun _ _ => ih.value hw
      dsimp only at h
      split at h
      · exact ih.entries hentries h
      · cases h
        exact hentries
      · cases h
    · cases h
  · cases h

end Step

/-- Reading with any fuel gives values in which keys occur once. -/
theorem givesWellKeyed (fuel : Nat) : GivesWellKeyed fuel := by
  induction fuel with
  | zero =>
    constructor
    · intro levels cs rest v h
      cases h
    · intro levels seen cs rest v _ h
      cases h
    · intro levels seen cs rest v _ h
      cases h
  | succ fuel ih => exact ⟨ih.value_succ, ih.items_succ, ih.entries_succ⟩

/-- In what is read as JSON every key occurs once. -/
theorem wellKeyed_of_read {levels : Nat} {text : String} {v : Value}
    (h : read levels text = .ok v) : v.WellKeyed := by
  unfold read at h
  obtain ⟨⟨w, rest⟩, hw, h⟩ := bind_eq_ok_iff.mp h
  dsimp only at h
  split at h
  · cases h
    exact (givesWellKeyed _).value hw
  · cases h

end Enclosure.Json
