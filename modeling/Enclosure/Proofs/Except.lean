/-!
# Steps that may fail

When steps that may fail succeed one after the other, and what they keep.
-/

set_option autoImplicit false

namespace Enclosure

/-- Two steps in a row succeed exactly when the first does and the second does with its result. -/
theorem bind_eq_ok_iff {ε α β : Type} {first : Except ε α} {next : α → Except ε β} {b : β} :
    first >>= next = .ok b ↔ ∃ a, first = .ok a ∧ next a = .ok b := by
  cases first with
  | error e =>
    constructor
    · intro h
      cases h
    · rintro ⟨a, h, -⟩
      cases h
  | ok a =>
    constructor
    · intro h
      exact ⟨a, rfl, h⟩
    · rintro ⟨a', h, hnext⟩
      cases h
      exact hnext

/-- Two steps in a row fail exactly when the first does or the second does with its result. -/
theorem bind_eq_error_iff {ε α β : Type} {first : Except ε α} {next : α → Except ε β} {e : ε} :
    first >>= next = .error e ↔ first = .error e ∨ ∃ a, first = .ok a ∧ next a = .error e := by
  cases first with
  | error e' =>
    constructor
    · intro h
      cases h
      exact .inl rfl
    · rintro (h | ⟨a, h, -⟩)
      · cases h
        rfl
      · cases h
  | ok a =>
    constructor
    · intro h
      exact .inr ⟨a, rfl, h⟩
    · rintro (h | ⟨a', h, hnext⟩)
      · cases h
      · cases h
        exact hnext

/-- A step whose errors are renamed fails exactly as it fails under the old names. -/
theorem mapError_eq_error_iff {ε δ α : Type} {f : ε → δ} {r : Except ε α} {d : δ} :
    r.mapError f = .error d ↔ ∃ e, r = .error e ∧ f e = d := by
  cases r with
  | error e =>
    constructor
    · intro h
      exact ⟨e, rfl, Except.error.inj h⟩
    · rintro ⟨e', h, hd⟩
      cases h
      exact congrArg Except.error hd
  | ok a =>
    constructor
    · intro h
      cases h
    · rintro ⟨e, h, -⟩
      cases h

/-- A step whose errors are renamed succeeds as it did before. -/
theorem mapError_eq_ok_iff {ε δ α : Type} {f : ε → δ} {r : Except ε α} {a : α} :
    r.mapError f = .ok a ↔ r = .ok a := by
  cases r with
  | error e =>
    constructor
    · intro h
      cases h
    · intro h
      cases h
  | ok a' =>
    constructor
    · intro h
      exact congrArg Except.ok (Except.ok.inj h)
    · intro h
      exact congrArg Except.ok (Except.ok.inj h)

/-- A step whose result is changed succeeds exactly when the step does, with the changed result. -/
theorem map_eq_ok_iff {ε α β : Type} {f : α → β} {r : Except ε α} {b : β} :
    r.map f = .ok b ↔ ∃ a, r = .ok a ∧ f a = b := by
  cases r <;> simp [Except.map]

/-- What every step for an item of a list keeps is kept by all of them. -/
theorem foldlM_keeps {ε α β : Type} {step : β → α → Except ε β} {p : β → Prop} {items : List α}
    (hstep : ∀ a ∈ items, ∀ b b', p b → step b a = .ok b' → p b') {b b' : β}
    (hb : p b) (h : items.foldlM step b = .ok b') : p b' := by
  induction items generalizing b with
  | nil =>
    cases h
    exact hb
  | cons a rest ih =>
    rw [List.forall_mem_cons] at hstep
    rw [List.foldlM_cons] at h
    obtain ⟨next, hnext, hrest⟩ := bind_eq_ok_iff.mp h
    exact ih hstep.2 (hstep.1 b next hb hnext) hrest

/-- What every step for an item of a list keeps is kept by all of them, also where a step may have
no result. -/
theorem foldlM_some_keeps {α β : Type} {step : β → α → Option β} {p : β → Prop} {items : List α}
    (hstep : ∀ a ∈ items, ∀ b b', p b → step b a = some b' → p b') {b b' : β}
    (hb : p b) (h : items.foldlM step b = some b') : p b' := by
  induction items generalizing b with
  | nil =>
    cases h
    exact hb
  | cons a rest ih =>
    rw [List.forall_mem_cons] at hstep
    rw [List.foldlM_cons] at h
    obtain ⟨next, hnext, hrest⟩ := Option.bind_eq_some_iff.mp h
    exact ih hstep.2 (hstep.1 b next hb hnext) hrest

end Enclosure
