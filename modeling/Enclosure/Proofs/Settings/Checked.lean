import Enclosure.Settings.Check

/-!
# How checks come out

When a combined check accepts and when it is broken off, in terms of its parts. A check of one value
that is not broken off either accepts it or reports one issue with that very value.
-/

set_option autoImplicit false

namespace Enclosure

namespace Checked

variable {α β : Type} {c : Checked α} {f : α → β} {b : β} {step : SettingStep}

instance (c : Checked α) : Decidable (∃ a, c = .accepted a) :=
  match c with
  | .accepted a => isTrue ⟨a, rfl⟩
  | .rejected _ _ => isFalse fun ⟨_, h⟩ => by cases h
  | .homeless => isFalse fun ⟨_, h⟩ => by cases h

/-- A check whose result is changed accepts exactly when the check does. -/
theorem map_eq_accepted_iff : c.map f = .accepted b ↔ ∃ a, c = .accepted a ∧ f a = b := by
  cases c <;> simp [map]

/-- A check whose result is changed is broken off exactly when the check is. -/
theorem map_eq_homeless_iff : c.map f = .homeless ↔ c = .homeless := by
  cases c <;> simp [map]

/-- Two checks in a row accept exactly when the first does and the second does with its result. -/
theorem andThen_eq_accepted_iff {g : α → Checked β} :
    c.andThen g = .accepted b ↔ ∃ a, c = .accepted a ∧ g a = .accepted b := by
  cases c <;> simp [andThen]

/-- Two checks in a row are broken off exactly when the first is, or the second is with its result.
-/
theorem andThen_eq_homeless_iff {g : α → Checked β} :
    c.andThen g = .homeless ↔ c = .homeless ∨ ∃ a, c = .accepted a ∧ g a = .homeless := by
  cases c <;> simp [andThen]

/-- Two checks side by side accept exactly when both do. -/
theorem both_eq_accepted_iff {d : Checked (α → β)} :
    d.both c = .accepted b ↔ ∃ g a, d = .accepted g ∧ c = .accepted a ∧ g a = b := by
  cases d <;> cases c <;> simp [both]

/-- Two checks side by side are broken off exactly when one of them is. -/
theorem both_eq_homeless_iff {d : Checked (α → β)} :
    d.both c = .homeless ↔ d = .homeless ∨ c = .homeless := by
  cases d <;> cases c <;> simp [both]

/-- A check at a place accepts exactly when the check does. -/
theorem under_eq_accepted_iff {a : α} : c.under step = .accepted a ↔ c = .accepted a := by
  cases c <;> simp [under]

/-- A check at a place is broken off exactly when the check is. -/
theorem under_eq_homeless_iff : c.under step = .homeless ↔ c = .homeless := by
  cases c <;> simp [under]

/-- A check that comes down to its issues is not broken off. -/
theorem ofIssues_ne_homeless (a : α) (issues : List Issue) : ofIssues a issues ≠ .homeless := by
  cases issues <;> simp [ofIssues]

end Checked

namespace Check

variable {α : Type} {c : Coercion} {entries : Entries} {name : String} {default a : α}
  {check : Value → Checked α} {v : Value}

/-- A value is a group of settings exactly when it opens to a mapping. -/
theorem group_eq_accepted_iff : group name v = .accepted entries ↔ v.opened = .map entries := by
  unfold group
  split <;> simp_all [Checked.issue]

/-- Checking that a value is a group is never broken off. -/
theorem group_ne_homeless : group name v ≠ .homeless := by
  unfold group
  split <;> simp [Checked.issue]

/-- A member is checked at its place, or its default is taken. -/
theorem member_eq (entries : Entries) (name : String) (default : α) (check : Value → Checked α) :
    member entries name default check =
      match entries.field? name with
      | some v => (check v).under (.member name)
      | none => .accepted default := rfl

/-- A member that is there is checked at its place. -/
theorem member_of_field? (h : entries.field? name = some v) :
    member entries name default check = (check v).under (.member name) := by
  rw [member_eq, h]

/-- A member that is absent has its default. -/
theorem member_of_absent (h : entries.field? name = none) :
    member entries name default check = .accepted default := by
  rw [member_eq, h]

/-- A member is accepted when it is absent and has its default, or when it is there and its check
accepts it. -/
theorem member_eq_accepted_iff :
    member entries name default check = .accepted a ↔
      (entries.field? name = none ∧ default = a) ∨
        ∃ v, entries.field? name = some v ∧ check v = .accepted a := by
  rw [member_eq]
  cases h : entries.field? name with
  | none => simp
  | some v => simp [Checked.under_eq_accepted_iff]

/-- Checking a member is broken off exactly when it is there and its check is. -/
theorem member_eq_homeless_iff :
    member entries name default check = .homeless ↔
      ∃ v, entries.field? name = some v ∧ check v = .homeless := by
  rw [member_eq]
  cases h : entries.field? name with
  | none => simp
  | some v => simp [Checked.under_eq_homeless_iff]

/-- Checking values in turn is broken off exactly when the check of one of them is. -/
theorem inTurn_eq_homeless_iff {vs : List Value} {k : Nat} :
    inTurn check k vs = .homeless ↔ ∃ v ∈ vs, check v = .homeless := by
  induction vs generalizing k with
  | nil => simp [inTurn]
  | cons v rest ih =>
    rw [inTurn, Checked.both_eq_homeless_iff, Checked.map_eq_homeless_iff,
      Checked.under_eq_homeless_iff, ih]
    simp

/-- What is accepted in turn is accepted for one of the values. -/
theorem exists_of_mem_inTurn {vs : List Value} {k : Nat} {as : List α}
    (h : inTurn check k vs = .accepted as) (ha : a ∈ as) : ∃ v ∈ vs, check v = .accepted a := by
  induction vs generalizing k as with
  | nil =>
    rw [inTurn, Checked.accepted.injEq] at h
    rw [← h] at ha
    cases ha
  | cons v rest ih =>
    rw [inTurn, Checked.both_eq_accepted_iff] at h
    obtain ⟨cons, others, hcons, hothers, rfl⟩ := h
    obtain ⟨first, hfirst, rfl⟩ := Checked.map_eq_accepted_iff.mp hcons
    rw [Checked.under_eq_accepted_iff] at hfirst
    rcases List.mem_cons.mp ha with rfl | ha
    · exact ⟨v, List.mem_cons_self, hfirst⟩
    · obtain ⟨w, hw, hcheck⟩ := ih hothers ha
      exact ⟨w, List.mem_cons_of_mem _ hw, hcheck⟩

/-- Values that are each accepted as what they were made of are so in turn. -/
theorem inTurn_map_of_forall {as : List α} {toValue : α → Value} (k : Nat)
    (h : ∀ a ∈ as, check (toValue a) = .accepted a) :
    inTurn check k (as.map toValue) = .accepted as := by
  induction as generalizing k with
  | nil => rfl
  | cons a rest ih =>
    rw [List.forall_mem_cons] at h
    rw [List.map_cons, inTurn, ih _ h.2, h.1]
    rfl

/-- What was found is accepted exactly when something was. -/
theorem ofFound_eq_accepted_iff {found : Except IssueKind α} :
    ofFound found v = .accepted a ↔ found = .ok a := by
  cases found <;> simp [ofFound, Checked.issue]

/-- Accepting what was found is never broken off. -/
theorem ofFound_ne_homeless {found : Except IssueKind α} : ofFound found v ≠ .homeless := by
  cases found <;> simp [ofFound, Checked.issue]

/-- Checking a list is broken off exactly when the check of one of its items is. -/
theorem listOf_eq_homeless_iff :
    listOf c check v = .homeless ↔ ∃ vs, c.items v = .ok vs ∧ ∃ w ∈ vs, check w = .homeless := by
  unfold listOf
  simp only [Checked.andThen_eq_homeless_iff, ofFound_ne_homeless, false_or,
    ofFound_eq_accepted_iff, inTurn_eq_homeless_iff]

/-- What is accepted in a list is accepted for one of its items. -/
theorem exists_of_mem_listOf {as : List α} (h : listOf c check v = .accepted as) (ha : a ∈ as) :
    ∃ w, check w = .accepted a := by
  obtain ⟨vs, -, hvs⟩ := Checked.andThen_eq_accepted_iff.mp h
  obtain ⟨w, -, hw⟩ := exists_of_mem_inTurn hvs ha
  exact ⟨w, hw⟩

end Check

/-! ### Groups of settings -/

section Groups

open Checked

variable {c : Coercion} {homes : Homes} {v : Value}

/-- An output of the log is accepted exactly when it is a group and each member is accepted. -/
theorem LogOutput.check_eq_accepted_iff {o : LogOutput} :
    LogOutput.check c homes v = .accepted o ↔
      ∃ entries, v.opened = .map entries ∧
        Check.member entries "format" LogOutput.default.format Check.format =
          .accepted o.format ∧
        Check.member entries "destination" LogOutput.default.destination
          (Check.destination c homes) = .accepted o.destination ∧
        Check.member entries "level" LogOutput.default.severity Check.severity? =
          .accepted o.severity := by
  unfold LogOutput.check
  simp only [andThen_eq_accepted_iff, both_eq_accepted_iff, map_eq_accepted_iff,
    Check.group_eq_accepted_iff]
  constructor
  · rintro ⟨entries, hgroup, _, level, ⟨_, target, ⟨form, hform, rfl⟩, htarget, rfl⟩, hlevel, rfl⟩
    exact ⟨entries, hgroup, hform, htarget, hlevel⟩
  · rintro ⟨entries, hgroup, hform, htarget, hlevel⟩
    exact ⟨entries, hgroup, _, _, ⟨_, _, ⟨_, hform, rfl⟩, htarget, rfl⟩, hlevel, rfl⟩

/-- The settings of the log are accepted exactly when they are a group and each member is accepted.
-/
theorem LoggingSettings.check_eq_accepted_iff {s : LoggingSettings} :
    LoggingSettings.check c homes v = .accepted s ↔
      ∃ entries, v.opened = .map entries ∧
        Check.member entries "level" LoggingSettings.default.severity Check.severity =
          .accepted s.severity ∧
        Check.member entries "outputs" LoggingSettings.default.outputs
          (Check.listOf c (LogOutput.check c homes)) = .accepted s.outputs := by
  unfold LoggingSettings.check
  simp only [andThen_eq_accepted_iff, both_eq_accepted_iff, map_eq_accepted_iff,
    Check.group_eq_accepted_iff]
  constructor
  · rintro ⟨entries, hgroup, _, outputs, ⟨level, hlevel, rfl⟩, houtputs, rfl⟩
    exact ⟨entries, hgroup, hlevel, houtputs⟩
  · rintro ⟨entries, hgroup, hlevel, houtputs⟩
    exact ⟨entries, hgroup, _, _, ⟨_, hlevel, rfl⟩, houtputs, rfl⟩

/-- The settings of resolving cursors are accepted exactly when they are a group and each member is
accepted. -/
theorem ResolverSettings.check_eq_accepted_iff {s : ResolverSettings} :
    ResolverSettings.check c v = .accepted s ↔
      ∃ entries, v.opened = .map entries ∧
        Check.member entries "language" ResolverSettings.default.language
          (Check.language c) =
          .accepted s.language ∧
        Check.member entries "note_separator" ResolverSettings.default.noteSeparator
          (Check.text c) =
          .accepted s.noteSeparator ∧
        Check.member entries "accept_partial_trees" ResolverSettings.default.acceptPartialTrees
          (Check.truth c) = .accepted s.acceptPartialTrees ∧
        Check.member entries "max_file_size_kb" ResolverSettings.default.maxFileSizeKb
          (Check.positive c) = .accepted s.maxFileSizeKb := by
  unfold ResolverSettings.check
  simp only [andThen_eq_accepted_iff, both_eq_accepted_iff, map_eq_accepted_iff,
    Check.group_eq_accepted_iff]
  constructor
  · rintro ⟨entries, hgroup, _, limit, ⟨_, partialTrees, ⟨_, separator, ⟨word, hword, rfl⟩,
      hseparator, rfl⟩, hpartialTrees, rfl⟩, hlimit, rfl⟩
    exact ⟨entries, hgroup, hword, hseparator, hpartialTrees, hlimit⟩
  · rintro ⟨entries, hgroup, hword, hseparator, hpartialTrees, hlimit⟩
    exact ⟨entries, hgroup, _, _, ⟨_, _, ⟨_, _, ⟨_, hword, rfl⟩, hseparator, rfl⟩, hpartialTrees,
      rfl⟩, hlimit, rfl⟩

/-- All settings are accepted exactly when they are a group and each of its groups is accepted. -/
theorem Settings.check_eq_accepted_iff {s : Settings} :
    Settings.check c homes v = .accepted s ↔
      ∃ entries, v.opened = .map entries ∧
        Check.member entries "logging" Settings.default.logging (LoggingSettings.check c homes) =
          .accepted s.logging ∧
        Check.member entries "resolver" Settings.default.resolver
          (ResolverSettings.check c) =
          .accepted s.resolver := by
  unfold Settings.check
  simp only [andThen_eq_accepted_iff, both_eq_accepted_iff, map_eq_accepted_iff,
    Check.group_eq_accepted_iff]
  constructor
  · rintro ⟨entries, hgroup, _, resolver, ⟨logging, hlogging, rfl⟩, hresolver, rfl⟩
    exact ⟨entries, hgroup, hlogging, hresolver⟩
  · rintro ⟨entries, hgroup, hlogging, hresolver⟩
    exact ⟨entries, hgroup, _, _, ⟨_, hlogging, rfl⟩, hresolver, rfl⟩

end Groups

end Enclosure
