import Enclosure.Proofs.Settings.Checked
import Enclosure.Proofs.Settings.Layers

/-!
# Settings with one value

Five settings hold a single value each: a word, a text, a truth value or a number. What is common to
them is stated once here: where each lies, what it accepts, and that checking all settings comes out
as the checks of these five and of the outputs of the log do.
-/

set_option autoImplicit false

namespace Enclosure

/-- A setting that holds one value. -/
inductive ScalarSetting
  | severity
  | language
  | noteSeparator
  | acceptPartialTrees
  | maxFileSizeKb
deriving DecidableEq

namespace ScalarSetting

/-- All settings that hold one value. -/
def all : List ScalarSetting :=
  [.severity, .language, .noteSeparator, .acceptPartialTrees, .maxFileSizeKb]

/-- Every setting is one of all. -/
theorem mem_all (t : ScalarSetting) : t ∈ all := by
  cases t <;> decide

/-- The group that a setting is in. -/
def group : ScalarSetting → String
  | .severity => "logging"
  | _ => "resolver"

/-- The name of a setting in its group. -/
def key : ScalarSetting → String
  | .severity => "level"
  | .language => "language"
  | .noteSeparator => "note_separator"
  | .acceptPartialTrees => "accept_partial_trees"
  | .maxFileSizeKb => "max_file_size_kb"

/-- The full name of a setting. -/
def place (t : ScalarSetting) : String :=
  t.group ++ "." ++ t.key

/-- What a setting holds. -/
def Content : ScalarSetting → Type
  | .severity => Severity
  | .language => String
  | .noteSeparator => String
  | .acceptPartialTrees => Bool
  | .maxFileSizeKb => Positive

/-- What a setting makes of a value. -/
def check (c : Coercion) : (t : ScalarSetting) → Value → Checked t.Content
  | .severity => Check.severity
  | .language => Check.language c
  | .noteSeparator => Check.text c
  | .acceptPartialTrees => Check.truth c
  | .maxFileSizeKb => Check.positive c

/-- What a setting holds unless something else is set. -/
def default : (t : ScalarSetting) → t.Content
  | .severity => LoggingSettings.default.severity
  | .language => ResolverSettings.default.language
  | .noteSeparator => ResolverSettings.default.noteSeparator
  | .acceptPartialTrees => ResolverSettings.default.acceptPartialTrees
  | .maxFileSizeKb => ResolverSettings.default.maxFileSizeKb

/-- What a setting holds among all settings. -/
def read : (t : ScalarSetting) → Settings → t.Content
  | .severity, s => s.logging.severity
  | .language, s => s.resolver.language
  | .noteSeparator, s => s.resolver.noteSeparator
  | .acceptPartialTrees, s => s.resolver.acceptPartialTrees
  | .maxFileSizeKb, s => s.resolver.maxFileSizeKb

/-- Every setting belongs to a group of settings. -/
theorem group_mem (t : ScalarSetting) : t.group ∈ Settings.groupNames := by
  cases t <;> decide

end ScalarSetting

/-! ### Single checks -/

/-- Whether a check accepts a value or reports one issue with it. -/
def Checked.Decides {α : Type} (c : Checked α) (v : Value) : Prop :=
  (∃ a, c = .accepted a) ∨ ∃ kind, c = .issue kind v

/-- A check that decides is not broken off. -/
theorem Checked.Decides.ne_homeless {α : Type} {c : Checked α} {v : Value} (h : c.Decides v) :
    c ≠ .homeless := by
  rcases h with ⟨a, rfl⟩ | ⟨kind, rfl⟩
  · intro h
    cases h
  · intro h
    cases h

namespace Check

/-- What was found is accepted, and what is wrong with a value is reported with it. -/
theorem ofFound_decides {α : Type} (found : Except IssueKind α) (v : Value) :
    (ofFound found v).Decides v := by
  cases found with
  | ok a => exact .inl ⟨a, rfl⟩
  | error kind => exact .inr ⟨kind, rfl⟩

/-- A word is accepted or reported. -/
theorem word_decides {α : Type} (choices : List (String × α)) (v : Value) :
    (word choices v).Decides v := by
  unfold word
  dsimp only
  split
  · split
    · exact .inl ⟨_, rfl⟩
    · exact .inr ⟨_, rfl⟩
  · exact .inr ⟨_, rfl⟩

section Coerced

variable {c : Coercion} {v : Value} {kind : IssueKind}

/-- What is no text is no language either. -/
theorem language_of_error (h : c.text v = .error kind) : language c v = .issue kind v := by
  unfold language text
  rw [h]
  rfl

/-- What is no integer is no limit either. -/
theorem positive_of_error (h : c.integer v = .error kind) : positive c v = .issue kind v := by
  unfold positive integer
  rw [h]
  rfl

end Coerced

/-- A language is accepted or reported. -/
theorem language_decides (c : Coercion) (v : Value) : (language c v).Decides v := by
  cases h : c.text v with
  | ok s =>
    unfold language text
    rw [h]
    exact .inl ⟨_, rfl⟩
  | error kind => exact .inr ⟨kind, language_of_error h⟩

/-- A limit is accepted or reported. -/
theorem positive_decides (c : Coercion) (v : Value) : (positive c v).Decides v := by
  cases h : c.integer v with
  | ok i =>
    unfold positive integer
    rw [h]
    simp only [ofFound, Checked.andThen]
    split
    · exact .inl ⟨_, rfl⟩
    · exact .inr ⟨_, rfl⟩
  | error kind => exact .inr ⟨kind, positive_of_error h⟩

end Check

namespace ScalarSetting

variable {c : Coercion} {v : Value}

/-- Every setting accepts a value or reports one issue with it. -/
theorem check_decides (c : Coercion) (t : ScalarSetting) (v : Value) : (t.check c v).Decides v := by
  cases t with
  | severity => exact Check.word_decides _ v
  | language => exact Check.language_decides c v
  | noteSeparator => exact Check.ofFound_decides _ v
  | acceptPartialTrees => exact Check.ofFound_decides _ v
  | maxFileSizeKb => exact Check.positive_decides c v

/-- No setting accepts a mapping, and all mappings are reported alike. -/
theorem exists_check_of_isMapping (c : Coercion) (t : ScalarSetting) :
    ∃ kind, ∀ v : Value, v.IsMapping → t.check c v = .issue kind v := by
  cases t with
  | severity =>
    refine ⟨.notWord (Check.severities.map Prod.fst), fun v hmapping => ?_⟩
    obtain ⟨entries, hv⟩ := hmapping
    cases v with
    | map _ => rfl
    | knot _ _ => rfl
    | _ => cases hv
  | language =>
    obtain ⟨kind, hkind⟩ := c.text_mapping
    exact ⟨kind, fun v hv => Check.language_of_error (hkind v hv)⟩
  | noteSeparator =>
    obtain ⟨kind, hkind⟩ := c.text_mapping
    exact ⟨kind, fun v hv => congrArg (Check.ofFound · v) (hkind v hv)⟩
  | acceptPartialTrees =>
    obtain ⟨kind, hkind⟩ := c.truth_mapping
    exact ⟨kind, fun v hv => congrArg (Check.ofFound · v) (hkind v hv)⟩
  | maxFileSizeKb =>
    obtain ⟨kind, hkind⟩ := c.integer_mapping
    exact ⟨kind, fun v hv => Check.positive_of_error (hkind v hv)⟩

/-- What stands for an accepted value is that value. -/
theorem check_of_standsFor_of_accepted {t : ScalarSetting} {shown : Value} {a : t.Content}
    (hstands : shown.StandsFor v) (h : t.check c v = .accepted a) :
    t.check c shown = .accepted a := by
  rcases hstands with rfl | ⟨-, hmapping⟩
  · exact h
  · obtain ⟨kind, hkind⟩ := t.exists_check_of_isMapping c
    rw [hkind v hmapping] at h
    cases h

/-- What stands for a rejected value is rejected for the same reason. -/
theorem check_of_standsFor_of_issue {t : ScalarSetting} {shown : Value} {kind : IssueKind}
    (hstands : shown.StandsFor v) (h : t.check c v = .issue kind v) :
    t.check c shown = .issue kind shown := by
  rcases hstands with rfl | ⟨hshown, hmapping⟩
  · exact h
  · obtain ⟨common, hcommon⟩ := t.exists_check_of_isMapping c
    rw [hcommon v hmapping] at h
    injection h with h
    injection h with hkind
    rw [hcommon shown hshown, hkind]

/-- What entries make of a setting. -/
def checkIn (c : Coercion) (t : ScalarSetting) (es : Entries) : Checked t.Content :=
  Check.member (es.members t.group) t.key t.default (t.check c)

end ScalarSetting

/-! ### All settings -/

section All

variable {c : Coercion} {homes : Homes} {es : Entries}

/-- What entries make of the outputs of the log. -/
def LoggingSettings.outputsIn (c : Coercion) (homes : Homes) (es : Entries) :
    Checked (List LogOutput) :=
  Check.member (es.members "logging") "outputs" LoggingSettings.default.outputs
    (Check.listOf c (LogOutput.check c homes))

/-- A group that is absent is checked like one without members. -/
theorem Check.member_group {α : Type} {name label : String} {default : α}
    {f : Entries → Checked α} (hmaps : es.MapsGroup name) (hempty : f [] = .accepted default) :
    member es name default (fun v => (group label v).andThen f) =
      (f (es.members name)).under (.member name) := by
  cases hfield : es.field? name with
  | none =>
    rw [member_of_absent hfield, Entries.members_of_absent hfield, hempty]
    rfl
  | some v =>
    obtain ⟨ms, hms⟩ := hmaps v hfield
    rw [member_of_field? hfield, Entries.members_of_field? hfield hms,
      group_eq_accepted_iff.mpr hms]
    rfl

open ScalarSetting in
/-- All settings are checked by checking the five of them that hold one value, and the outputs. -/
theorem Settings.check_map_eq (hmaps : ∀ g ∈ groupNames, es.MapsGroup g) :
    Settings.check c homes (.map es) =
      ((((severity.checkIn c es).map LoggingSettings.mk).both
        (LoggingSettings.outputsIn c homes es)).under (.member "logging") |>.map Settings.mk).both
      ((((((language.checkIn c es).map ResolverSettings.mk).both (noteSeparator.checkIn c es)).both
        (acceptPartialTrees.checkIn c es)).both (maxFileSizeKb.checkIn c es)).under
          (.member "resolver")) := by
  have hlogging :
      Check.member es "logging" Settings.default.logging (LoggingSettings.check c homes) =
      (((severity.checkIn c es).map LoggingSettings.mk).both
        (LoggingSettings.outputsIn c homes es)).under (.member "logging") :=
    Check.member_group (hmaps _ (by decide)) rfl
  have hresolver : Check.member es "resolver" Settings.default.resolver (ResolverSettings.check c) =
      (((((language.checkIn c es).map ResolverSettings.mk).both (noteSeparator.checkIn c es)).both
        (acceptPartialTrees.checkIn c es)).both (maxFileSizeKb.checkIn c es)).under
          (.member "resolver") :=
    Check.member_group (hmaps _ (by decide)) rfl
  rw [← hlogging, ← hresolver]
  rfl

/-- Where everything is accepted, all settings are. -/
theorem Settings.check_map_of_accepted {outputs : List LogOutput}
    (hmaps : ∀ g ∈ groupNames, es.MapsGroup g)
    (houtputs : LoggingSettings.outputsIn c homes es = .accepted outputs)
    (hall : ∀ u : ScalarSetting, ∃ a, u.checkIn c es = .accepted a) :
    ∃ s, Settings.check c homes (.map es) = .accepted s ∧
      ∀ u : ScalarSetting, u.checkIn c es = .accepted (u.read s) := by
  obtain ⟨severity, hseverity⟩ := hall .severity
  obtain ⟨language, hlanguage⟩ := hall .language
  obtain ⟨separator, hseparator⟩ := hall .noteSeparator
  obtain ⟨partialTrees, hpartialTrees⟩ := hall .acceptPartialTrees
  obtain ⟨limit, hlimit⟩ := hall .maxFileSizeKb
  refine ⟨⟨⟨severity, outputs⟩, ⟨language, separator, partialTrees, limit⟩⟩, ?_, ?_⟩
  · rw [Settings.check_map_eq hmaps, houtputs, hseverity, hlanguage, hseparator, hpartialTrees,
      hlimit]
    rfl
  · intro u
    cases u with
    | severity => exact hseverity
    | language => exact hlanguage
    | noteSeparator => exact hseparator
    | acceptPartialTrees => exact hpartialTrees
    | maxFileSizeKb => exact hlimit

/-- Where everything but one setting is accepted, its issue is the only one. -/
theorem Settings.check_map_of_rejected {t : ScalarSetting} {outputs : List LogOutput} {i : Issue}
    (hmaps : ∀ g ∈ groupNames, es.MapsGroup g)
    (houtputs : LoggingSettings.outputsIn c homes es = .accepted outputs)
    (hothers : ∀ u, u ≠ t → ∃ a, u.checkIn c es = .accepted a)
    (hrejected : t.checkIn c es = .rejected i []) :
    Settings.check c homes (.map es) = .rejected (i.under (.member t.group)) [] := by
  rw [Settings.check_map_eq hmaps, houtputs]
  cases t with
  | severity =>
    obtain ⟨language, hlanguage⟩ := hothers .language (by decide)
    obtain ⟨separator, hseparator⟩ := hothers .noteSeparator (by decide)
    obtain ⟨partialTrees, hpartialTrees⟩ := hothers .acceptPartialTrees (by decide)
    obtain ⟨limit, hlimit⟩ := hothers .maxFileSizeKb (by decide)
    rw [hrejected, hlanguage, hseparator, hpartialTrees, hlimit]
    rfl
  | language =>
    obtain ⟨severity, hseverity⟩ := hothers .severity (by decide)
    obtain ⟨separator, hseparator⟩ := hothers .noteSeparator (by decide)
    obtain ⟨partialTrees, hpartialTrees⟩ := hothers .acceptPartialTrees (by decide)
    obtain ⟨limit, hlimit⟩ := hothers .maxFileSizeKb (by decide)
    rw [hrejected, hseverity, hseparator, hpartialTrees, hlimit]
    rfl
  | noteSeparator =>
    obtain ⟨severity, hseverity⟩ := hothers .severity (by decide)
    obtain ⟨language, hlanguage⟩ := hothers .language (by decide)
    obtain ⟨partialTrees, hpartialTrees⟩ := hothers .acceptPartialTrees (by decide)
    obtain ⟨limit, hlimit⟩ := hothers .maxFileSizeKb (by decide)
    rw [hrejected, hseverity, hlanguage, hpartialTrees, hlimit]
    rfl
  | acceptPartialTrees =>
    obtain ⟨severity, hseverity⟩ := hothers .severity (by decide)
    obtain ⟨language, hlanguage⟩ := hothers .language (by decide)
    obtain ⟨separator, hseparator⟩ := hothers .noteSeparator (by decide)
    obtain ⟨limit, hlimit⟩ := hothers .maxFileSizeKb (by decide)
    rw [hrejected, hseverity, hlanguage, hseparator, hlimit]
    rfl
  | maxFileSizeKb =>
    obtain ⟨severity, hseverity⟩ := hothers .severity (by decide)
    obtain ⟨language, hlanguage⟩ := hothers .language (by decide)
    obtain ⟨separator, hseparator⟩ := hothers .noteSeparator (by decide)
    obtain ⟨partialTrees, hpartialTrees⟩ := hothers .acceptPartialTrees (by decide)
    rw [hrejected, hseverity, hlanguage, hseparator, hpartialTrees]
    rfl

end All

end Enclosure
