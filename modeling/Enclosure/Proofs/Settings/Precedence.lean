import Enclosure.Proofs.Settings.ReadBack
import Enclosure.Proofs.Settings.Scalar
import Enclosure.Proofs.Value.Levels

/-!
# Which source a setting comes from

Of the sources that give a value for a setting the first one counts: what the caller overrides, the
environment, the configuration file of the project or the one in its place, the user's own file.
If that value is accepted, the settings hold what it stands for, whatever the sources after it give;
if it is not, it is the fault that is reported; and if there is none, the default holds.
-/

set_option autoImplicit false

namespace Enclosure

/-- What the four sources of settings give. -/
structure SourceEntries where
  overrides : Entries
  environment : Entries
  project : Entries
  user : Entries

namespace SourceEntries

/-- The sources, the one that counts first in front. -/
def layers (e : SourceEntries) : List Entries :=
  [e.overrides, e.environment, e.project, e.user]

/-- The value that counts for a setting of a group. -/
def first? (e : SourceEntries) (group key : String) : Option Value :=
  e.layers.findSome? fun l => l.setting? group key

/-- The sources put together, where merges can lie within each other as often as the stack has room;
none if it has not room enough. -/
def merged? (e : SourceEntries) (stack : Stack) : Option Entries := do
  let files ← Entries.merge? stack.files e.user e.project
  let given ← Entries.merge? stack.sources e.environment e.overrides
  Entries.merge? stack.sources files given

/-- Whether the sources hold nothing but groups of settings, these are mappings, and what counts for
every other setting than a given one is accepted. -/
structure Sound (c : Coercion) (homes : Homes) (t : ScalarSetting) (e : SourceEntries) : Prop where
  groups : ∀ l ∈ e.layers, ∀ entry ∈ l, ∃ g ∈ Settings.groupNames, entry.1 = .str g
  mappings : ∀ l ∈ e.layers, ∀ g ∈ Settings.groupNames, l.MapsGroup g
  others : ∀ u, u ≠ t → ∀ v ∈ e.first? u.group u.key, ∃ a, u.check c v = .accepted a
  outputs : ∀ v ∈ e.first? "logging" "outputs",
    ∃ os, Check.listOf c (LogOutput.check c homes) v = .accepted os

variable {e : SourceEntries} {stack : Stack} {es : Entries} {c : Coercion} {homes : Homes}
  {t : ScalarSetting} {group key : String}

/-- What holds of all sources holds of each of the four. -/
theorem forall_mem_layers_iff {p : Entries → Prop} :
    (∀ l ∈ e.layers, p l) ↔ p e.overrides ∧ p e.environment ∧ p e.project ∧ p e.user := by
  simp [layers]

/-- It is enough to look at each of the settings to see that sources are sound. -/
theorem sound_iff :
    e.Sound c homes t ↔
      (∀ l ∈ e.layers, ∀ entry ∈ l, ∃ g ∈ Settings.groupNames, entry.1 = .str g) ∧
      (∀ l ∈ e.layers, ∀ g ∈ Settings.groupNames, l.MapsGroup g) ∧
      (∀ u ∈ ScalarSetting.all, u ≠ t →
        ∀ v ∈ e.first? u.group u.key, ∃ a, u.check c v = .accepted a) ∧
      ∀ v ∈ e.first? "logging" "outputs",
        ∃ os, Check.listOf c (LogOutput.check c homes) v = .accepted os := by
  constructor
  · rintro ⟨hgroups, hmappings, hothers, houtputs⟩
    exact ⟨hgroups, hmappings, fun u _ => hothers u, houtputs⟩
  · rintro ⟨hgroups, hmappings, hothers, houtputs⟩
    exact ⟨hgroups, hmappings, fun u => hothers u u.mem_all, houtputs⟩

instance : Decidable (e.Sound c homes t) :=
  decidable_of_iff _ sound_iff.symm

/-- The sources are put together in three merges. -/
theorem merged?_eq_some_iff :
    e.merged? stack = some es ↔
      ∃ files given, Entries.merge? stack.files e.user e.project = some files ∧
        Entries.merge? stack.sources e.environment e.overrides = some given ∧
        Entries.merge? stack.sources files given = some es := by
  unfold merged?
  constructor
  · intro h
    obtain ⟨files, hfiles, h⟩ := Option.bind_eq_some_iff.mp h
    obtain ⟨given, hgiven, h⟩ := Option.bind_eq_some_iff.mp h
    exact ⟨files, given, hfiles, hgiven, h⟩
  · rintro ⟨files, given, hfiles, hgiven, h⟩
    have hrest := Option.bind_eq_some_iff.mpr ⟨given, hgiven, h⟩
    exact Option.bind_eq_some_iff.mpr ⟨files, hfiles, hrest⟩

/-- Sources that nest no deeper than there is room for are put together. -/
theorem exists_merged? {levels : Nat}
    (hlevels : ∀ l ∈ e.layers, (Value.map l).NestsWithin levels)
    (hfiles : levels ≤ stack.files) (hsources : levels ≤ stack.sources) :
    ∃ es, e.merged? stack = some es := by
  obtain ⟨hoverrides, henvironment, hproject, huser⟩ := forall_mem_layers_iff.mp hlevels
  obtain ⟨files, hmerged⟩ := Entries.exists_merge? e.user (hproject.mono hfiles)
  obtain ⟨given, hgiven⟩ := Entries.exists_merge? e.environment (hoverrides.mono hsources)
  have hnests := Entries.nestsWithin_merge? henvironment hoverrides hgiven
  obtain ⟨es, hes⟩ := Entries.exists_merge? files (hnests.mono hsources)
  exact ⟨es, merged?_eq_some_iff.mpr ⟨files, given, hmerged, hgiven, hes⟩⟩

/-- The keys of the sources put together are those of all of them. -/
theorem forall_mem_merged?_iff {p : Value → Prop}
    (hp : ∀ k l : Value, k.identity = l.identity → (p k ↔ p l)) (h : e.merged? stack = some es) :
    (∀ entry ∈ es, p entry.1) ↔ ∀ l ∈ e.layers, ∀ entry ∈ l, p entry.1 := by
  obtain ⟨files, given, hfiles, hgiven, hes⟩ := merged?_eq_some_iff.mp h
  rw [Entries.forall_mem_merge?_iff hp hes, Entries.forall_mem_merge?_iff hp hfiles,
    Entries.forall_mem_merge?_iff hp hgiven, forall_mem_layers_iff]
  grind

/-- Put together, layers are one. -/
theorem isLayer_merged? (hlayers : ∀ l ∈ e.layers, l.IsLayer group)
    (h : e.merged? stack = some es) : es.IsLayer group := by
  obtain ⟨files, given, hfiles, hgiven, hes⟩ := merged?_eq_some_iff.mp h
  obtain ⟨hoverrides, henvironment, hproject, huser⟩ := forall_mem_layers_iff.mp hlayers
  exact (huser.merge? hproject hfiles).merge? (henvironment.merge? hoverrides hgiven) hes

/-- Put together, the sources give for a setting what counts for it. -/
theorem standsFor_first? (hlayers : ∀ l ∈ e.layers, l.IsLayer group)
    (h : e.merged? stack = some es) (key : String) :
    Value.StandsFor? (es.setting? group key) (e.first? group key) := by
  obtain ⟨files, given, hfiles, hgiven, hes⟩ := merged?_eq_some_iff.mp h
  obtain ⟨hoverrides, henvironment, hproject, huser⟩ := forall_mem_layers_iff.mp hlayers
  have hlower := huser.standsFor_setting? hproject hfiles key
  have hupper := henvironment.standsFor_setting? hoverrides hgiven key
  have hall := (huser.merge? hproject hfiles).standsFor_setting?
    (henvironment.merge? hoverrides hgiven) hes key
  have hfirst : e.first? group key =
      ((e.overrides.setting? group key).or (e.environment.setting? group key)).or
        ((e.project.setting? group key).or (e.user.setting? group key)) := by
    simp only [first?, layers, List.findSome?_cons, List.findSome?_nil]
    cases e.overrides.setting? group key <;> cases e.environment.setting? group key <;>
      cases e.project.setting? group key <;> cases e.user.setting? group key <;> rfl
  rw [hfirst]
  exact hall.trans (hupper.or hlower)

end SourceEntries

/-! ### What counts decides -/

namespace ScalarSetting

variable {c : Coercion} {t : ScalarSetting} {es : Entries} {v : Value}

/-- A setting that is not given has its default. -/
theorem checkIn_of_none (h : Value.StandsFor? (es.setting? t.group t.key) none) :
    t.checkIn c es = .accepted t.default := by
  unfold checkIn
  cases hfield : es.setting? t.group t.key with
  | none => exact Check.member_of_absent hfield
  | some shown =>
    rw [hfield] at h
    exact h.elim

/-- A setting is accepted as the value that counts for it is. -/
theorem checkIn_of_accepted {a : t.Content}
    (h : Value.StandsFor? (es.setting? t.group t.key) (some v))
    (hcheck : t.check c v = .accepted a) : t.checkIn c es = .accepted a := by
  unfold checkIn
  cases hfield : es.setting? t.group t.key with
  | none =>
    rw [hfield] at h
    exact h.elim
  | some shown =>
    rw [hfield] at h
    rw [Check.member_of_field? hfield, check_of_standsFor_of_accepted h hcheck]
    rfl

/-- A setting whose value is refused has one issue, with a value that stands for it. -/
theorem checkIn_of_issue {kind : IssueKind}
    (h : Value.StandsFor? (es.setting? t.group t.key) (some v))
    (hcheck : t.check c v = .issue kind v) :
    ∃ shown : Value, shown.StandsFor v ∧
      t.checkIn c es = .rejected ⟨kind, [.member t.key], shown⟩ [] := by
  unfold checkIn
  cases hfield : es.setting? t.group t.key with
  | none =>
    rw [hfield] at h
    exact h.elim
  | some shown =>
    rw [hfield] at h
    refine ⟨shown, h, ?_⟩
    rw [Check.member_of_field? hfield, check_of_standsFor_of_issue h hcheck]
    rfl

end ScalarSetting

/-- The outputs are accepted if what counts for them is. -/
theorem LoggingSettings.outputsIn_of_first {c : Coercion} {homes : Homes} {es : Entries}
    {first : Option Value} (h : Value.StandsFor? (es.setting? "logging" "outputs") first)
    (hfirst : ∀ v, first = some v →
      ∃ os, Check.listOf c (LogOutput.check c homes) v = .accepted os) :
    ∃ os, outputsIn c homes es = .accepted os := by
  unfold outputsIn
  cases hfield : es.setting? "logging" "outputs" with
  | none => exact ⟨_, Check.member_of_absent hfield⟩
  | some shown =>
    cases first with
    | none =>
      rw [hfield] at h
      exact h.elim
    | some v =>
      rw [hfield] at h
      obtain ⟨os, hos⟩ := hfirst v rfl
      rcases h with rfl | ⟨-, hmapping⟩
      · refine ⟨os, ?_⟩
        rw [Check.member_of_field? hfield, hos]
        rfl
      · obtain ⟨kind, hkind⟩ := c.items_mapping
        rw [Check.listOf, hkind v hmapping] at hos
        cases hos

/-- Whether all names at the top level are texts. -/
def Entries.AreNamed (es : Entries) : Prop :=
  ∀ entry ∈ es, ∃ name, entry.1 = .str name

/-- All names are texts exactly when each of them is. -/
theorem Settings.all_isNamed_iff {es : Entries} : es.all isNamed = true ↔ es.AreNamed := by
  have hname (entry : Value × Value) : isNamed entry = true ↔ ∃ name, entry.1 = .str name := by
    unfold isNamed
    split <;> simp_all
  simp only [List.all_eq_true, hname, Entries.AreNamed]

/-- Where there is nothing but groups, their checks decide. -/
theorem Settings.ofEntries_of_named {s : SettingSources} {es : Entries}
    (h : ∀ entry ∈ es, ∃ g ∈ groupNames, entry.1 = .str g) :
    ofEntries s es =
      ofChecked s.stack.messages (Settings.check s.readers.coercion s.homes (.map es)) := by
  have hnamed : es.all isNamed = true := by
    rw [all_isNamed_iff]
    intro entry hentry
    obtain ⟨g, -, hkey⟩ := h entry hentry
    exact ⟨g, hkey⟩
  have hstray : es.filterMap strayIssue? = [] := by
    rw [List.filterMap_eq_nil_iff]
    intro entry hentry
    obtain ⟨g, hg, hkey⟩ := h entry hentry
    rw [strayIssue?, hkey]
    exact if_pos hg
  unfold ofEntries checkStrict
  rw [if_pos hnamed, hstray]
  cases Settings.check s.readers.coercion s.homes (.map es) <;> rfl

namespace SourceEntries

variable {e : SourceEntries} {stack : Stack} {es : Entries} {c : Coercion} {homes : Homes}
  {t : ScalarSetting} {v : Value}

/-- Put together, sound sources hold nothing but groups of settings. -/
theorem Sound.named (hsound : e.Sound c homes t) (h : e.merged? stack = some es) :
    ∀ entry ∈ es, ∃ g ∈ Settings.groupNames, entry.1 = .str g := by
  let names (k : Value) : Prop := ∃ g ∈ Settings.groupNames, k = .str g
  have hcongr (k l : Value) (heq : k.identity = l.identity) : names k ↔ names l := by
    simp only [names, ← Value.identity_eq_str_iff, heq]
  exact (forall_mem_merged?_iff hcongr h).mpr hsound.groups

/-- Sound sources are layers. -/
theorem Sound.isLayer (hsound : e.Sound c homes t)
    (hkeyed : ∀ l ∈ e.layers, (Value.map l).WellKeyed) {g : String}
    (hg : g ∈ Settings.groupNames) : ∀ l ∈ e.layers, l.IsLayer g :=
  fun l hl => ⟨hkeyed l hl, hsound.mappings l hl g hg⟩

/-- Put together, the groups of sound sources are mappings. -/
theorem Sound.mapsGroup (hsound : e.Sound c homes t)
    (hkeyed : ∀ l ∈ e.layers, (Value.map l).WellKeyed) (h : e.merged? stack = some es) :
    ∀ g ∈ Settings.groupNames, es.MapsGroup g :=
  fun _ hg => (isLayer_merged? (hsound.isLayer hkeyed hg) h).maps

/-- Put together, the outputs of sound sources are accepted. -/
theorem Sound.outputsIn (hsound : e.Sound c homes t)
    (hkeyed : ∀ l ∈ e.layers, (Value.map l).WellKeyed) (h : e.merged? stack = some es) :
    ∃ os, LoggingSettings.outputsIn c homes es = .accepted os := by
  have hlayers := hsound.isLayer hkeyed (g := "logging") (by decide)
  exact LoggingSettings.outputsIn_of_first (standsFor_first? hlayers h "outputs") hsound.outputs

/-- Put together, sound sources give accepted values for the other settings. -/
theorem Sound.checkIn (hsound : e.Sound c homes t)
    (hkeyed : ∀ l ∈ e.layers, (Value.map l).WellKeyed) (h : e.merged? stack = some es)
    {u : ScalarSetting} (hu : u ≠ t) : ∃ a, u.checkIn c es = .accepted a := by
  have hstands := standsFor_first? (hsound.isLayer hkeyed u.group_mem) h u.key
  cases hfirst : e.first? u.group u.key with
  | none =>
    rw [hfirst] at hstands
    exact ⟨_, ScalarSetting.checkIn_of_none hstands⟩
  | some v =>
    rw [hfirst] at hstands
    obtain ⟨a, ha⟩ := hsound.others u hu v hfirst
    exact ⟨a, ScalarSetting.checkIn_of_accepted hstands ha⟩

end SourceEntries

/-- What the sources of settings give, if all of them can be read. -/
structure SettingSources.Gives (s : SettingSources) (e : SourceEntries) : Prop where
  overrides : s.overrides.entries = e.overrides
  environment : s.readers.environment s.overrides.naming s.environment = .ok e.environment
  project : s.projectEntries = .ok e.project
  user : s.readFile s.userFile = .ok e.user

namespace SettingSources

variable {s : SettingSources} {e : SourceEntries} {t : ScalarSetting} {es : Entries}

/-- Laying one mapping over another fails exactly when they lie too deep to be merged. -/
theorem laid_eq_error_iff {levels : Nat} {base upper : Entries} {f : LoadFailure} :
    laid levels base upper = .error f ↔
      Entries.merge? levels base upper = none ∧ f = .tooDeep := by
  unfold laid
  cases Entries.merge? levels base upper with
  | none => simp [eq_comm]
  | some merged => simp

/-- Loading goes by what the sources give put together, and fails if that lies too deep. -/
theorem Gives.merged_eq (h : s.Gives e) :
    s.merged = match e.merged? s.stack with
      | some es => .ok es
      | none => .error .tooDeep := by
  have hread : s.environmentEntries = .ok e.environment := mapError_eq_ok_iff.mpr h.environment
  unfold merged fileEntries laid SourceEntries.merged?
  rw [h.project, h.user, hread, h.overrides]
  dsimp only [bind, Except.bind, Option.bind]
  cases Entries.merge? s.stack.files e.user e.project with
  | none => rfl
  | some files =>
    cases Entries.merge? s.stack.sources e.environment e.overrides with
    | none => rfl
    | some given =>
      cases hmerged : Entries.merge? s.stack.sources files given <;> simp only [hmerged]

/-- Loading from sound sources comes down to checking what they give. -/
theorem Gives.load_eq (h : s.Gives e) (hes : e.merged? s.stack = some es)
    (hsound : e.Sound s.readers.coercion s.homes t) :
    Settings.load s =
      (Settings.ofChecked s.stack.messages
        (Settings.check s.readers.coercion s.homes (.map es))).bind
        (Settings.readBack s.readers.coercion s.homes) := by
  unfold Settings.load
  rw [h.merged_eq, hes]
  exact congrArg (fun r => Except.bind r _) (Settings.ofEntries_of_named (hsound.named hes))

/-- If the setting in question is accepted too, loading gives what was made of it. -/
theorem Gives.load_of_accepted {a : t.Content} (h : s.Gives e) (hes : e.merged? s.stack = some es)
    (hsound : e.Sound s.readers.coercion s.homes t)
    (hkeyed : ∀ l ∈ e.layers, (Value.map l).WellKeyed)
    (ha : t.checkIn s.readers.coercion es = .accepted a) :
    ∃ settings, Settings.load s = .ok settings ∧ t.read settings = a := by
  obtain ⟨os, hos⟩ := hsound.outputsIn hkeyed hes
  have hall (u : ScalarSetting) : ∃ b, u.checkIn s.readers.coercion es = .accepted b := by
    by_cases hu : u = t
    · subst hu
      exact ⟨a, ha⟩
    · exact hsound.checkIn hkeyed hes hu
  obtain ⟨settings, hcheck, hread⟩ :=
    Settings.check_map_of_accepted (hsound.mapsGroup hkeyed hes) hos hall
  refine ⟨settings, ?_, ?_⟩
  · rw [h.load_eq hes hsound, hcheck]
    exact Settings.readBack_of_check hcheck
  · have hsame := hread t
    rw [ha] at hsame
    injection hsame with hsame
    exact hsame.symm

/-- If the setting in question is not accepted, its issue is what loading fails with. -/
theorem Gives.load_of_rejected {shown : Value} {kind : IssueKind} (h : s.Gives e)
    (hes : e.merged? s.stack = some es) (hsound : e.Sound s.readers.coercion s.homes t)
    (hkeyed : ∀ l ∈ e.layers, (Value.map l).WellKeyed)
    (hrejected : t.checkIn s.readers.coercion es =
      .rejected ⟨kind, [.member t.key], shown⟩ []) :
    Settings.load s = .error (Settings.failure s.stack.messages
      ⟨kind, [.member t.group, .member t.key], shown⟩) := by
  obtain ⟨os, hos⟩ := hsound.outputsIn hkeyed hes
  have hcheck := Settings.check_map_of_rejected (hsound.mapsGroup hkeyed hes) hos
    (fun u hu => hsound.checkIn hkeyed hes hu) hrejected
  rw [h.load_eq hes hsound, hcheck]
  rfl

end SettingSources

end Enclosure
