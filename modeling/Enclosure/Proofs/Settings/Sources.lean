import Enclosure.Proofs.Settings.Precedence
import Enclosure.Proofs.Settings.Readers

/-!
# Settings from their sources

What a setting with one value is loaded as follows from the first source that gives a value for it:
that value if it is accepted, a report of it if it is not, and the default if no source gives one.
There are two exceptions. What the sources give may lie within itself too often to be put together,
and then nothing is loaded, whichever value counts. And the value to be reported may be one that
cannot be shown, because it holds an integer with too many digits or lies too deep as well: loading
then fails without the report. A file that takes the place of the project's hides the latter
altogether.
-/

set_option autoImplicit false

namespace Enclosure

namespace SettingSources

variable {s : SettingSources} {e : SourceEntries} {es : Entries} {path : FilePath}

/-- What sources give; one that cannot be read counts as empty. -/
def given (s : SettingSources) : SourceEntries where
  overrides := s.overrides.entries
  environment := (s.readers.environment s.overrides.naming s.environment).toOption.getD []
  project := s.projectEntries.toOption.getD []
  user := (s.readFile s.userFile).toOption.getD []

/-- Sources that can be read give what they are read as. -/
theorem gives_given
    (henvironment :
      (s.readers.environment s.overrides.naming s.environment).toOption.isSome = true)
    (hproject : s.projectEntries.toOption.isSome = true)
    (huser : (s.readFile s.userFile).toOption.isSome = true) : s.Gives s.given := by
  have hread {ε α : Type} {r : Except ε (List α)} (h : r.toOption.isSome = true) :
      r = .ok (r.toOption.getD []) := by
    cases r with
    | ok a => rfl
    | error f => cases h
  exact ⟨rfl, hread henvironment, hread hproject, hread huser⟩

/-- If the overrides name every key once, so do the other sources. -/
theorem Gives.wellKeyed (h : s.Gives e) (hreaders : s.readers.GivesWellKeyed)
    (hkeyed : (Value.map s.overrides.entries).WellKeyed) :
    ∀ l ∈ e.layers, (Value.map l).WellKeyed := by
  rw [h.overrides] at hkeyed
  exact SourceEntries.forall_mem_layers_iff.mpr ⟨hkeyed, hreaders.environment _ _ _ h.environment,
    wellKeyed_of_projectEntries hreaders h.project,
    ConfigFile.wellKeyed_of_read hreaders.document h.user⟩

/-- What counts for a setting is what loading fails with if it is not accepted. -/
theorem Gives.load_of_issue {t : ScalarSetting} {v : Value} {kind : IssueKind} (h : s.Gives e)
    (hes : e.merged? s.stack = some es) (hsound : e.Sound s.readers.coercion s.homes t)
    (hkeyed : ∀ l ∈ e.layers, (Value.map l).WellKeyed)
    (hfirst : e.first? t.group t.key = some v)
    (hissue : t.check s.readers.coercion v = .issue kind v) :
    ∃ shown : Value, shown.StandsFor v ∧
      Settings.load s = .error (Settings.failure s.stack.messages
        ⟨kind, [.member t.group, .member t.key], shown⟩) := by
  have hstands := SourceEntries.standsFor_first? (hsound.isLayer hkeyed t.group_mem) hes t.key
  rw [hfirst] at hstands
  obtain ⟨shown, hshown, hchecked⟩ := ScalarSetting.checkIn_of_issue hstands hissue
  exact ⟨shown, hshown, h.load_of_rejected hes hsound hkeyed hchecked⟩

/-- A file in the place of the project's must exist. -/
theorem projectEntries_of_explicit (h : s.explicitFile = some path) :
    s.projectEntries =
      match s.files.lookup path with
      | .ok _ => s.readFile path
      | .error (.invalid .tooLong) => .error .longPath
      | .error _ => .error (.config (.fileNotFound path.text)) := by
  cases s
  cases h
  rfl

/-- With a file in the place of the project's, only that file and the user's own count. -/
theorem load_congr_files (hexplicit : s.explicitFile = some path) {files : Files}
    (hpath : files.lookup path = s.files.lookup path)
    (huser : files.lookup s.userFile = s.files.lookup s.userFile) (project : FilePath) :
    Settings.load { s with files := files, project := project } = Settings.load s := by
  have hread {p : FilePath} (h : files.lookup p = s.files.lookup p) :
      readFile { s with files := files, project := project } p = s.readFile p := by
    unfold readFile ConfigFile.read
    dsimp only
    rw [h]
  have hproject : projectEntries { s with files := files, project := project } =
      s.projectEntries := by
    rw [projectEntries_of_explicit (s := { s with files := files, project := project }) hexplicit,
      projectEntries_of_explicit hexplicit, hread hpath]
    dsimp only
    rw [hpath]
  have hmerged : merged { s with files := files, project := project } = s.merged := by
    unfold merged fileEntries
    rw [hproject, hread huser]
    rfl
  unfold Settings.load
  rw [hmerged]
  rfl

end SettingSources

/-- The failure that an issue with a setting is: a fault in the configuration with the name of the
setting if the value found can be shown, and that it cannot be shown otherwise. -/
theorem Settings.failure_of_setting (levels : Nat) (t : ScalarSetting) (kind : IssueKind)
    (shown : Value) :
    let i : Issue := ⟨kind, [.member t.group, .member t.key], shown⟩
    (shown.textFault? levels = none →
      failure levels i = .config (.invalidValue t.place shown kind.message)) ∧
    ∀ fault, shown.textFault? levels = some fault → failure levels i = .ofWriting fault := by
  intro i
  have hplace : i.placeText = t.place := by
    cases t <;> rfl
  unfold failure
  rw [hplace]
  refine ⟨fun h => ?_, fun fault h => ?_⟩ <;> rw [show i.input = shown from rfl, h]

/-- Where all that the sources give can be put together, which it can if nothing in it lies too
deep, the first source that gives a value for a setting decides what it is loaded as, whatever the
sources after it give; the variable of a setting is the one with its name; and where another file
takes the place of the project's, neither what lies at any other path nor the directory of the
project matters. -/
theorem SettingSources.load_decided_by_first {s : SettingSources} {e : SourceEntries}
    {t : ScalarSetting} (hreaders : s.readers.GivesWellKeyed) (hgives : s.Gives e)
    (hkeyed : (Value.map s.overrides.entries).WellKeyed)
    (hsound : e.Sound s.readers.coercion s.homes t) :
    (e.merged? s.stack = none → Settings.load s = .error .tooDeep) ∧
    (∀ levels, (∀ l ∈ e.layers, (Value.map l).NestsWithin levels) → levels ≤ s.stack.files →
      levels ≤ s.stack.sources → e.merged? s.stack ≠ none) ∧
    (e.merged? s.stack ≠ none →
      (∀ v a, e.first? t.group t.key = some v → t.check s.readers.coercion v = .accepted a →
        ∃ settings, Settings.load s = .ok settings ∧ t.read settings = a) ∧
      (∀ v, e.first? t.group t.key = some v →
        (∀ a, t.check s.readers.coercion v ≠ .accepted a) →
        ∃ kind shown, t.check s.readers.coercion v = .issue kind v ∧ shown.StandsFor v ∧
          (shown.textFault? s.stack.messages = none →
            Settings.load s = .error (.config (.invalidValue t.place shown kind.message))) ∧
          ∀ fault, shown.textFault? s.stack.messages = some fault →
            Settings.load s = .error (.ofWriting fault)) ∧
      (e.first? t.group t.key = none →
        ∃ settings, Settings.load s = .ok settings ∧ t.read settings = t.default)) ∧
    (∀ levels, s.readers.environment = (fun naming env => env.entries levels naming) →
      s.overrides.naming = .default →
      (s.environment.folded .default).value? t.groupVariable = none →
      (∀ text, (s.environment.folded .default).value? t.variableName = some text →
        e.environment.setting? t.group t.key = some (.str text)) ∧
      ((∀ v ∈ s.environment.folded .default, v.1 ≠ t.variableName ∧
          ¬ (t.variableName ++ "__").toList <+: v.1.toList) →
        e.environment.setting? t.group t.key = none)) ∧
    (∀ path, s.explicitFile = some path → ∀ (files : Files) (project : FilePath),
      files.lookup path = s.files.lookup path →
      files.lookup s.userFile = s.files.lookup s.userFile →
      Settings.load { s with files := files, project := project } = Settings.load s) := by
  have hlayers := hgives.wellKeyed hreaders hkeyed
  refine ⟨?tooDeep, ?shallow, ?merged, ?named, ?files⟩
  case tooDeep =>
    intro hnone
    unfold Settings.load
    rw [hgives.merged_eq, hnone]
    rfl
  case shallow =>
    intro levels hlevels hfiles hsources hnone
    obtain ⟨es, hes⟩ := SourceEntries.exists_merged? hlevels hfiles hsources
    rw [hnone] at hes
    cases hes
  case merged =>
    intro hsome
    obtain ⟨es, hes⟩ := Option.ne_none_iff_exists'.mp hsome
    have hstands := SourceEntries.standsFor_first? (hsound.isLayer hlayers t.group_mem) hes t.key
    refine ⟨?accepted, ?rejected, ?absent⟩
    case accepted =>
      intro v a hfirst hcheck
      rw [hfirst] at hstands
      exact hgives.load_of_accepted hes hsound hlayers
        (ScalarSetting.checkIn_of_accepted hstands hcheck)
    case rejected =>
      intro v hfirst hnot
      rcases t.check_decides s.readers.coercion v with ⟨a, ha⟩ | ⟨kind, hissue⟩
      · exact absurd ha (hnot a)
      · obtain ⟨shown, hshown, hload⟩ := hgives.load_of_issue hes hsound hlayers hfirst hissue
        obtain ⟨hwritten, hunwritten⟩ :=
          Settings.failure_of_setting s.stack.messages t kind shown
        refine ⟨kind, shown, hissue, hshown, fun h => ?_, fun fault h => ?_⟩
        · rw [hload, hwritten h]
        · rw [hload, hunwritten fault h]
    case absent =>
      intro hfirst
      rw [hfirst] at hstands
      exact hgives.load_of_accepted hes hsound hlayers (ScalarSetting.checkIn_of_none hstands)
  case named =>
    intro levels hvariables hnaming hnone
    have henvironment := hgives.environment
    rw [hvariables, hnaming] at henvironment
    exact ScalarSetting.setting?_environment henvironment hnone
  case files =>
    intro path hexplicit files project hpath huser
    exact load_congr_files hexplicit hpath huser project

/-- Sources of a user who has a configuration file of their own, with a project that has none. -/
def SettingSources.ofUser (userFile : String) (environment : Environment) (overrides : Entries) :
    SettingSources where
  stack := .usual
  readers := .standard .usual
  files := ⟨[([['u']], .file (userFile.toList.map fun c => .ofNat c.toNat))], []⟩
  homes := ⟨"/home", []⟩
  environment := environment
  userFile := .ofText "/u"
  project := .ofText "/project"
  explicitFile := none
  overrides := ⟨.default, overrides⟩

/-- A variable decides, though the user's own file holds a value that is not accepted. -/
theorem SettingSources.load_decided_by_variable :
    let s : SettingSources := .ofUser "logging:\n  level: 7\nresolver:\n  language: Swift\n"
      [("CODESCOPE__LOGGING__LEVEL", "INFO")] []
    s.readers.GivesWellKeyed ∧ s.Gives s.given ∧ (Value.map s.overrides.entries).WellKeyed ∧
      s.given.Sound s.readers.coercion s.homes .severity ∧ s.given.merged? s.stack ≠ none ∧
      s.given.first? "logging" "level" = some (.str "INFO") ∧
      ∃ settings, Settings.load s = .ok settings ∧ settings.logging.severity = .info := by
  intro s
  have hreaders : s.readers.GivesWellKeyed := SettingReaders.givesWellKeyed_standard _
  have hgives : s.Gives s.given :=
    gives_given (by decide +kernel) (by decide +kernel) (by decide +kernel)
  have hkeyed : (Value.map s.overrides.entries).WellKeyed := Value.wellKeyed_map_nil
  have hsound : s.given.Sound s.readers.coercion s.homes .severity := by decide +kernel
  have hmerged : s.given.merged? s.stack ≠ none := by
    rw [← Option.isSome_iff_ne_none]
    decide +kernel
  obtain ⟨-, -, hdecided, hvariables, -⟩ :=
    load_decided_by_first (t := .severity) hreaders hgives hkeyed hsound
  have hoverrides : s.given.overrides.setting? "logging" "level" = none := rfl
  have hvariable : s.given.environment.setting? "logging" "level" = some (.str "INFO") :=
    (hvariables _ rfl rfl (by decide +kernel)).1 "INFO" (by decide +kernel)
  have hfirst : s.given.first? "logging" "level" = some (.str "INFO") := by
    simp only [SourceEntries.first?, SourceEntries.layers, List.findSome?_cons, hoverrides,
      hvariable]
  exact ⟨hreaders, hgives, hkeyed, hsound, hmerged, hfirst,
    (hdecided hmerged).1 (.str "INFO") .info hfirst rfl⟩

/-- An integer with too many digits cannot be shown. -/
theorem Value.textFault?_of_long {n : Nat} (levels : Nat) (h : Nat.pow 10 Decimal.limit ≤ n) :
    (Value.int n).textFault? (levels + 1) = some .tooLong := by
  unfold textFault? nestedFault?
  dsimp only
  rw [Int.natAbs_natCast, if_pos h]

/-- A value that is not accepted is not reported if it is an integer with too many digits. -/
theorem SettingSources.load_unreported :
    let level : Value := .int (Nat.pow 10 Decimal.limit)
    let s : SettingSources := .ofUser "" [] [(.str "logging", .map [(.str "level", level)])]
    s.readers.GivesWellKeyed ∧ s.Gives s.given ∧ (Value.map s.overrides.entries).WellKeyed ∧
      s.given.Sound s.readers.coercion s.homes .severity ∧ s.given.merged? s.stack ≠ none ∧
      s.given.first? "logging" "level" = some level ∧
      (∀ a, Check.severity level ≠ .accepted a) ∧ Settings.load s = .error .unwritable := by
  intro level s
  have hreaders : s.readers.GivesWellKeyed := SettingReaders.givesWellKeyed_standard _
  have hgives : s.Gives s.given :=
    gives_given (by decide +kernel) (by decide +kernel) (by decide +kernel)
  have hsingle (k v : Value) (h : v.WellKeyed) : (Value.map [(k, v)]).WellKeyed := by
    rw [Value.wellKeyed_map_iff]
    exact ⟨List.pairwise_singleton _ _, List.forall_mem_singleton.mpr h⟩
  have hkeyed : (Value.map s.overrides.entries).WellKeyed := hsingle _ _ (hsingle _ _ trivial)
  have hsound : s.given.Sound s.readers.coercion s.homes .severity := by decide +kernel
  have hmerged : s.given.merged? s.stack ≠ none := by
    rw [← Option.isSome_iff_ne_none]
    decide +kernel
  obtain ⟨es, hes⟩ := Option.ne_none_iff_exists'.mp hmerged
  have hissue : Check.severity level =
      .issue (.notWord (Check.severities.map Prod.fst)) level := rfl
  obtain ⟨shown, hshown, hload⟩ := hgives.load_of_issue (t := .severity) (v := level) hes hsound
    (hgives.wellKeyed hreaders hkeyed) rfl hissue
  refine ⟨hreaders, hgives, hkeyed, hsound, hmerged, rfl, ?_, ?_⟩
  · intro a ha
    rw [hissue] at ha
    cases ha
  · rcases hshown with rfl | ⟨-, entries, hentries⟩
    · have hfault : level.textFault? s.stack.messages = some .tooLong :=
        Value.textFault?_of_long 899 (Nat.le_refl _)
      have hfails := (Settings.failure_of_setting _ .severity
        (.notWord (Check.severities.map Prod.fst)) level).2 _ hfault
      exact hload.trans (congrArg Except.error hfails)
    · cases hentries

end Enclosure
