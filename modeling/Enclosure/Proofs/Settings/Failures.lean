import Enclosure.Command
import Enclosure.Proofs.Settings.Sources
import Enclosure.Proofs.Settings.VariableFaults

/-!
# What breaks off loading

Loading gives settings or reports a fault in the configuration, unless it is broken off. What breaks
it off is listed here, however documents and variables are read: a configuration file that cannot be
read as a document of values, variables that cannot be read, sources that lie too deep to be put
together, a name at the top level that is no text, an output of the log in the home directory of
nobody, and a report of a value that cannot be shown.
-/

set_option autoImplicit false

namespace Enclosure

/-! ### Files -/

namespace ConfigFile

/-- How the file at a path breaks off loading. -/
inductive Breaks (document : DocumentReader) (files : Files) (path : FilePath) : LoadFailure → Prop
  | longPath (h : files.lookup path = .error (.invalid .tooLong)) :
      Breaks document files path .longPath
  | directory (h : files.lookup path = .ok .directory) : Breaks document files path .directory
  | notText {bytes : List UInt8} (h : files.lookup path = .ok (.file bytes))
      (hbytes : document bytes = .error .notText) : Breaks document files path .notText
  | scalar {bytes : List UInt8} {cause : Yaml.ScalarFault}
      (h : files.lookup path = .ok (.file bytes))
      (hbytes : document bytes = .error (.scalar cause)) :
      Breaks document files path (.scalar cause)
  | tooDeep {bytes : List UInt8} (h : files.lookup path = .ok (.file bytes))
      (hbytes : document bytes = .error .tooDeep) : Breaks document files path .tooDeep

variable {document : DocumentReader} {files : Files} {path : FilePath} {f : LoadFailure}

/-- A file that breaks off loading cannot be read, and this is not reported. -/
theorem Breaks.read_eq (h : Breaks document files path f) :
    read document files path = .error f ∧ f.isReported = false := by
  have hfault {bytes : List UInt8} {fault : Yaml.Fault}
      (hlookup : files.lookup path = .ok (.file bytes))
      (hbytes : document bytes = .error fault) :
      read document files path = .error (failure path fault) := by
    unfold read ofBytes
    simp only [hlookup, hbytes]
  cases h with
  | longPath h =>
    unfold read
    rw [h]
    exact ⟨rfl, rfl⟩
  | directory h =>
    unfold read
    rw [h]
    exact ⟨rfl, rfl⟩
  | notText h hbytes => exact ⟨hfault h hbytes, rfl⟩
  | scalar h hbytes => exact ⟨hfault h hbytes, rfl⟩
  | tooDeep h hbytes => exact ⟨hfault h hbytes, rfl⟩

/-- A file that cannot be read breaks off loading, unless this is reported. -/
theorem breaks_of_read (hread : read document files path = .error f)
    (hreported : f.isReported = false) : Breaks document files path f := by
  unfold read at hread
  split at hread
  · next hlookup =>
    cases hread
    exact .longPath hlookup
  · cases hread
  · next hlookup =>
    cases hread
    exact .directory hlookup
  · next bytes hlookup =>
    unfold ofBytes at hread
    split at hread
    · unfold entriesOf at hread
      split at hread
      · cases hread
      · split at hread
        · cases hread
        · cases hread
          cases hreported
    · next fault hfault =>
      cases hread
      cases fault with
      | notText => exact .notText hlookup hfault
      | malformed => cases hreported
      | scalar cause => exact .scalar hlookup hfault
      | tooDeep => exact .tooDeep hlookup hfault

/-- A file breaks off loading exactly when it cannot be read and this is not reported. -/
theorem breaks_iff :
    Breaks document files path f ↔ read document files path = .error f ∧ f.isReported = false :=
  ⟨Breaks.read_eq, fun h => breaks_of_read h.1 h.2⟩

end ConfigFile

namespace SettingSources

/-- The file that a project is configured by: its own, or the one in its place. -/
def mainFile (s : SettingSources) : FilePath :=
  s.explicitFile.getD s.projectFile

/-- The file that a project is configured by breaks off loading exactly when it gives no entries and
this is not reported. -/
theorem breaks_mainFile_iff {s : SettingSources} {f : LoadFailure} :
    ConfigFile.Breaks s.readers.document s.files s.mainFile f ↔
      s.projectEntries = .error f ∧ f.isReported = false := by
  rw [ConfigFile.breaks_iff]
  unfold mainFile projectEntries readFile
  cases hexplicit : s.explicitFile with
  | none => rfl
  | some path =>
    dsimp only [Option.getD_some]
    unfold ConfigFile.read
    cases s.files.lookup path with
    | ok entry => rfl
    | error failure =>
      -- A file that is missing gives no entries where it may be missing, and a report where not.
      cases failure with
      | invalid fault =>
        cases fault with
        | tooLong => rfl
        | zeroCharacter => cases f <;> simp [LoadFailure.isReported]
      | _ => cases f <;> simp [LoadFailure.isReported]

end SettingSources

/-! ### Homes -/

/-- Whether a text names a file below a home directory that does not exist. -/
def Homes.Lacks (homes : Homes) (text : String) : Prop :=
  text ≠ "stderr" ∧ text ≠ "stdout" ∧ (FilePath.ofText text).expand homes = .error .unknown

/-- Whether what is given for an output of the log sends it below such a directory. -/
def LogOutput.IsHomeless (c : Coercion) (homes : Homes) (v : Value) : Prop :=
  ∃ members d text, v.opened = .map members ∧ Entries.field? members "destination" = some d ∧
    c.text d = .ok text ∧ homes.Lacks text

/-- Whether entries give such an output. -/
def Entries.HasHomeless (c : Coercion) (homes : Homes) (es : Entries) : Prop :=
  ∃ v items item, es.setting? "logging" "outputs" = some v ∧ c.items v = .ok items ∧
    item ∈ items ∧ LogOutput.IsHomeless c homes item

section Homeless

open Checked

variable {c : Coercion} {homes : Homes} {v : Value} {es : Entries}

/-- A text breaks off a check exactly when it names a file below a home directory that does not
exist. -/
theorem Check.destinationOf_eq_homeless_iff {text : String} :
    Check.destinationOf homes v text = .homeless ↔ homes.Lacks text := by
  unfold Check.destinationOf Homes.Lacks
  split
  · simp_all
  · split
    · simp_all
    · split
      · simp_all
      · simp_all [Checked.issue]
      · split <;> simp_all [Checked.issue]

/-- A destination breaks off its check exactly when it counts as such a text. -/
theorem Check.destination_eq_homeless_iff :
    Check.destination c homes v = .homeless ↔ ∃ text, c.text v = .ok text ∧ homes.Lacks text := by
  unfold Check.destination Check.text
  simp only [andThen_eq_homeless_iff, Check.ofFound_ne_homeless, false_or,
    Check.ofFound_eq_accepted_iff, Check.destinationOf_eq_homeless_iff]

/-- Checking the severity of an output is never broken off. -/
theorem Check.severity?_ne_homeless : Check.severity? v ≠ .homeless := by
  unfold Check.severity?
  split
  · exact nofun
  · rw [Ne, map_eq_homeless_iff]
    exact (Check.word_decides _ _).ne_homeless

/-- Checking an output of the log is broken off exactly when it is homeless. -/
theorem LogOutput.check_eq_homeless_iff :
    LogOutput.check c homes v = .homeless ↔ LogOutput.IsHomeless c homes v := by
  have hformat (w : Value) : Check.format w ≠ .homeless := (Check.word_decides _ w).ne_homeless
  unfold LogOutput.check LogOutput.IsHomeless
  simp only [andThen_eq_homeless_iff, both_eq_homeless_iff, map_eq_homeless_iff,
    Check.group_ne_homeless, Check.group_eq_accepted_iff, Check.member_eq_homeless_iff, hformat,
    Check.severity?_ne_homeless, Check.destination_eq_homeless_iff, and_false, exists_false,
    false_or, or_false]
  constructor
  · rintro ⟨members, hmap, d, hd, text, htext, hlacks⟩
    exact ⟨members, d, text, hmap, hd, htext, hlacks⟩
  · rintro ⟨members, d, text, hmap, hd, htext, hlacks⟩
    exact ⟨members, hmap, d, hd, text, htext, hlacks⟩

/-- Checking the settings of the log is broken off exactly when one of its outputs is homeless. -/
theorem LoggingSettings.check_eq_homeless_iff :
    LoggingSettings.check c homes v = .homeless ↔
      ∃ ms w, v.opened = .map ms ∧ Entries.field? ms "outputs" = some w ∧
        ∃ items, c.items w = .ok items ∧ ∃ item ∈ items, LogOutput.IsHomeless c homes item := by
  have hseverity (w : Value) : Check.severity w ≠ .homeless := (Check.word_decides _ w).ne_homeless
  unfold LoggingSettings.check
  simp only [andThen_eq_homeless_iff, both_eq_homeless_iff, map_eq_homeless_iff,
    Check.group_ne_homeless, Check.group_eq_accepted_iff, Check.member_eq_homeless_iff, hseverity,
    Check.listOf_eq_homeless_iff, LogOutput.check_eq_homeless_iff, and_false, exists_false,
    false_or, exists_and_left]

/-- Checking the settings of resolving cursors is never broken off. -/
theorem ResolverSettings.check_ne_homeless : ResolverSettings.check c v ≠ .homeless := by
  have hmember (t : ScalarSetting) (es : Entries) (name : String) (a : t.Content) :
      Check.member es name a (t.check c) ≠ .homeless := by
    rw [Ne, Check.member_eq_homeless_iff]
    rintro ⟨w, -, hw⟩
    exact (t.check_decides c w).ne_homeless hw
  unfold ResolverSettings.check
  simp only [Ne, andThen_eq_homeless_iff, both_eq_homeless_iff, map_eq_homeless_iff,
    Check.group_ne_homeless, false_or, not_exists, not_and, not_or]
  exact fun es _ => ⟨⟨⟨hmember .language es _ _, hmember .noteSeparator es _ _⟩,
    hmember .acceptPartialTrees es _ _⟩, hmember .maxFileSizeKb es _ _⟩

/-- Checking settings is broken off exactly when an output of the log goes to the home directory of
nobody. -/
theorem Settings.check_eq_homeless_iff :
    Settings.check c homes (.map es) = .homeless ↔ es.HasHomeless c homes := by
  unfold Settings.check Entries.HasHomeless
  simp only [andThen_eq_homeless_iff, both_eq_homeless_iff, map_eq_homeless_iff,
    Check.group_ne_homeless, Check.group_eq_accepted_iff, Check.member_eq_homeless_iff,
    LoggingSettings.check_eq_homeless_iff, ResolverSettings.check_ne_homeless, and_false,
    exists_false, false_or, or_false, Entries.setting?_eq_some_iff, Value.opened, Value.map.injEq]
  constructor
  · rintro ⟨_, rfl, w, hw, ms, v, hms, hv, items, hitems, item, hitem, hhomeless⟩
    exact ⟨v, items, item, ⟨w, ms, hw, hms, hv⟩, hitems, hitem, hhomeless⟩
  · rintro ⟨v, items, item, ⟨w, ms, hw, hms, hv⟩, hitems, hitem, hhomeless⟩
    exact ⟨es, rfl, w, hw, ms, v, hms, hv, items, hitems, item, hitem, hhomeless⟩

end Homeless

/-! ### All sources -/

/-- How entries from sources break off loading. -/
inductive Entries.Breaks (s : SettingSources) (es : Entries) : LoadFailure → Prop
  | unnamed (h : ¬ es.AreNamed) : Breaks s es .unnamed
  | homeless (hnamed : es.AreNamed) (h : es.HasHomeless s.readers.coercion s.homes) :
      Breaks s es .homeless
  /-- The first issue is one with a value that cannot be shown. -/
  | unshown {first : Issue} {others : List Issue} {fault : Value.WritingFault}
      (hnamed : es.AreNamed)
      (h : Settings.checkStrict s.readers.coercion s.homes es = .rejected first others)
      (hfault : first.input.textFault? s.stack.messages = some fault) :
      Breaks s es (.ofWriting fault)

/-- That a value cannot be shown is not reported. -/
theorem LoadFailure.isReported_ofWriting (fault : Value.WritingFault) :
    (ofWriting fault).isReported = false := by
  cases fault <;> rfl

/-- That variables cannot be read is not reported. -/
theorem LoadFailure.isReported_ofVariables (fault : VariableFault) :
    (ofVariables fault).isReported = false := by
  cases fault <;> rfl

namespace Settings

variable {s : SettingSources} {es : Entries} {f : LoadFailure} {levels : Nat} {first : Issue}

/-- Checking entries strictly is broken off as checking them is. -/
theorem checkStrict_eq_homeless_iff {c : Coercion} {homes : Homes} :
    checkStrict c homes es = .homeless ↔ es.HasHomeless c homes := by
  unfold checkStrict
  rw [Checked.both_eq_homeless_iff, Checked.map_eq_homeless_iff, check_eq_homeless_iff]
  exact or_iff_left (Checked.ofIssues_ne_homeless _ _)

/-- An issue is a failure without a report exactly when its value cannot be shown. -/
theorem failure_unreported_iff :
    failure levels first = f ∧ f.isReported = false ↔
      ∃ fault, first.input.textFault? levels = some fault ∧ .ofWriting fault = f := by
  unfold failure
  cases hfault : first.input.textFault? levels with
  | none =>
    refine iff_of_false ?_ (by rintro ⟨fault, h, -⟩; cases h)
    rintro ⟨rfl, h⟩
    cases h
  | some fault =>
    constructor
    · rintro ⟨rfl, -⟩
      exact ⟨fault, rfl, rfl⟩
    · rintro ⟨_, h, rfl⟩
      cases h
      exact ⟨rfl, LoadFailure.isReported_ofWriting fault⟩

/-- Entries break off loading exactly when they give no settings and this is not reported. -/
theorem breaks_iff : es.Breaks s f ↔ ofEntries s es = .error f ∧ f.isReported = false := by
  unfold ofEntries
  constructor
  · intro h
    cases h with
    | unnamed h =>
      rw [← all_isNamed_iff] at h
      rw [if_neg h]
      exact ⟨rfl, rfl⟩
    | homeless hnamed h =>
      rw [if_pos (all_isNamed_iff.mpr hnamed), checkStrict_eq_homeless_iff.mpr h]
      exact ⟨rfl, rfl⟩
    | unshown hnamed h hfault =>
      obtain ⟨hfailure, hreported⟩ := failure_unreported_iff.mpr ⟨_, hfault, rfl⟩
      rw [if_pos (all_isNamed_iff.mpr hnamed), h, ofChecked, hfailure]
      exact ⟨rfl, hreported⟩
  · rintro ⟨h, hreported⟩
    split at h
    · next hnamed =>
      have hnames := all_isNamed_iff.mp hnamed
      cases hcheck : checkStrict s.readers.coercion s.homes es with
      | accepted settings =>
        rw [hcheck] at h
        cases h
      | homeless =>
        rw [hcheck] at h
        cases h
        exact .homeless hnames (checkStrict_eq_homeless_iff.mp hcheck)
      | rejected first others =>
        rw [hcheck] at h
        obtain ⟨fault, hfault, rfl⟩ :=
          failure_unreported_iff.mp ⟨Except.error.inj h, hreported⟩
        exact .unshown hnames hcheck hfault
    · next hnamed =>
      cases h
      exact .unnamed ((not_congr all_isNamed_iff).mp hnamed)

/-- Settings that entries give are what the entries are checked to. -/
theorem check_of_ofEntries {settings : Settings} (h : ofEntries s es = .ok settings) :
    Settings.check s.readers.coercion s.homes (.map es) = .accepted settings := by
  unfold ofEntries at h
  split at h
  · cases hcheck : checkStrict s.readers.coercion s.homes es with
    | accepted accepted =>
      rw [hcheck] at h
      cases h
      obtain ⟨_, _, hmap, -, rfl⟩ := Checked.both_eq_accepted_iff.mp hcheck
      obtain ⟨checked, hchecked, rfl⟩ := Checked.map_eq_accepted_iff.mp hmap
      exact hchecked
    | homeless =>
      rw [hcheck] at h
      cases h
    | rejected first others =>
      rw [hcheck] at h
      cases h
  · cases h

/-- Settings that entries give are the same when they are read back. -/
theorem readBack_of_ofEntries {settings : Settings} (h : ofEntries s es = .ok settings) :
    readBack s.readers.coercion s.homes settings = .ok settings :=
  readBack_of_check (check_of_ofEntries h)

end Settings

namespace SettingSources

variable {s : SettingSources} {f : LoadFailure}

/-- If the files and the variables can be read, so can all sources. -/
theorem exists_gives {files environment : Entries} (hfiles : s.fileEntries = .ok files)
    (h : s.readers.environment s.overrides.naming s.environment = .ok environment) :
    ∃ e, s.Gives e := by
  obtain ⟨project, hproject, hfiles⟩ := bind_eq_ok_iff.mp hfiles
  obtain ⟨user, huser, -⟩ := bind_eq_ok_iff.mp hfiles
  exact ⟨⟨s.overrides.entries, environment, project, user⟩, rfl, h, hproject, huser⟩

/-- The sources have entries together exactly when each can be read and they can be put
together. -/
theorem merged_eq_ok_iff {es : Entries} :
    s.merged = .ok es ↔ ∃ e, s.Gives e ∧ e.merged? s.stack = some es := by
  constructor
  · intro h
    obtain ⟨files, hfiles, hrest⟩ := bind_eq_ok_iff.mp h
    obtain ⟨environment, henvironment, -⟩ := bind_eq_ok_iff.mp hrest
    obtain ⟨e, hgives⟩ := exists_gives hfiles (mapError_eq_ok_iff.mp henvironment)
    rw [hgives.merged_eq] at h
    split at h
    · next hes =>
      cases h
      exact ⟨e, hgives, hes⟩
    · cases h
  · rintro ⟨e, hgives, hes⟩
    rw [hgives.merged_eq, hes]

/-- The files have no entries together exactly when one of them cannot be read, the project's first,
or they lie too deep to be put together. -/
theorem fileEntries_eq_error_iff :
    s.fileEntries = .error f ↔
      s.projectEntries = .error f ∨
        ∃ project, s.projectEntries = .ok project ∧
          (s.readFile s.userFile = .error f ∨
            ∃ user, s.readFile s.userFile = .ok user ∧
              Entries.merge? s.stack.files user project = none ∧ f = .tooDeep) := by
  refine bind_eq_error_iff.trans (or_congr_right ?_)
  refine exists_congr fun project => and_congr_right fun _ => ?_
  refine bind_eq_error_iff.trans (or_congr_right ?_)
  exact exists_congr fun user => and_congr_right fun _ => laid_eq_error_iff

/-- The sources have no entries together exactly when the files have none, the variables cannot be
read, or all of them lie too deep to be put together. -/
theorem merged_eq_error_iff :
    s.merged = .error f ↔
      s.fileEntries = .error f ∨
        (∃ files fault, s.fileEntries = .ok files ∧
          s.readers.environment s.overrides.naming s.environment = .error fault ∧
            .ofVariables fault = f) ∨
        ∃ e, s.Gives e ∧ e.merged? s.stack = none ∧ f = .tooDeep := by
  constructor
  · intro h
    rcases bind_eq_error_iff.mp h with hfiles | ⟨files, hfiles, hrest⟩
    · exact .inl hfiles
    · rcases bind_eq_error_iff.mp hrest with hvariables | ⟨environment, henvironment, -⟩
      · obtain ⟨fault, hfault, hf⟩ := mapError_eq_error_iff.mp hvariables
        exact .inr (.inl ⟨files, fault, hfiles, hfault, hf⟩)
      · obtain ⟨e, hgives⟩ := exists_gives hfiles (mapError_eq_ok_iff.mp henvironment)
        rw [hgives.merged_eq] at h
        split at h
        · cases h
        · next hnone =>
          cases h
          exact .inr (.inr ⟨e, hgives, hnone, rfl⟩)
  · rintro (hfiles | ⟨files, fault, hfiles, hfault, hf⟩ | ⟨e, hgives, hnone, rfl⟩)
    · exact bind_eq_error_iff.mpr (.inl hfiles)
    · refine bind_eq_error_iff.mpr (.inr ⟨files, hfiles, bind_eq_error_iff.mpr (.inl ?_)⟩)
      exact mapError_eq_error_iff.mpr ⟨fault, hfault, hf⟩
    · rw [hgives.merged_eq, hnone]

/-- Loading fails in one of its steps: putting the sources together, or checking what they give. -/
theorem load_eq_error_iff :
    Settings.load s = .error f ↔
      s.merged = .error f ∨
        ∃ e es, s.Gives e ∧ e.merged? s.stack = some es ∧ Settings.ofEntries s es = .error f := by
  refine bind_eq_error_iff.trans (or_congr_right ?_)
  -- Settings that were accepted can be read back, so the last step adds no failure.
  have hchecked (es : Entries) :
      (Settings.ofEntries s es >>= Settings.readBack s.readers.coercion s.homes) = .error f ↔
        Settings.ofEntries s es = .error f := by
    refine bind_eq_error_iff.trans (or_iff_left ?_)
    rintro ⟨settings, hsettings, h⟩
    rw [Settings.readBack_of_ofEntries hsettings] at h
    cases h
  constructor
  · rintro ⟨es, hes, h⟩
    obtain ⟨e, hgives, hmerged⟩ := merged_eq_ok_iff.mp hes
    exact ⟨e, es, hgives, hmerged, (hchecked es).mp h⟩
  · rintro ⟨e, es, hgives, hmerged, h⟩
    exact ⟨es, merged_eq_ok_iff.mpr ⟨e, hgives, hmerged⟩, (hchecked es).mpr h⟩

/-- How loading is broken off. -/
inductive Breaks (s : SettingSources) : LoadFailure → Prop
  | project {f : LoadFailure}
      (h : ConfigFile.Breaks s.readers.document s.files s.mainFile f) : Breaks s f
  | user {f : LoadFailure} {project : Entries} (hproject : s.projectEntries = .ok project)
      (h : ConfigFile.Breaks s.readers.document s.files s.userFile f) : Breaks s f
  /-- The two files lie too deep to be put together. -/
  | files {project user : Entries} (hproject : s.projectEntries = .ok project)
      (huser : s.readFile s.userFile = .ok user)
      (h : Entries.merge? s.stack.files user project = none) : Breaks s .tooDeep
  | environment {files : Entries} {fault : VariableFault} (hfiles : s.fileEntries = .ok files)
      (h : s.readers.environment s.overrides.naming s.environment = .error fault) :
      Breaks s (.ofVariables fault)
  /-- The sources lie too deep to be put together. -/
  | sources {e : SourceEntries} (hgives : s.Gives e) (h : e.merged? s.stack = none) :
      Breaks s .tooDeep
  | entries {f : LoadFailure} {e : SourceEntries} {es : Entries} (hgives : s.Gives e)
      (hes : e.merged? s.stack = some es) (h : es.Breaks s f) : Breaks s f

/-- If the files have no entries together and this is not reported, loading is broken off. -/
theorem breaks_of_fileEntries (h : s.fileEntries = .error f) (hreported : f.isReported = false) :
    s.Breaks f := by
  rcases fileEntries_eq_error_iff.mp h with
    hproject | ⟨project, hproject, huser | ⟨user, huser, hnone, rfl⟩⟩
  · exact .project (breaks_mainFile_iff.mpr ⟨hproject, hreported⟩)
  · exact .user hproject (ConfigFile.breaks_iff.mpr ⟨huser, hreported⟩)
  · exact .files hproject huser hnone

/-- What breaks off loading is a failure without a report, and all such failures are listed. -/
theorem breaks_iff : s.Breaks f ↔ Settings.load s = .error f ∧ f.isReported = false := by
  rw [load_eq_error_iff, merged_eq_error_iff]
  constructor
  · intro h
    cases h with
    | project h =>
      obtain ⟨hproject, hreported⟩ := breaks_mainFile_iff.mp h
      exact ⟨.inl (.inl (fileEntries_eq_error_iff.mpr (.inl hproject))), hreported⟩
    | user hproject h =>
      obtain ⟨huser, hreported⟩ := ConfigFile.breaks_iff.mp h
      exact ⟨.inl (.inl (fileEntries_eq_error_iff.mpr (.inr ⟨_, hproject, .inl huser⟩))), hreported⟩
    | files hproject huser h =>
      exact ⟨.inl (.inl (fileEntries_eq_error_iff.mpr
        (.inr ⟨_, hproject, .inr ⟨_, huser, h, rfl⟩⟩))), rfl⟩
    | environment hfiles h =>
      exact ⟨.inl (.inr (.inl ⟨_, _, hfiles, h, rfl⟩)), LoadFailure.isReported_ofVariables _⟩
    | sources hgives h => exact ⟨.inl (.inr (.inr ⟨_, hgives, h, rfl⟩)), rfl⟩
    | entries hgives hes h =>
      obtain ⟨hentries, hreported⟩ := Settings.breaks_iff.mp h
      exact ⟨.inr ⟨_, _, hgives, hes, hentries⟩, hreported⟩
  · rintro ⟨(hfiles | ⟨files, fault, hfiles, hfault, rfl⟩ | ⟨e, hgives, hnone, rfl⟩) |
      ⟨e, es, hgives, hes, h⟩, hreported⟩
    · exact breaks_of_fileEntries hfiles hreported
    · exact .environment hfiles hfault
    · exact .sources hgives hnone
    · exact .entries hgives hes (Settings.breaks_iff.mpr ⟨h, hreported⟩)

end SettingSources

/-! ### Running the command -/

namespace Command

variable {w : Workplace} {verbose : Bool} {r : ResolveRequest}

end Command

namespace SettingSources

end SettingSources

end Enclosure
