import Enclosure.Proofs.FilePath
import Enclosure.Proofs.Settings.Checked
import Enclosure.Proofs.Text.LowerCase
import Enclosure.Settings.Load

/-!
# Settings that are read back

Settings that were accepted are in a normal form: the language is trimmed and in lower case, and log
files are given by paths in normal form. Settings in normal form are accepted as they are, so
reading back what was accepted never fails.
-/

set_option autoImplicit false

namespace Enclosure

variable {c : Coercion} {homes : Homes} {v : Value}

/-! ### Normal form -/

/-- Whether a log file is given by an absolute path in normal form. -/
def Destination.IsNormal : Destination → Prop
  | .file path => path.isAbsolute = true ∧ path.IsNormal
  | _ => True

/-- Whether settings are as checking leaves them. -/
structure Settings.IsNormal (s : Settings) : Prop where
  language : LowerCase.lower (Blank.trim s.resolver.language) = s.resolver.language
  outputs : ∀ o ∈ s.logging.outputs, o.destination.IsNormal

namespace Check

/-- A text is accepted as a destination in normal form only. -/
theorem isNormal_of_destinationOf {text : String} {d : Destination}
    (h : destinationOf homes v text = .accepted d) : d.IsNormal := by
  unfold destinationOf at h
  split at h
  · rw [Checked.accepted.injEq] at h
    rw [← h]
    trivial
  · split at h
    · rw [Checked.accepted.injEq] at h
      rw [← h]
      trivial
    · split at h
      · cases h
      · cases h
      · next path hpath =>
        split at h
        · next habsolute =>
          rw [Checked.accepted.injEq] at h
          rw [← h]
          exact ⟨habsolute, (FilePath.isNormal_ofText text).of_expand hpath⟩
        · cases h

/-- A value is accepted as a destination in normal form only. -/
theorem isNormal_of_destination {d : Destination} (h : destination c homes v = .accepted d) :
    d.IsNormal := by
  obtain ⟨text, -, htext⟩ := Checked.andThen_eq_accepted_iff.mp h
  exact isNormal_of_destinationOf htext

/-- A language that is accepted is trimmed and in lower case. -/
theorem lower_trim_of_language {s : String} (h : language c v = .accepted s) :
    LowerCase.lower (Blank.trim s) = s := by
  obtain ⟨text, -, rfl⟩ := Checked.map_eq_accepted_iff.mp h
  exact LowerCase.lower_trim_lower_trim text

end Check

/-- The destination of an output that is accepted is in normal form. -/
theorem LogOutput.isNormal_of_check {o : LogOutput} (h : LogOutput.check c homes v = .accepted o) :
    o.destination.IsNormal := by
  obtain ⟨entries, -, -, hdestination, -⟩ := LogOutput.check_eq_accepted_iff.mp h
  rcases Check.member_eq_accepted_iff.mp hdestination with ⟨-, hdefault⟩ | ⟨w, -, hcheck⟩
  · rw [← hdefault]
    trivial
  · exact Check.isNormal_of_destination hcheck

/-- The destinations of all outputs that are accepted are in normal form. -/
theorem LoggingSettings.isNormal_of_check {s : LoggingSettings}
    (h : LoggingSettings.check c homes v = .accepted s) :
    ∀ o ∈ s.outputs, o.destination.IsNormal := by
  obtain ⟨entries, -, -, houtputs⟩ := LoggingSettings.check_eq_accepted_iff.mp h
  intro o ho
  rcases Check.member_eq_accepted_iff.mp houtputs with ⟨-, hdefault⟩ | ⟨w, -, hcheck⟩
  · rw [← hdefault] at ho
    rw [List.mem_singleton.mp ho]
    trivial
  · obtain ⟨u, hu⟩ := Check.exists_of_mem_listOf hcheck ho
    exact LogOutput.isNormal_of_check hu

/-- The language of settings that are accepted is trimmed and in lower case. -/
theorem ResolverSettings.lower_trim_of_check {s : ResolverSettings}
    (h : ResolverSettings.check c v = .accepted s) :
    LowerCase.lower (Blank.trim s.language) = s.language := by
  obtain ⟨entries, -, hlanguage, -⟩ := ResolverSettings.check_eq_accepted_iff.mp h
  rcases Check.member_eq_accepted_iff.mp hlanguage with ⟨-, hdefault⟩ | ⟨w, -, hcheck⟩
  · rw [← hdefault]
    decide +kernel
  · exact Check.lower_trim_of_language hcheck

/-- Settings that are accepted are in normal form. -/
theorem Settings.isNormal_of_check {s : Settings} (h : Settings.check c homes v = .accepted s) :
    s.IsNormal := by
  obtain ⟨entries, -, hlogging, hresolver⟩ := Settings.check_eq_accepted_iff.mp h
  constructor
  · rcases Check.member_eq_accepted_iff.mp hresolver with ⟨-, hdefault⟩ | ⟨w, -, hcheck⟩
    · rw [← hdefault]
      decide +kernel
    · exact ResolverSettings.lower_trim_of_check hcheck
  · rcases Check.member_eq_accepted_iff.mp hlogging with ⟨-, hdefault⟩ | ⟨w, -, hcheck⟩
    · rw [← hdefault]
      intro o ho
      rw [List.mem_singleton.mp ho]
      trivial
    · exact LoggingSettings.isNormal_of_check hcheck

/-! ### Reading back -/

namespace Check

/-- A text is taken as it is. -/
theorem text_str (s : String) : text c (.str s) = .accepted s := by
  unfold text
  rw [c.text_str]
  rfl

/-- A truth value is taken as it is. -/
theorem truth_bool (b : Bool) : truth c (.bool b) = .accepted b := by
  unfold truth
  rw [c.truth_bool]
  rfl

/-- A severity is accepted by its word. -/
theorem severity_setting (s : Severity) : severity (.str s.setting) = .accepted s := by
  cases s <;> rfl

/-- A format is accepted by its word. -/
theorem format_setting (f : LogFormat) : format (.str f.setting) = .accepted f := by
  cases f <;> rfl

/-- A destination in normal form is accepted by its text, wherever home directories are. -/
theorem destination_text {d : Destination} (h : d.IsNormal) :
    destination c homes (.str d.text) = .accepted d := by
  unfold destination
  rw [text_str]
  cases d with
  | stderr => rfl
  | stdout => rfl
  | file path =>
    obtain ⟨rest, hrest⟩ := FilePath.exists_text_of_isAbsolute h.1
    have hstderr : path.text ≠ "stderr" := by
      intro heq
      rw [heq] at hrest
      cases hrest
    have hstdout : path.text ≠ "stdout" := by
      intro heq
      rw [heq] at hrest
      cases hrest
    have hexpand : (FilePath.ofText path.text).expand homes = .ok path := by
      rw [h.2.ofText_text h.1, FilePath.expand_of_isAbsolute h.1]
    show destinationOf homes _ path.text = _
    unfold destinationOf
    rw [if_neg hstderr, if_neg hstdout, hexpand]
    exact if_pos h.1

/-- A positive number is accepted as itself. -/
theorem positive_number (n : Positive) : positive c (.int n.number) = .accepted n := by
  have hofInt : Positive.ofInt? n.number = some n := dif_pos (Int.natCast_pos.mpr n.pos)
  unfold positive integer
  rw [c.integer_int]
  simp only [ofFound, Checked.andThen, hofInt]

end Check

/-- An output with a normal destination is what its mapping is checked to. -/
theorem LogOutput.check_toValue {o : LogOutput} (h : o.destination.IsNormal) :
    LogOutput.check c homes o.toValue = .accepted o := by
  rw [LogOutput.check_eq_accepted_iff]
  refine ⟨_, rfl, ?_, ?_, ?_⟩
  · rw [Check.member_of_field? rfl, Check.format_setting]
    rfl
  · rw [Check.member_of_field? rfl, Check.destination_text h]
    rfl
  · rw [Check.member_of_field? rfl]
    cases o.severity with
    | none => rfl
    | some s => cases s <;> rfl

/-- Settings of the log with normal destinations are what their mapping is checked to. -/
theorem LoggingSettings.check_toValue {s : LoggingSettings}
    (h : ∀ o ∈ s.outputs, o.destination.IsNormal) :
    LoggingSettings.check c homes s.toValue = .accepted s := by
  rw [LoggingSettings.check_eq_accepted_iff]
  refine ⟨_, rfl, ?_, ?_⟩
  · rw [Check.member_of_field? rfl, Check.severity_setting]
    rfl
  · have houtputs : Check.inTurn (LogOutput.check c homes) 0 (s.outputs.map LogOutput.toValue) =
        .accepted s.outputs :=
      Check.inTurn_map_of_forall 0 fun o ho => LogOutput.check_toValue (h o ho)
    rw [Check.member_of_field? rfl, Check.listOf, c.items_list]
    simp only [Check.ofFound, Checked.andThen]
    rw [houtputs]
    rfl

/-- Settings of resolving cursors with a settled language are what their mapping is checked to. -/
theorem ResolverSettings.check_toValue {s : ResolverSettings}
    (h : LowerCase.lower (Blank.trim s.language) = s.language) :
    ResolverSettings.check c s.toValue = .accepted s := by
  rw [ResolverSettings.check_eq_accepted_iff]
  refine ⟨_, rfl, ?_, ?_, ?_, ?_⟩
  · have hlanguage : Check.language c (.str s.language) = .accepted s.language := by
      unfold Check.language
      rw [Check.text_str]
      exact congrArg Checked.accepted h
    rw [Check.member_of_field? rfl, hlanguage]
    rfl
  · rw [Check.member_of_field? rfl, Check.text_str]
    rfl
  · rw [Check.member_of_field? rfl, Check.truth_bool]
    rfl
  · rw [Check.member_of_field? rfl, Check.positive_number]
    rfl

/-- Settings in normal form are accepted as they are. -/
theorem Settings.check_toValue {s : Settings} (h : s.IsNormal) :
    Settings.check c homes s.toValue = .accepted s := by
  rw [Settings.check_eq_accepted_iff]
  refine ⟨_, rfl, ?_, ?_⟩
  · rw [Check.member_of_field? rfl, LoggingSettings.check_toValue h.outputs]
    rfl
  · rw [Check.member_of_field? rfl, ResolverSettings.check_toValue h.language]
    rfl

/-- Reading back settings that were accepted gives these settings. -/
theorem Settings.readBack_of_check {s : Settings} (h : Settings.check c homes v = .accepted s) :
    Settings.readBack c homes s = .ok s := by
  unfold Settings.readBack
  rw [Settings.check_toValue (Settings.isNormal_of_check h)]

end Enclosure
