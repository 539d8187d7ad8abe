import Enclosure.Proofs.Settings.Failures

/-!
# Settings that are loaded are settled

Reading settings back, the last step of loading them, neither fails nor changes anything: loading
ends where the merged entries are checked. Settings that were loaded are what their own mapping is
checked to, with a positive limit, a language that is trimmed and in lower case, and log files at
absolute paths in normal form.
-/

set_option autoImplicit false

namespace Enclosure

namespace Destination

/-- Whether a text names one of the two streams, or is that of an absolute path in normal form,
which then starts with a slash and so with no tilde. -/
def IsSettledText (text : String) : Prop :=
  text = "stderr" ∨ text = "stdout" ∨
    ∃ path : FilePath, path.isAbsolute = true ∧ path.IsNormal ∧ path.text = text ∧
      FilePath.ofText text = path ∧ text.toList.head? ≠ some '~'

/-- The text of a destination that was accepted is settled. -/
theorem IsNormal.isSettledText {d : Destination} (h : d.IsNormal) : IsSettledText d.text := by
  cases d with
  | stderr => exact .inl rfl
  | stdout => exact .inr (.inl rfl)
  | file path =>
    obtain ⟨habsolute, hnormal⟩ := h
    have hslash : path.text.toList.head? ≠ some '~' := by
      obtain ⟨rest, hrest⟩ := FilePath.exists_text_of_isAbsolute habsolute
      simp [hrest]
    exact .inr (.inr ⟨path, habsolute, hnormal, rfl, hnormal.ofText_text habsolute, hslash⟩)

end Destination

namespace Settings

variable {s : SettingSources} {settings : Settings}

/-- Loading ends where the merged entries are checked. -/
theorem load_eq_bind_ofEntries (s : SettingSources) : load s = s.merged >>= ofEntries s := by
  unfold load
  cases s.merged with
  | error f => rfl
  | ok es =>
    show (ofEntries s es).bind (readBack s.readers.coercion s.homes) = ofEntries s es
    cases hentries : ofEntries s es with
    | error f => rfl
    | ok settings => exact readBack_of_ofEntries hentries

/-- Settings that were loaded are given by the merged entries. -/
theorem exists_entries_of_load (h : load s = .ok settings) :
    ∃ es, s.merged = .ok es ∧ ofEntries s es = .ok settings := by
  rw [load_eq_bind_ofEntries] at h
  exact bind_eq_ok_iff.mp h

/-- The language of settings that were accepted is in lower case. -/
theorem IsNormal.lower_language (h : settings.IsNormal) :
    LowerCase.lower settings.resolver.language = settings.resolver.language := by
  calc LowerCase.lower settings.resolver.language
      = LowerCase.lower (LowerCase.lower (Blank.trim settings.resolver.language)) := by
        rw [h.language]
    _ = LowerCase.lower (Blank.trim settings.resolver.language) := LowerCase.lower_lower _
    _ = settings.resolver.language := h.language

/-- The language of settings that were accepted is trimmed. -/
theorem IsNormal.trim_language (h : settings.IsNormal) :
    Blank.trim settings.resolver.language = settings.resolver.language := by
  calc Blank.trim settings.resolver.language
      = Blank.trim (LowerCase.lower (Blank.trim settings.resolver.language)) := by
        rw [h.language]
    _ = LowerCase.lower (Blank.trim settings.resolver.language) := LowerCase.trim_lower_trim _
    _ = settings.resolver.language := h.language

/-- The last step of loading settings succeeds on whatever was accepted before it and changes
nothing. Settings that were loaded are what their mapping is checked to, wherever home directories
are and however values are taken for those of another type; the limit is positive, the language
trimmed and in lower case, and every output goes to one of the two streams or to an absolute path in
normal form. -/
theorem load_settles (s : SettingSources) :
    load s = s.merged >>= ofEntries s ∧
      ∀ settings, load s = .ok settings →
        readBack s.readers.coercion s.homes settings = .ok settings ∧
        (∀ c homes, check c homes settings.toValue = .accepted settings) ∧
        0 < settings.resolver.maxFileSizeKb.number ∧
        Blank.trim settings.resolver.language = settings.resolver.language ∧
        LowerCase.lower settings.resolver.language = settings.resolver.language ∧
        ∀ o ∈ settings.logging.outputs, Destination.IsSettledText o.destination.text := by
  refine ⟨load_eq_bind_ofEntries s, ?_⟩
  intro settings hload
  obtain ⟨es, -, hentries⟩ := exists_entries_of_load hload
  have hnormal := isNormal_of_check (check_of_ofEntries hentries)
  refine ⟨readBack_of_ofEntries hentries, ?_, settings.resolver.maxFileSizeKb.pos,
    hnormal.trim_language, hnormal.lower_language, ?_⟩
  · intro c homes
    exact check_toValue hnormal
  · intro o ho
    exact (hnormal.outputs o ho).isSettledText

/-- A log file below the home directory, and a language with a letter whose lower case is two. -/
theorem load_settles_homePath :
    let output : Value := .map [(.str "destination", .str "~//log/./a.log/")]
    let s : SettingSources := .ofUser "resolver:\n  max_file_size_kb: '0_8'\n" []
      [(.str "logging", .map [(.str "outputs", .list [output])]),
        (.str "resolver", .map [(.str "language", .str " SW\u0130FT\n")])]
    let file : Destination := .file (.ofText "/home/log/a.log")
    let settings : Settings := ⟨⟨.warning, [⟨.console, file, none⟩]⟩,
      ⟨"swi\u0307ft", "\n", false, ⟨8, by decide⟩⟩⟩
    load s = .ok settings ∧ readBack s.readers.coercion s.homes settings = .ok settings ∧
      Blank.trim "swi\u0307ft" = "swi\u0307ft" ∧ LowerCase.lower "swi\u0307ft" = "swi\u0307ft" ∧
      Destination.IsSettledText "/home/log/a.log" := by
  intro output s file settings
  have hload : load s = .ok settings := by
    have hsome : (load s).toOption = some settings := by decide +kernel
    cases hresult : load s with
    | error f =>
      rw [hresult] at hsome
      cases hsome
    | ok loaded =>
      rw [hresult] at hsome
      exact congrArg Except.ok (Option.some.inj hsome)
  obtain ⟨hread, -, -, htrim, hlower, houtputs⟩ := (load_settles s).2 settings hload
  have hfile : file.text = "/home/log/a.log" := by decide
  exact ⟨hload, hread, htrim, hlower, hfile ▸ houtputs _ (List.mem_singleton.mpr rfl)⟩

end Settings

end Enclosure
