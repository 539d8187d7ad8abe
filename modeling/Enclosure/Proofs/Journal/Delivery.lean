import Enclosure.Proofs.Journal.Opening

/-!
# What reaches an output

Logging changes neither the threshold nor the outputs of a journal that has been set up. So at any
later time an entry gets to an output by its own severity, the threshold and the severity of that
output, whatever the other outputs are.
-/

set_option autoImplicit false

namespace Enclosure

namespace Journal

variable {f : Files} {j opened : Journal} {threshold : Severity}

/-! ### Writing -/

/-- What some lines add to a file. -/
def added (place : Location) (lines : List Written) : List UInt8 :=
  lines.flatMap fun w => if w.target = .file place then Utf8.encode w.text else []

/-- Writing a line only adds to files. -/
theorem grows_append (f : Files) (w : Written) : f.Grows (append f w) := by
  unfold append
  split
  · split
    · next hfile => exact Files.grows_put (.inr ⟨_, _, hfile, rfl⟩)
    · exact .refl f
  · exact .refl f

/-- A line adds its text to its own file and nothing to any other. -/
theorem entry_append {place : Location} {content : List UInt8} (w : Written)
    (hfile : f.entry? place = some (.file content)) :
    Files.entry? (append f w) place = some (.file (content ++ added place [w])) := by
  have hplace : place ≠ [] := by
    rintro rfl
    rw [Files.entry_nil] at hfile
    cases hfile
  unfold append added
  cases htarget : w.target with
  | stderr => simp [htarget, hfile]
  | stdout => simp [htarget, hfile]
  | file other =>
    by_cases hother : place = other
    · subst hother
      simp [htarget, hfile, Files.entry_put_self hplace]
    · cases hentry : f.entry? other with
      | none => simp [htarget, hentry, hfile, Ne.symm hother]
      | some entry =>
        cases entry with
        | directory => simp [htarget, hentry, hfile, Ne.symm hother]
        | file old => simp [htarget, hentry, hfile, Files.entry_put_of_ne hother, Ne.symm hother]

/-- Writing lines only adds to files. -/
theorem grows_foldl_append (lines : List Written) (f : Files) :
    f.Grows (lines.foldl append f) := by
  induction lines generalizing f with
  | nil => exact .refl f
  | cons w rest ih => exact (grows_append f w).trans (ih (append f w))

/-- Lines add their texts to their own files and nothing to any other. -/
theorem entry_foldl_append {place : Location} {content : List UInt8} (lines : List Written)
    (hfile : f.entry? place = some (.file content)) :
    Files.entry? (lines.foldl append f) place = some (.file (content ++ added place lines)) := by
  induction lines generalizing f content with
  | nil => rw [List.foldl_nil, added, List.flatMap_nil, List.append_nil, hfile]
  | cons w rest ih =>
    rw [List.foldl_cons, ih (entry_append w hfile), List.append_assoc]
    simp [added]

/-! ### Logging -/

/-- Logging an entry leaves the backend, the threshold and the outputs alone, and files only
grow. -/
theorem log_spec (j : Journal) (r : LogRecord) :
    (j.log r).2.backend = j.backend ∧ (j.log r).2.threshold = j.threshold ∧
      (j.log r).2.outputs = j.outputs ∧ j.files.Grows (j.log r).2.files :=
  ⟨rfl, rfl, rfl, grows_foldl_append (j.linesOf r) j.files⟩

/-- The journal after some entries. -/
def afterAll (j : Journal) (records : List LogRecord) : Journal :=
  records.foldl (fun j r => (j.log r).2) j

/-- Logging any number of entries leaves them alone as well. -/
theorem afterAll_spec (records : List LogRecord) (j : Journal) :
    (j.afterAll records).backend = j.backend ∧ (j.afterAll records).threshold = j.threshold ∧
      (j.afterAll records).outputs = j.outputs ∧ j.files.Grows (j.afterAll records).files := by
  induction records generalizing j with
  | nil => exact ⟨rfl, rfl, rfl, .refl _⟩
  | cons r rest ih =>
    obtain ⟨hbackend, hthreshold, houtputs, hgrows⟩ := log_spec j r
    obtain ⟨hbackends, hthresholds, hall, hrest⟩ := ih (j.log r).2
    exact ⟨hbackends.trans hbackend, hthresholds.trans hthreshold, hall.trans houtputs,
      hgrows.trans hrest⟩

/-- An entry reaches a severity when it is at least as severe. -/
theorem reaches_iff {s least : Severity} : reaches s least = true ↔ least.rank ≤ s.rank :=
  decide_eq_true_iff

/-- Once the journal has been set up, its filter lets through what reaches the threshold. -/
theorem passes_eq {s : Severity} (hthreshold : j.threshold = some threshold) :
    j.passes s = reaches s threshold := by
  rw [passes, hthreshold, Option.all_some, Bool.eq_iff_iff, j.backend.passes_iff, reaches_iff]

/-- An entry with names that are for fields is logged once the journal has been set up. -/
theorem logFields_of_threshold {bound fields : Entries} {severity : Severity}
    (hthreshold : j.threshold = some threshold)
    (hnames : LogRecord.nameFault? (!reaches severity threshold) bound fields = none)
    (event : Value) (time : String) :
    j.logFields bound fields event severity time =
      .ok (j.log (.own bound fields event severity time)) := by
  unfold logFields
  simp only [passes_eq hthreshold, hnames, hthreshold]
  rfl

/-- An entry of the program that is less severe than the threshold gets to no output, whether the
filter drops it or the journal does. -/
theorem linesOf_of_slight {r : LogRecord} (hthreshold : j.threshold = some threshold)
    (hne : j.outputs ≠ []) (hslight : ¬ threshold.rank ≤ r.severity.rank) : j.linesOf r = [] := by
  have hreceivers : j.receivers r.severity = [] := by
    rw [receivers, hthreshold, Option.getD_some, if_neg (mt reaches_iff.mp hslight)]
  unfold linesOf
  rw [hreceivers, List.isEmpty_eq_false_iff.mpr hne, if_neg Bool.false_ne_true, hthreshold,
    Option.isNone_some, Bool.false_and, if_neg Bool.false_ne_true, List.filterMap_nil, ite_self]

/-- An entry that reaches the threshold makes the lines of those that receive it. -/
theorem linesOf_of_reaches {r : LogRecord} (hthreshold : j.threshold = some threshold)
    (hne : j.outputs ≠ []) (hreaches : threshold.rank ≤ r.severity.rank) :
    j.linesOf r = (j.outputs.filter fun o => reaches r.severity o.severity).filterMap fun o =>
      (j.backend.text? o.format r.fields).map (line o.target) := by
  have hpasses : (!j.passes r.severity) = false := by
    rw [passes_eq hthreshold, reaches_iff.mpr hreaches, Bool.not_true]
  unfold linesOf
  rw [hpasses, Bool.and_false, if_neg Bool.false_ne_true, hthreshold, Option.isNone_some,
    Bool.false_and, if_neg Bool.false_ne_true, List.isEmpty_eq_false_iff.mpr hne,
    if_neg Bool.false_ne_true, receivers, hthreshold, Option.getD_some,
    if_pos (reaches_iff.mpr hreaches)]

/-- The lines of an entry, output by output. -/
theorem linesOf_of_outputs {outputs : List LogOutput} {targets : List LogTarget}
    (hthreshold : j.threshold = some threshold) (hne : j.outputs ≠ [])
    (houtputs : j.outputs = List.zipWith (openOutput threshold) outputs targets) (r : LogRecord) :
    j.linesOf r = (outputs.zip targets).filterMap fun (o, t) =>
      if threshold.rank ≤ r.severity.rank ∧
        (o.severity.getD threshold).rank ≤ r.severity.rank then
        (j.backend.text? o.format r.fields).map (line t)
      else none := by
  by_cases hreaches : threshold.rank ≤ r.severity.rank
  · rw [linesOf_of_reaches hthreshold hne hreaches, houtputs, ← List.map_uncurry_zip_eq_zipWith,
      List.filterMap_filter, List.filterMap_map]
    refine List.filterMap_congr ?_
    rintro ⟨o, t⟩ -
    by_cases hown : (o.severity.getD threshold).rank ≤ r.severity.rank
    · simp [openOutput, reaches_iff, hreaches, hown]
    · simp [openOutput, reaches_iff, hown]
  · rw [linesOf_of_slight hthreshold hne hreaches, eq_comm, List.filterMap_eq_nil_iff]
    rintro ⟨o, t⟩ -
    exact if_neg fun hboth => hreaches hboth.1

/-- Whatever filter and formats a journal has, and however much was logged before, an entry makes a
line for exactly those outputs whose own severity it reaches, provided that it reaches the
threshold: in the format of the output and where its destination leads to, whatever the other
outputs are. Files go on with their lines. Only an output whose format has no way to show the entry
gets no line of it. The destinations of settings that were accepted are normal. -/
theorem delivered {settings : LoggingSettings}
    (hnormal : ∀ o ∈ settings.outputs, o.destination.IsNormal)
    (hconfigure : j.configure settings = (none, opened)) :
    ∃ targets : List LogTarget, ∀ earlier : List LogRecord,
      let now := opened.afterAll earlier
      List.Forall₂ (fun o t => o.destination.LeadsTo now.files t) settings.outputs targets ∧
        ∀ (bound fields : Entries) (event : Value) (severity : Severity) (time : String),
          settings.outputs ≠ [] →
          LogRecord.nameFault? (!reaches severity settings.severity) bound fields = none →
          let r := LogRecord.own bound fields event severity time
          let lines := (settings.outputs.zip targets).filterMap fun (o, t) =>
            if settings.severity.rank ≤ severity.rank ∧
              (o.severity.getD settings.severity).rank ≤ severity.rank then
              (j.backend.text? o.format r.fields).map (line t)
            else none
          ∃ after, now.logFields bound fields event severity time = .ok (lines, after) ∧
            ∀ place content, now.files.entry? place = some (.file content) →
              after.files.entry? place = some (.file (content ++ added place lines)) := by
  obtain ⟨hbackend, hthreshold, -, targets, hleads, houtputs⟩ := openAll_spec hnormal hconfigure
  refine ⟨targets, fun earlier => ?_⟩
  obtain ⟨hbackends, hsame, hkept, hgrows⟩ := afterAll_spec earlier opened
  rw [List.nil_append] at houtputs
  rw [hthreshold] at hsame
  rw [houtputs] at hkept
  refine ⟨hleads.imp fun _ _ h => h.of_grows hgrows, ?_⟩
  intro bound fields event severity time hne hnames r lines
  have hopen : (opened.afterAll earlier).outputs ≠ [] := by
    rw [hkept, Ne, List.zipWith_eq_nil_iff]
    rintro (hnone | hnone)
    · exact hne hnone
    · rw [hnone] at hleads
      exact hne (List.forall₂_nil_right_iff.mp hleads)
  have hlines : (opened.afterAll earlier).linesOf r = lines := by
    rw [linesOf_of_outputs hsame hopen hkept r, hbackends, hbackend]
    rfl
  have hlog : (opened.afterAll earlier).log r =
      (lines, { opened.afterAll earlier with
        files := lines.foldl append (opened.afterAll earlier).files }) := by
    rw [log, hlines]
  refine ⟨_, (logFields_of_threshold hsame hnames event time).trans (congrArg _ hlog), ?_⟩
  intro place content hfile
  exact entry_foldl_append lines hfile

end Journal

/-- Settings under which errors go to a file of their own, and a stream asks for everything. -/
def LoggingSettings.errorsAside : LoggingSettings :=
  ⟨.info, [⟨.json, .file ⟨.single, ["logs".toList, "e.log".toList]⟩, some .error⟩,
    ⟨.console, .stdout, some .debug⟩]⟩

namespace Journal

/-- A warning goes to the stream alone; an error goes to the file as well. -/
theorem delivered_errorsAside :
    let place : Location := ["logs".toList, "e.log".toList]
    let shown := "\x7b\"event\": \"e\", \"level\": \"error\", \"timestamp\": \"now\"\x7d"
    ∃ opened, (initial .standard ⟨[], []⟩).configure .errorsAside = (none, opened) ∧
      (∃ after, opened.logFields [] [] (.str "e") .warning "now" =
        .ok ([line .stdout "now [warning] e"], after)) ∧
      ∃ after, opened.logFields [] [] (.str "e") .error "now" =
          .ok ([line (.file place) shown, line .stdout "now [error] e"], after) ∧
        after.files.entry? place = some (.file (Utf8.encode (shown ++ "\n"))) := by
  intro place shown
  have hnormal : ∀ o ∈ LoggingSettings.errorsAside.outputs, o.destination.IsNormal := by
    intro o ho
    simp only [LoggingSettings.errorsAside, List.mem_cons, List.not_mem_nil, or_false] at ho
    rcases ho with rfl | rfl
    · refine ⟨rfl, ?_⟩
      unfold FilePath.IsNormal
      decide
    · trivial
  let opened := ((initial .standard ⟨[], []⟩).configure .errorsAside).2
  have hconfigure : (initial .standard ⟨[], []⟩).configure .errorsAside = (none, opened) := rfl
  obtain ⟨targets, hall⟩ := delivered hnormal hconfigure
  obtain ⟨hleads, hlog⟩ := hall []
  have htargets : targets = [.file place, .stdout] := by
    cases hleads with
    | cons hfirst hrest =>
      cases hfirst with
      | file hfollow =>
        cases Except.ok.inj hfollow
        cases hrest with
        | cons hsecond hnone =>
          cases hsecond
          cases hnone
          rfl
  subst htargets
  obtain ⟨warned, hwarned, -⟩ := hlog [] [] (.str "e") .warning "now" (by decide) rfl
  obtain ⟨failed, hfailed, hfile⟩ := hlog [] [] (.str "e") .error "now" (by decide) rfl
  let shownFields (s : Severity) := (LogRecord.own [] [] (.str "e") s "now").fields
  have hwarning :
      LogBackend.standard.text? .console (shownFields .warning) = some "now [warning] e" := by
    decide +kernel
  have herror : LogBackend.standard.text? .console (shownFields .error) = some "now [error] e" := by
    decide +kernel
  have hjson : LogBackend.standard.text? .json (shownFields .error) = some shown := by
    decide +kernel
  have hboth : opened.logFields [] [] (.str "e") .error "now" =
      .ok ([line (.file place) shown, line .stdout "now [error] e"], failed) := by
    refine hfailed.trans ?_
    simp [LoggingSettings.errorsAside, initial, Severity.rank, shownFields, herror, hjson]
  have hlines := (Prod.mk.inj (Except.ok.inj (hfailed.symm.trans hboth))).1
  have hentry := hfile place [] rfl
  rw [hlines, List.nil_append] at hentry
  refine ⟨opened, hconfigure, ⟨warned, hwarned.trans ?_⟩, failed, hboth, hentry.trans ?_⟩
  · simp [LoggingSettings.errorsAside, initial, Severity.rank, shownFields, hwarning]
  · simp [added, line]

/-- An output asks for everything, and yet an entry of some severity does not get there, since the
threshold is higher. -/
theorem not_delivered_below_threshold :
    let settings : LoggingSettings := ⟨.warning, [⟨.json, .stderr, some .debug⟩]⟩
    Severity.debug.rank ≤ Severity.info.rank ∧
      ∃ opened, (initial .standard ⟨[], []⟩).configure settings = (none, opened) ∧
        ∃ after, opened.logFields [] [] (.str "hello") .info "now" = .ok ([], after) :=
  ⟨by decide, _, rfl, _, rfl⟩

end Journal

end Enclosure
