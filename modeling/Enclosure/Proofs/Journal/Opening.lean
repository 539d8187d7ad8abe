import Enclosure.Journal
import Enclosure.Proofs.Except
import Enclosure.Proofs.Files
import Enclosure.Proofs.Settings.ReadBack
import Mathlib.Data.List.Forall2

/-!
# Outputs that are opened

Opening the outputs of settings that were accepted gives one open output for each, and each writes
where its destination leads. A file lies where its path leads to: its directories are made, and it
is put there if it was not there.
-/

set_option autoImplicit false

namespace Enclosure

/-- Where a destination leads to: a stream, or a file that lies at the end of the path. -/
inductive Destination.LeadsTo (files : Files) : Destination → LogTarget → Prop
  | stderr : LeadsTo files .stderr .stderr
  | stdout : LeadsTo files .stdout .stdout
  | file {path : FilePath} {place : Location} {content : List UInt8}
      (hfollow : files.follow (files.startOf path) path.parts = .ok place)
      (hfile : files.entry? place = some (.file content)) :
      LeadsTo files (.file path) (.file place)

/-- A destination leads to the same target when files grow. -/
theorem Destination.LeadsTo.of_grows {f g : Files} {d : Destination} {t : LogTarget}
    (hleads : LeadsTo f d t) (hgrows : f.Grows g) : LeadsTo g d t := by
  cases hleads with
  | stderr => exact .stderr
  | stdout => exact .stdout
  | @file path place content hfollow hfile =>
    obtain ⟨more, hmore⟩ := hgrows.file hfile
    have hstart : g.startOf path = f.startOf path := by
      rw [Files.startOf, hgrows.working_eq, Files.startOf]
    refine .file ?_ hmore
    rw [hstart]
    exact Files.follow_of_grows hgrows hfollow

namespace Journal

variable {f g : Files} {j opened : Journal} {threshold : Severity}

/-- The name of a path to a file, if nothing is wrong with it, is gone to from a directory. -/
theorem next_name {path : FilePath} (hfault : nameFault? path = none) (directory : Location) :
    Files.next? directory path.name = some (placeIn directory path.name) := by
  rw [nameFault?, Option.or_eq_none_iff] at hfault
  have hlong : ¬ FilePath.isLongName path.name = true := by
    intro hlong
    rw [if_pos hlong] at hfault
    cases hfault.2
  unfold Files.next? placeIn
  rw [if_neg hlong]
  split
  · rfl
  · rfl

/-- A directory that was made leads to what lies under the name of a path. -/
theorem follow_name {path : FilePath} {directory : Location} (hparts : path.parts ≠ [])
    (hfault : nameFault? path = none) (hfollow : g.follow [] path.parent.parts = .ok directory)
    (hdirectory : g.entry? directory = some .directory) :
    g.follow [] path.parts = .ok (placeIn directory path.name) := by
  have hsplit : path.parts = path.parent.parts ++ [path.name] := by
    rw [FilePath.parent, FilePath.name, List.getLast?_eq_some_getLast hparts, Option.getD_some]
    exact (List.dropLast_append_getLast hparts).symm
  rw [hsplit]
  refine Files.follow_append hfollow (Files.follow_cons_iff.mpr ⟨hdirectory, ?_⟩)
  exact ⟨_, next_name hfault directory, rfl⟩

/-- A file that was opened lies where its path leads to. -/
theorem openFile_spec {path : FilePath} {place : Location} (habsolute : path.isAbsolute = true)
    (hopen : openFile f path = .ok (g, place)) :
    f.Grows g ∧ Destination.LeadsTo g (.file path) (.file place) := by
  unfold openFile at hopen
  obtain ⟨⟨made, directory⟩, hmake, hopen⟩ := bind_eq_ok_iff.mp hopen
  have habove : path.parent.isAbsolute = true := habsolute
  obtain ⟨hgrows, hfollow, hway⟩ :=
    Files.makeDirectories_spec habove (mapError_eq_ok_iff.mp hmake)
  have hdirectory := hway directory (List.prefix_refl directory)
  dsimp only at hopen
  split at hopen
  · cases hopen
  · next hfault =>
    by_cases hparts : path.parts = []
    · -- the root is a directory and cannot be opened
      rw [hparts, List.isEmpty_nil, if_pos rfl, Files.entry_nil] at hopen
      cases hopen
    · rw [List.isEmpty_eq_false_iff.mpr hparts, if_neg Bool.false_ne_true] at hopen
      have hplace := follow_name hparts hfault hfollow hdirectory
      split at hopen
      · cases hopen
      · next hfile =>
        cases hopen
        refine ⟨hgrows, .file ?_ hfile⟩
        rw [Files.startOf_of_isAbsolute habsolute]
        exact hplace
      · next hnone =>
        cases hopen
        have hput := Files.grows_put (e := .file []) (.inl hnone)
        refine ⟨hgrows.trans hput, .file ?_ (Files.entry_put_self ?_ made _)⟩
        · rw [Files.startOf_of_isAbsolute habsolute]
          exact Files.follow_of_grows hput hplace
        · intro hroot
          rw [hroot, Files.entry_nil] at hnone
          cases hnone

/-- Opening a destination only adds files, and it opens what the destination leads to. -/
theorem openTarget_spec {d : Destination} {t : LogTarget} (hnormal : d.IsNormal)
    (hopen : openTarget f d = .ok (g, t)) : f.Grows g ∧ d.LeadsTo g t := by
  cases d with
  | stderr =>
    cases hopen
    exact ⟨.refl _, .stderr⟩
  | stdout =>
    cases hopen
    exact ⟨.refl _, .stdout⟩
  | file path =>
    obtain ⟨⟨files, place⟩, hfile, hresult⟩ := map_eq_ok_iff.mp hopen
    cases hresult
    exact openFile_spec hnormal.1 hfile

/-- An output of the settings, opened at its target. -/
def openOutput (threshold : Severity) (o : LogOutput) (t : LogTarget) : OpenOutput :=
  ⟨o.severity.getD threshold, o.format, t⟩

/-- Opening outputs one after the other adds an open output for each, in the same order, and keeps
the backend and the threshold. -/
theorem openAll_spec {outputs : List LogOutput}
    (hnormal : ∀ o ∈ outputs, o.destination.IsNormal)
    (hopen : openAll threshold j outputs = (none, opened)) :
    opened.backend = j.backend ∧ opened.threshold = j.threshold ∧ j.files.Grows opened.files ∧
      ∃ targets : List LogTarget,
        List.Forall₂ (fun o t => o.destination.LeadsTo opened.files t) outputs targets ∧
        opened.outputs = j.outputs ++ List.zipWith (openOutput threshold) outputs targets := by
  induction outputs generalizing j with
  | nil =>
    cases hopen
    refine ⟨rfl, rfl, .refl _, [], .nil, ?_⟩
    rw [List.zipWith_nil_right, List.append_nil]
  | cons o rest ih =>
    rw [List.forall_mem_cons] at hnormal
    unfold openAll at hopen
    split at hopen
    · cases hopen
    · next files t htarget =>
      obtain ⟨hgrows, hleads⟩ := openTarget_spec hnormal.1 htarget
      obtain ⟨hbackend, hthreshold, hrest, targets, hall, houtputs⟩ := ih hnormal.2 hopen
      refine ⟨hbackend, hthreshold, hgrows.trans hrest, t :: targets,
        .cons (hleads.of_grows hrest) hall, ?_⟩
      rw [houtputs, List.append_assoc]
      rfl

end Journal

end Enclosure
