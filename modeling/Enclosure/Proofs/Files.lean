import Enclosure.Files
import Mathlib.Data.List.Infix

/-!
# Files that grow

Making directories and writing at the ends of files takes nothing away: a directory stays one, and
a file goes on with what it held. So a path that leads somewhere keeps leading there. The directory
that is made for a path is the one that the path leads to afterwards.
-/

set_option autoImplicit false

namespace Enclosure.Files

variable {f g h : Files} {l : Location}

/-! ### What lies where -/

/-- The root is a directory. -/
theorem entry_nil (f : Files) : f.entry? [] = some .directory :=
  if_pos rfl

/-- What is put at a place lies there. -/
theorem entry_put_self (hl : l ≠ []) (f : Files) (e : FileEntry) :
    Files.entry? (f.put l e) l = some e := by
  unfold Files.entry? put
  rw [if_neg hl, List.find?_cons_of_pos (by simp)]
  rfl

/-- What is put at a place changes nothing anywhere else. -/
theorem entry_put_of_ne {place : Location} (hne : place ≠ l) (f : Files) (e : FileEntry) :
    Files.entry? (f.put l e) place = f.entry? place := by
  unfold Files.entry? put
  rw [List.find?_cons_of_neg (by simpa using hne.symm), List.find?_filter]
  congr 3
  funext x
  by_cases hx : x.1 = place
  · simp [hx, hne]
  · simp [hx]

/-! ### Growing -/

/-- Directories stay directories, and files go on with what they held. -/
structure Grows (before after : Files) : Prop where
  working_eq : after.working = before.working
  directory : ∀ {l : Location},
    before.entry? l = some .directory → after.entry? l = some .directory
  file : ∀ {l : Location} {content : List UInt8}, before.entry? l = some (.file content) →
    ∃ more, after.entry? l = some (.file (content ++ more))

/-- Files grow into themselves. -/
theorem Grows.refl (f : Files) : f.Grows f :=
  ⟨rfl, id, fun hfile => ⟨[], by rw [List.append_nil]; exact hfile⟩⟩

/-- Files that grow twice grow. -/
theorem Grows.trans (hfg : f.Grows g) (hgh : g.Grows h) : f.Grows h := by
  refine ⟨hgh.working_eq.trans hfg.working_eq, fun hl => hgh.directory (hfg.directory hl), ?_⟩
  intro l content hfile
  obtain ⟨more, hmore⟩ := hfg.file hfile
  obtain ⟨rest, hrest⟩ := hgh.file hmore
  refine ⟨more ++ rest, ?_⟩
  rw [← List.append_assoc]
  exact hrest

/-- Files grow by something put where nothing lies, or by a file that goes on with what it held. -/
theorem grows_put {e : FileEntry}
    (hentry : f.entry? l = none ∨
      ∃ content more, f.entry? l = some (.file content) ∧ e = .file (content ++ more)) :
    f.Grows (f.put l e) := by
  have hnone : f.entry? l ≠ some .directory := by
    intro hdirectory
    rw [hdirectory] at hentry
    rcases hentry with hnone | ⟨_, _, hfile, -⟩
    · cases hnone
    · cases hfile
  have hl : l ≠ [] := by
    rintro rfl
    exact hnone (entry_nil f)
  refine ⟨rfl, ?_, ?_⟩
  · intro place hplace
    have hne : place ≠ l := by
      rintro rfl
      exact hnone hplace
    rw [entry_put_of_ne hne]
    exact hplace
  · intro place content hplace
    by_cases hne : place = l
    · subst hne
      rw [hplace] at hentry
      rcases hentry with hempty | ⟨_, more, hfile, rfl⟩
      · cases hempty
      · cases hfile
        exact ⟨more, entry_put_self hl f _⟩
    · rw [entry_put_of_ne hne]
      exact (Grows.refl f).file hplace

/-! ### Following paths -/

/-- Where a part of a path leads from a directory, if it can be followed. -/
def next? (here : Location) (part : List Char) : Option Location :=
  if part = ['.', '.'] then some here.dropLast
  else if FilePath.isLongName part then none else some (here ++ [part])

/-- A way goes on from a directory only, by its first part and then by the others. -/
theorem follow_cons_iff {here : Location} {part : List Char} {rest : List (List Char)} :
    f.follow here (part :: rest) = .ok l ↔ f.entry? here = some .directory ∧
      ∃ place, next? here part = some place ∧ f.follow place rest = .ok l := by
  rw [follow, next?]
  cases f.entry? here with
  | none => simp
  | some entry =>
    cases entry with
    | file content => simp
    | directory =>
      by_cases hup : part = ['.', '.']
      · simp [hup]
      · cases hlong : FilePath.isLongName part with
        | true => simp [hup]
        | false => simp [hup]

/-- A path that leads somewhere keeps leading there when files grow. -/
theorem follow_of_grows (hgrows : f.Grows g) {here : Location} {parts : List (List Char)}
    (hfollow : f.follow here parts = .ok l) : g.follow here parts = .ok l := by
  induction parts generalizing here with
  | nil => exact hfollow
  | cons part rest ih =>
    obtain ⟨hhere, place, hplace, hrest⟩ := follow_cons_iff.mp hfollow
    exact follow_cons_iff.mpr ⟨hgrows.directory hhere, place, hplace, ih hrest⟩

/-- Two ways of which the second starts where the first ends are one way. -/
theorem follow_append {here place : Location} {parts more : List (List Char)}
    (hfollow : f.follow here parts = .ok place) (hmore : f.follow place more = .ok l) :
    f.follow here (parts ++ more) = .ok l := by
  induction parts generalizing here with
  | nil =>
    cases hfollow
    exact hmore
  | cons part rest ih =>
    obtain ⟨hhere, first, hfirst, hrest⟩ := follow_cons_iff.mp hfollow
    exact follow_cons_iff.mpr ⟨hhere, first, hfirst, ih hrest⟩

/-! ### Making directories -/

/-- Every place on the way to a location is a directory, and so is the location. -/
def IsWay (f : Files) (l : Location) : Prop :=
  ∀ place, place <+: l → f.entry? place = some .directory

/-- The root is on the way to every place. -/
theorem isWay_nil (f : Files) : f.IsWay [] := by
  intro place hplace
  rw [List.prefix_nil.mp hplace]
  exact entry_nil f

/-- A way of directories stays one when files grow. -/
theorem IsWay.of_grows (hway : f.IsWay l) (hgrows : f.Grows g) : g.IsWay l :=
  fun place hplace => hgrows.directory (hway place hplace)

/-- The way to the directory around a place is a way as well. -/
theorem IsWay.dropLast (hway : f.IsWay l) : f.IsWay l.dropLast :=
  fun place hplace => hway place (hplace.trans (List.dropLast_prefix l))

/-- A way goes on with one more directory. -/
theorem IsWay.concat (hway : f.IsWay l) {part : List Char}
    (hentry : f.entry? (l ++ [part]) = some .directory) : f.IsWay (l ++ [part]) := by
  intro place hplace
  rcases List.prefix_concat_iff.mp hplace with rfl | hplace
  · exact hentry
  · exact hway place hplace

/-- Making directories along a path takes nothing away, and the path leads to the last of them. -/
theorem makeAlong_spec {here : Location} {parts : List (List Char)} (hway : f.IsWay here)
    (hmake : f.makeAlong here parts = .ok (g, l)) :
    f.Grows g ∧ g.follow here parts = .ok l ∧ g.IsWay l := by
  induction parts generalizing f here with
  | nil =>
    cases hmake
    exact ⟨.refl _, rfl, hway⟩
  | cons part rest ih =>
    -- one part leads to a place that is a directory in files that have only grown
    have hstep {f' : Files} {place : Location} (hgrows : f.Grows f')
        (hplace : next? here part = some place) (hway' : f'.IsWay place)
        (hmake' : f'.makeAlong place rest = .ok (g, l)) :
        f.Grows g ∧ g.follow here (part :: rest) = .ok l ∧ g.IsWay l := by
      obtain ⟨hrest, hfollow, hlast⟩ := ih hway' hmake'
      have hall : f.Grows g := hgrows.trans hrest
      have hhere := hall.directory (hway here (List.prefix_refl here))
      exact ⟨hall, follow_cons_iff.mpr ⟨hhere, place, hplace, hfollow⟩, hlast⟩
    unfold makeAlong at hmake
    split at hmake
    · next hup => exact hstep (.refl f) (if_pos hup) hway.dropLast hmake
    · next hup =>
      split at hmake
      · cases hmake
      · next hlong =>
        have hplace : next? here part = some (here ++ [part]) := by
          unfold next?
          rw [if_neg hup, if_neg hlong]
        dsimp only at hmake
        split at hmake
        · next hentry => exact hstep (.refl f) hplace (hway.concat hentry) hmake
        · cases hmake
        · next hentry =>
          have hgrows : f.Grows (f.put (here ++ [part]) .directory) := grows_put (.inl hentry)
          have hne : here ++ [part] ≠ [] := List.concat_ne_nil part here
          have hmade := entry_put_self hne f .directory
          exact hstep hgrows hplace ((hway.of_grows hgrows).concat hmade) hmake

/-- An absolute path starts at the root. -/
theorem startOf_of_isAbsolute {p : FilePath} (habsolute : p.isAbsolute = true) (f : Files) :
    f.startOf p = [] :=
  if_pos habsolute

/-- Making the directories of an absolute path only adds files, and the path leads to a directory.
-/
theorem makeDirectories_spec {p : FilePath} (habsolute : p.isAbsolute = true)
    (hmake : f.makeDirectories p = .ok (g, l)) :
    f.Grows g ∧ g.follow [] p.parts = .ok l ∧ g.IsWay l := by
  unfold makeDirectories at hmake
  split at hmake
  · cases hmake
  · rw [startOf_of_isAbsolute habsolute] at hmake
    exact makeAlong_spec (isWay_nil f) hmake

end Enclosure.Files
