import Enclosure.Proofs.Settings.Variables
import Enclosure.Proofs.Yaml.Value
import Enclosure.Settings.Load

/-!
# What readers give

What is wanted of readers of settings is that every key occurs once in the mappings they give. The
standard readers are such, and then so is what is read from the files of all sources.
-/

set_option autoImplicit false

namespace Enclosure

/-- Whether readers give mappings in which every key occurs once. -/
structure SettingReaders.GivesWellKeyed (readers : SettingReaders) : Prop where
  document : ∀ bytes v, readers.document bytes = .ok v → v.WellKeyed
  environment : ∀ naming env es, readers.environment naming env = .ok es → (Value.map es).WellKeyed

/-- The standard readers give mappings in which every key occurs once. -/
theorem SettingReaders.givesWellKeyed_standard (stack : Stack) :
    (SettingReaders.standard stack).GivesWellKeyed where
  document _ _ h := Yaml.wellKeyed_of_ofBytes h
  environment _ _ _ h := Environment.wellKeyed_of_entries h

/-- If values of documents have every key once, so has what is read from a file. -/
theorem ConfigFile.wellKeyed_of_read {document : DocumentReader}
    (hdocument : ∀ bytes v, document bytes = .ok v → v.WellKeyed) {files : Files} {path : FilePath}
    {es : Entries} (h : read document files path = .ok es) : (Value.map es).WellKeyed := by
  unfold read at h
  split at h
  · cases h
  · cases h
    exact Value.wellKeyed_map_nil
  · cases h
  · unfold ofBytes at h
    split at h
    · next v hv =>
      have hkeyed := (hdocument _ v hv).opened
      unfold entriesOf at h
      split at h
      · cases h
        exact Value.wellKeyed_map_nil
      · split at h
        · next entries hentries =>
          cases h
          rw [hentries] at hkeyed
          exact hkeyed
        · cases h
    · cases h

namespace SettingSources

variable {s : SettingSources} {es : Entries}

/-- The entries of the project's file, or of the one in its place, have every key once. -/
theorem wellKeyed_of_projectEntries (hreaders : s.readers.GivesWellKeyed)
    (h : s.projectEntries = .ok es) : (Value.map es).WellKeyed := by
  unfold projectEntries at h
  split at h
  · exact ConfigFile.wellKeyed_of_read hreaders.document h
  · split at h
    · exact ConfigFile.wellKeyed_of_read hreaders.document h
    · cases h
    · cases h

end SettingSources

end Enclosure
