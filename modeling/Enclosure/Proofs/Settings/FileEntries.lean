import Enclosure.Proofs.Yaml.Vacant
import Enclosure.Settings.File
import Enclosure.Yaml.Document
import Mathlib.Tactic.Tauto

/-!
# What the value of a configuration file gives

A mapping gives its entries, and a file without a document gives none. Other values are refused,
unless they count as nothing: zero, falsehood and what is empty are read as if there were no
document.
-/

set_option autoImplicit false

namespace Enclosure

/-- The values that count as nothing and are neither null nor mappings. -/
inductive Value.IsBlank : Value → Prop
  | falsehood : IsBlank (.bool false)
  | zero : IsBlank (.int 0)
  | floatZero (negative : Bool) (exponent : Int) : IsBlank (.float (.finite negative 0 exponent))
  | text : IsBlank (.str "")
  | bytes : IsBlank (.bytes [])
  | list : IsBlank (.list [])
  | set : IsBlank (.set [])

/-- A value counts as nothing when it is null, an empty mapping or blank. -/
theorem Value.isEmpty_iff {v : Value} :
    v.isEmpty = true ↔ v = .null ∨ v = .map [] ∨ v.IsBlank := by
  constructor
  · intro h
    cases v with
    | null => exact .inl rfl
    | bool b =>
      cases b with
      | false => exact .inr (.inr .falsehood)
      | true => cases h
    | int i =>
      obtain rfl : i = 0 := by simpa [isEmpty] using h
      exact .inr (.inr .zero)
    | float x =>
      cases x with
      | finite negative m e =>
        obtain rfl : m = 0 := by simpa [isEmpty, Binary64.isZero] using h
        exact .inr (.inr (.floatZero negative e))
      | infinite negative => cases h
      | nan => cases h
    | str s =>
      obtain rfl : s = "" := by simpa [isEmpty] using h
      exact .inr (.inr .text)
    | bytes bs =>
      obtain rfl : bs = [] := by simpa [isEmpty] using h
      exact .inr (.inr .bytes)
    | list items =>
      obtain rfl : items = [] := by simpa [isEmpty] using h
      exact .inr (.inr .list)
    | map entries =>
      obtain rfl : entries = [] := by simpa [isEmpty] using h
      exact .inr (.inl rfl)
    | set members =>
      obtain rfl : members = [] := by simpa [isEmpty] using h
      exact .inr (.inr .set)
    | _ => cases h
  · rintro (rfl | rfl | h)
    · rfl
    · rfl
    · cases h <;> rfl

namespace ConfigFile

variable {document : DocumentReader} {path : FilePath} {v : Value}

/-- A value that counts as nothing gives no entries. -/
theorem entriesOf_of_isEmpty (h : v.isEmpty = true) : entriesOf path v = .ok [] :=
  if_pos h

/-- A mapping gives its entries. -/
theorem entriesOf_of_map {entries : Entries} (h : v.opened = .map entries) :
    entriesOf path v = .ok entries := by
  unfold entriesOf
  split
  · next hempty =>
    -- of the values that count as nothing only the empty mapping is a mapping
    rcases Value.isEmpty_iff.mp hempty with rfl | rfl | hblank
    · cases h
    · cases h
      rfl
    · cases hblank <;> cases h
  · rw [h]

/-- A value that counts as something and is no mapping is refused. -/
theorem entriesOf_of_refused (hempty : ¬ v.isEmpty = true)
    (hmap : ∀ entries, v.opened ≠ .map entries) :
    entriesOf path v = .error (.config (.unreadable path.text notMappingReason)) := by
  unfold entriesOf
  rw [if_neg hempty]
  split
  · next entries h => exact absurd h (hmap entries)
  · rfl

/-- A file whose document has a value gives what the value gives. -/
theorem read_of_file {files : Files} {bytes : List UInt8}
    (hfile : files.lookup path = .ok (.file bytes)) (hvalue : document bytes = .ok v) :
    read document files path = entriesOf path v := by
  unfold read ofBytes
  rw [hfile]
  dsimp only
  rw [hvalue]

/-- What a configuration file gives, however the values of documents are read. A mapping gives its
entries, null gives none, and so do the values that count as nothing. Any other value is refused
with the code of an unreadable configuration. As YAML a text without a document is null. -/
theorem read_decided_by_value (document : DocumentReader) (files : Files) (path : FilePath)
    (bytes : List UInt8) (hfile : files.lookup path = .ok (.file bytes)) :
    (∀ frames cs, Yaml.Source.ofBytes bytes = ⟨cs, none⟩ → Yaml.HasNoDocument cs →
        Yaml.ofBytes frames bytes = .ok .null) ∧
      ∀ v, document bytes = .ok v →
        (∀ entries, v.opened = .map entries → read document files path = .ok entries) ∧
        (v = .null ∨ v.IsBlank → read document files path = .ok []) ∧
        (v ≠ .null → ¬ v.IsBlank → (∀ entries, v.opened ≠ .map entries) →
          ∃ e : ConfigError, read document files path = .error (.config e) ∧
            e.report.code = .configUnreadable ∧
            e.report.message = "Failed to parse config at " ++ path.text ++ ": " ++
              "top level must be a mapping") := by
  refine ⟨?_, fun v hvalue => ⟨?_, ?_, ?_⟩⟩
  · intro frames cs hsource hnone
    rw [Yaml.ofBytes, hsource]
    exact Yaml.ofSource_of_hasNoDocument hnone frames
  · intro entries hmap
    rw [read_of_file hfile hvalue, entriesOf_of_map hmap]
  · intro hnothing
    rw [read_of_file hfile hvalue]
    apply entriesOf_of_isEmpty
    rw [Value.isEmpty_iff]
    tauto
  · intro hnull hblank hmap
    have hempty : ¬ v.isEmpty = true := by
      rw [Value.isEmpty_iff]
      rintro (h | rfl | h)
      · exact hnull h
      · exact hmap [] rfl
      · exact hblank h
    refine ⟨.unreadable path.text notMappingReason, ?_, rfl, rfl⟩
    rw [read_of_file hfile hvalue, entriesOf_of_refused hempty hmap]

/-- Three configuration files: a comment, a text and an empty list. -/
def withoutMappings : Files :=
  ⟨[([['c']], .file (Utf8.encode "# none\n")), ([['t']], .file (Utf8.encode "'0'\n")),
    ([['l']], .file (Utf8.encode "[]\n"))], []⟩

/-- Documents are read as YAML, with room for collections within each other. -/
def yaml : DocumentReader :=
  Yaml.ofBytes 900

/-- A comment alone gives no entries; a text that reads like a zero is refused. -/
theorem read_decided_by_value_commentAndText :
    withoutMappings.lookup (.ofText "/c") = .ok (.file (Utf8.encode "# none\n")) ∧
      read yaml withoutMappings (.ofText "/c") = .ok [] ∧
      withoutMappings.lookup (.ofText "/t") = .ok (.file (Utf8.encode "'0'\n")) ∧
      ∃ e : ConfigError, read yaml withoutMappings (.ofText "/t") = .error (.config e) ∧
        e.report.code = .configUnreadable := by
  have hnotes : withoutMappings.lookup (.ofText "/c") =
      .ok (.file (Utf8.encode "# none\n")) := rfl
  have htext : withoutMappings.lookup (.ofText "/t") =
      .ok (.file (Utf8.encode "'0'\n")) := rfl
  obtain ⟨hnull, hread⟩ := read_decided_by_value yaml withoutMappings _ _ hnotes
  have hcomment : " none".toList.all (fun c => !Yaml.Cursor.isBreak c) = true := by decide
  have hunbroken : ∀ c ∈ " none".toList, Yaml.Cursor.isBreak c = false := by
    simpa [List.all_eq_true] using hcomment
  have hnone : Yaml.HasNoDocument "# none\n".toList :=
    .inl (.line (.comment 0 hunbroken) (by decide) (.last (.blanks 0)))
  have hsource : Yaml.Source.ofBytes (Utf8.encode "# none\n") = ⟨"# none\n".toList, none⟩ := by
    with_unfolding_all rfl
  have hempty := (hread .null (hnull 900 _ hsource hnone)).2.1 (.inl rfl)
  have hvalue : yaml (Utf8.encode "'0'\n") = .ok (.str "0") := by
    with_unfolding_all rfl
  have hblank : ¬ (Value.str "0").IsBlank := by
    intro h
    have hempty := Value.isEmpty_iff.mpr (.inr (.inr h))
    revert hempty
    decide
  obtain ⟨-, -, hrefused⟩ := (read_decided_by_value yaml withoutMappings _ _ htext).2 _ hvalue
  obtain ⟨e, herror, hcode, -⟩ := hrefused nofun hblank nofun
  exact ⟨hnotes, hempty, htext, e, herror, hcode⟩

/-- The empty list is neither null nor a mapping, and yet it is read as if there were no
document. -/
theorem read_overlooks_emptyList :
    withoutMappings.lookup (.ofText "/l") = .ok (.file (Utf8.encode "[]\n")) ∧
      yaml (Utf8.encode "[]\n") = .ok (.list []) ∧
      read yaml withoutMappings (.ofText "/l") = .ok [] ∧
      ¬ ∃ e : ConfigError, read yaml withoutMappings (.ofText "/l") = .error (.config e) := by
  have hfile : withoutMappings.lookup (.ofText "/l") = .ok (.file (Utf8.encode "[]\n")) := rfl
  have hvalue : yaml (Utf8.encode "[]\n") = .ok (.list []) := by
    with_unfolding_all rfl
  have hread : read yaml withoutMappings (.ofText "/l") = .ok [] := by
    rw [read_of_file hfile hvalue, entriesOf_of_isEmpty rfl]
  refine ⟨hfile, hvalue, hread, ?_⟩
  rintro ⟨e, herror⟩
  rw [hread] at herror
  cases herror

end ConfigFile

end Enclosure
