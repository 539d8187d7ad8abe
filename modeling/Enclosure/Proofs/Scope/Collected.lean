import Enclosure.Proofs.FilePath
import Enclosure.Proofs.Text.Spelling
import Enclosure.Scope.Document
import Mathlib.Data.List.Basic

/-!
# Which documents are parsed

A document is routed to the Swift reader by its extension, in any letter case, or by the settings
when it has none. What is collected from such a document, if it can be read and is not too large, is
what the reader finds in its text, and the text is parsed once. Every other document gives the bare
top and is not parsed. There is one exception: a path that holds a zero character and is routed to
Swift. Looking for it is not a failure to read, and nothing is collected at all.
-/

set_option autoImplicit false

namespace Enclosure

/-! ### Routing -/

/-- A word spells the name of the language Swift, in any letter case. -/
def SpellsSwift (word : List Char) : Prop :=
  word.map Char.toLower = "swift".toList

instance (word : List Char) : Decidable (SpellsSwift word) :=
  inferInstanceAs (Decidable (_ = _))

/-- A path is routed to the Swift reader: by its extension, or by the settings when it has none. -/
def FilePath.IsSwift (path : FilePath) (settings : ResolverSettings) : Prop :=
  (∃ ext, HasExtension path.name ext ∧ SpellsSwift ext) ∨
    (∀ ext, ¬ HasExtension path.name ext) ∧ SpellsSwift settings.language.toList

/-- A text is `swift` in lower case exactly when it spells Swift. -/
theorem lower_eq_swift_iff {text : String} :
    LowerCase.lower text = "swift" ↔ SpellsSwift text.toList :=
  LowerCase.lower_eq_iff (by simp)

namespace LanguagePack

/-- Without dots in front, an extension is what stands behind its one dot. -/
theorem dropWhile_dot_cons {cs : List Char} (h : '.' ∉ cs) :
    ('.' :: cs).dropWhile (· = '.') = cs := by
  rw [List.dropWhile_cons_of_pos (by decide)]
  cases cs with
  | nil => rfl
  | cons c rest =>
    rw [List.mem_cons, not_or] at h
    exact List.dropWhile_cons_of_neg (by simpa using Ne.symm h.1)

/-- An extension is folded to `swift` exactly when it spells Swift. -/
theorem foldExtension_eq_swift_iff {ext : List Char} (h : '.' ∉ ext) :
    foldExtension (String.ofList ('.' :: ext)) = "swift" ↔ SpellsSwift ext := by
  have hlower : (LowerCase.lower (String.ofList ('.' :: ext))).toList =
      '.' :: LowerCase.lowerFrom ['.'] ext := by
    rw [LowerCase.lower, String.toList_ofList, String.toList_ofList, LowerCase.lowerFrom]
    rfl
  rw [foldExtension, hlower, dropWhile_dot_cons (LowerCase.dot_not_mem_lowerFrom h),
    ← String.toList_inj, String.toList_ofList]
  exact LowerCase.lowerFrom_eq_iff (by simp)

/-- The only pack that an extension can have is that of Swift. -/
theorem ofExtension?_eq {ext : List Char} (h : '.' ∉ ext) :
    ofExtension? (String.ofList ('.' :: ext)) = if SpellsSwift ext then some swift else none := by
  unfold ofExtension? all
  rw [List.find?_singleton]
  refine if_congr ?_ rfl rfl
  rw [List.contains_iff_mem, swift, List.mem_singleton]
  exact foldExtension_eq_swift_iff h

end LanguagePack

namespace ScopeReader

/-- A language has a reader exactly when it spells Swift. -/
theorem ofLanguage?_eq (language : String) (settings : ResolverSettings)
    (provider : Option TreeProvider) (make : GrammarParser → TreeProvider) :
    ofLanguage? language settings provider make =
      if SpellsSwift language.toList then
        some ⟨provider.getD (make ⟨"swift", settings.acceptPartialTrees⟩), settings.noteSeparator⟩
      else none := by
  have hreadable : LowerCase.lower language ∈ readableLanguages ↔ SpellsSwift language.toList := by
    rw [readableLanguages, List.mem_singleton]
    exact lower_eq_swift_iff
  unfold ofLanguage? GrammarParser.ofLanguage?
  dsimp only
  by_cases hswift : SpellsSwift language.toList
  · rw [if_pos (hreadable.mpr hswift), if_pos hswift, lower_eq_swift_iff.mpr hswift]
    rfl
  · rw [if_neg (mt hreadable.mp hswift), if_neg hswift]
    rfl

end ScopeReader

namespace Document

variable {files : Files} {path : FilePath} {settings : ResolverSettings}
  {provider : Option TreeProvider} {make : GrammarParser → TreeProvider}

/-- A document that is routed to Swift gets a reader with the provider given or the one made for
Swift. -/
theorem route_of_isSwift (h : path.IsSwift settings) :
    route path settings provider make = (path.language? (some settings.language),
      some ⟨provider.getD (make ⟨"swift", settings.acceptPartialTrees⟩),
        settings.noteSeparator⟩) := by
  refine Prod.ext rfl ?_
  unfold route FilePath.language? FilePath.suffix
  rcases h with ⟨ext, hext, hswift⟩ | ⟨hnone, hswift⟩
  · rw [FilePath.suffixOf_eq_cons_iff.mpr hext, if_neg (List.cons_ne_nil _ _),
      LanguagePack.ofExtension?_eq hext.2.1, if_pos hswift]
    have hname : SpellsSwift LanguagePack.swift.name.toList := rfl
    exact (ScopeReader.ofLanguage?_eq _ settings provider make).trans (if_pos hname)
  · have hne : settings.language ≠ "" := by
      intro hempty
      rw [hempty] at hswift
      cases hswift
    rw [if_pos (FilePath.suffixOf_eq_nil_iff.mpr hnone)]
    dsimp only [Option.bind_some]
    rw [if_neg hne, ScopeReader.ofLanguage?_eq, if_pos hswift]

/-- Any other document gets no reader. -/
theorem route_of_not_isSwift (h : ¬ path.IsSwift settings) :
    route path settings provider make = (path.language? (some settings.language), none) := by
  refine Prod.ext rfl ?_
  unfold route FilePath.language? FilePath.suffix
  by_cases hext : ∃ ext, FilePath.HasExtension path.name ext
  · obtain ⟨ext, hext⟩ := hext
    have hswift : ¬ SpellsSwift ext := fun hswift => h (Or.inl ⟨ext, hext, hswift⟩)
    rw [FilePath.suffixOf_eq_cons_iff.mpr hext, if_neg (List.cons_ne_nil _ _),
      LanguagePack.ofExtension?_eq hext.2.1, if_neg hswift]
    rfl
  · have hnone : ∀ ext, ¬ FilePath.HasExtension path.name ext := not_exists.mp hext
    have hswift : ¬ SpellsSwift settings.language.toList :=
      fun hswift => h (Or.inr ⟨hnone, hswift⟩)
    rw [if_pos (FilePath.suffixOf_eq_nil_iff.mpr hnone)]
    dsimp only [Option.bind_some]
    rw [ScopeReader.ofLanguage?_eq, if_neg hswift, ite_self]

end Document

/-! ### Opening -/

namespace Files

/-- A file of a given content lies at a path, and it is not longer than a limit. -/
def HoldsWithin (files : Files) (path : FilePath) (limit : Nat) (content : List UInt8) : Prop :=
  files.lookup path = .ok (.file content) ∧ content.length ≤ limit

/-- Following a way never fails for a zero character. -/
theorem follow_ne_zeroCharacter (files : Files) (here : Location) (parts : List (List Char)) :
    files.follow here parts ≠ .error (.invalid .zeroCharacter) := by
  induction parts generalizing here with
  | nil =>
    intro h
    cases h
  | cons part rest ih =>
    intro h
    rw [follow] at h
    split at h
    · cases h
    · cases h
    · split at h
      · exact ih _ h
      · split at h
        · cases h
        · exact ih _ h

/-- Only a path with a zero character is refused for one. -/
theorem lookup_eq_zeroCharacter_iff {files : Files} {path : FilePath} :
    files.lookup path = .error (.invalid .zeroCharacter) ↔ path.hasZero = true := by
  have hfault : path.fault? = some .zeroCharacter ↔ path.hasZero = true := by
    unfold FilePath.fault?
    cases path.hasZero with
    | true => simp
    | false => simp
  rw [← hfault]
  unfold lookup
  cases path.fault? with
  | some fault => simp
  | none =>
    refine iff_of_false ?_ (by simp)
    intro h
    dsimp only at h
    split at h
    · next hfollow =>
      cases h
      exact follow_ne_zeroCharacter _ _ _ hfollow
    · split at h <;> cases h

end Files

namespace Document

variable {files : Files} {path : FilePath} {settings : ResolverSettings}
  {provider : Option TreeProvider} {make : GrammarParser → TreeProvider}

/-- A document that is routed to Swift, is there and is not too large can be read. -/
theorem open?_of_holdsWithin {content : List UInt8} (hswift : path.IsSwift settings)
    (hcontent : files.HoldsWithin path (settings.maxFileSizeKb.number * 1024) content) :
    open? files path settings provider make =
      .readable ⟨provider.getD (make ⟨"swift", settings.acceptPartialTrees⟩),
        settings.noteSeparator⟩ (String.ofList (Utf8.decodeReplacing content)) := by
  unfold open?
  rw [route_of_isSwift hswift, hcontent.1]
  exact if_neg (Nat.not_lt.mpr hcontent.2)

/-- A path with a zero character that is routed to Swift breaks off. -/
theorem open?_of_hasZero (hswift : path.IsSwift settings) (hzero : path.hasZero = true) :
    open? files path settings provider make = .broken .zeroInPath := by
  unfold open?
  rw [route_of_isSwift hswift, Files.lookup_eq_zeroCharacter_iff.mpr hzero]

/-- A document that is not there or is too large is not resolved. -/
theorem open?_of_not_holdsWithin (hzero : path.hasZero = false)
    (h : ∀ content,
      ¬ files.HoldsWithin path (settings.maxFileSizeKb.number * 1024) content) :
    ∃ event, open? files path settings provider make = .unresolved event := by
  unfold open?
  split
  · exact ⟨_, rfl⟩
  · split
    · next hlookup =>
      rw [Files.lookup_eq_zeroCharacter_iff, hzero] at hlookup
      cases hlookup
    · exact ⟨_, rfl⟩
    · next entry hlookup =>
      split
      · exact ⟨_, rfl⟩
      · next hsize =>
        cases entry with
        | directory => exact ⟨_, rfl⟩
        | file content => exact absurd ⟨hlookup, Nat.not_lt.mp hsize⟩ (h content)

/-- A document that is not routed to Swift has no reader, and that is reported. -/
theorem open?_of_not_isSwift (h : ¬ path.IsSwift settings) :
    open? files path settings provider make =
      .unresolved (.noReader path.text (path.language? (some settings.language))) := by
  unfold open?
  rw [route_of_not_isSwift h]

end Document

/-! ### Parsing -/

namespace Traced

/-- A value by itself asks for nothing to be parsed. -/
@[simp] theorem parses_pure {α : Type} (a : α) : (pure a : Traced α).parses = [] := rfl

/-- A report asks for nothing to be parsed. -/
@[simp] theorem parses_report (event : Event) : (report event).parses = [] := rfl

/-- What two steps in a row ask for is what the first and then the second asks for. -/
@[simp] theorem parses_bind {α β : Type} (t : Traced α) (f : α → Traced β) :
    (t >>= f).parses = t.parses ++ (f t.value).parses :=
  List.filterMap_append

/-- Changing the value changes nothing in what is parsed. -/
@[simp] theorem parses_map {α β : Type} (f : α → β) (t : Traced α) :
    (f <$> t).parses = t.parses := by
  have hmap : f <$> t = t >>= fun a => pure (f a) := rfl
  rw [hmap, parses_bind, parses_pure, List.append_nil]

/-- A report on a condition asks for nothing to be parsed. -/
theorem parses_reportIf (condition : Prop) [Decidable condition] (event : Event) :
    (reportIf condition event).parses = [] := by
  unfold reportIf
  split <;> rfl

/-- Steps that ask for nothing to be parsed ask for nothing one after the other. -/
theorem parses_foldlM {α β : Type} {step : β → α → Traced β} (h : ∀ b a, (step b a).parses = [])
    (b : β) (xs : List α) : (xs.foldlM step b).parses = [] := by
  induction xs generalizing b with
  | nil => rfl
  | cons x xs ih => rw [List.foldlM_cons, parses_bind, h, ih, List.append_nil]

end Traced

namespace Reader

/-- Quoting a range asks for nothing to be parsed. -/
theorem parses_quote (lines : List String) (range : CursorRange) :
    (quote lines range).parses = [] := by
  rw [quote, Traced.parses_bind, Traced.parses_reportIf, Traced.parses_pure, List.append_nil]

/-- Describing a protocol asks for nothing to be parsed. -/
theorem parses_describeProtocol (lines : List String) (n : Node) :
    (describeProtocol lines n).parses = [] := by
  unfold describeProtocol
  split
  · simp [parses_quote]
  · simp [reportMissing]

/-- Looking at a child of a type declaration asks for nothing to be parsed. -/
theorem parses_scanTypeChild (lines : List String) (found : String × String) (child : Node) :
    (scanTypeChild lines found child).parses = [] := by
  unfold scanTypeChild
  split
  · rfl
  · split
    · simp [parses_quote]
    · rfl

/-- Describing a type declaration asks for nothing to be parsed. -/
theorem parses_describeType (lines : List String) (n : Node) :
    (describeType lines n).parses = [] := by
  unfold describeType
  rw [Traced.parses_bind, Traced.parses_foldlM (parses_scanTypeChild lines)]
  dsimp only
  split <;> split <;> simp [reportMissing]

/-- Describing a node asks for nothing to be parsed. -/
theorem parses_describe (lines : List String) (n : Node) : (describe lines n).parses = [] := by
  unfold describe
  split
  · exact parses_describeProtocol lines n
  · exact parses_describeType lines n
  · rfl

/-- Finding what encloses a range in a tree asks for nothing to be parsed. -/
theorem parses_context (tree : Option Node) (range : CursorRange) (text : String)
    (lines : List String) (separator : String) :
    (context tree range text lines separator).parses = [] := by
  unfold context locate
  split
  · rfl
  · split
    · rfl
    · simp [parses_describe]

end Reader

/-- A reader asks for its text to be parsed once, and besides this only its provider may ask. -/
theorem ScopeReader.parses_resolve (r : ScopeReader) (range : CursorRange) (text : String)
    (lines : Option (List String)) :
    (r.resolve range text lines).parses = text :: (r.provider.parse text).parses := by
  unfold resolve contextOf
  rw [Traced.parses_bind]
  change text :: Traced.parses (r.provider.parse text >>= _) = _
  rw [Traced.parses_bind]
  split
  · simp
  · simp [Reader.parses_context]
  · split
    · simp
    · simp [Reader.parses_context]

/-- Lines that are not given are those of the text. -/
theorem ScopeReader.resolve_none (r : ScopeReader) (range : CursorRange) (text : String) :
    r.resolve range text none = r.contextOf range text (Lines.split text) := rfl

namespace Document

/-- A document that can be read resolves as its text does when no lines are given with it. -/
theorem resolve_readable (reader : ScopeReader) (text : String) (range : CursorRange) :
    (readable reader text).resolve range = reader.resolve range text none := by
  rw [ScopeReader.resolve_none, resolve]

/-- What is collected at a path. A file that is routed to Swift and is not too large is read and
parsed once. A path with a zero character that is routed to Swift breaks off. Everything else is the
bare top and is not parsed. -/
theorem collected_outcome (files : Files) (path : FilePath) (settings : ResolverSettings)
    (provider : Option TreeProvider) (make : GrammarParser → TreeProvider) (range : CursorRange) :
    let limit := settings.maxFileSizeKb.number * 1024
    let used := provider.getD (make ⟨"swift", settings.acceptPartialTrees⟩)
    let collected := (open? files path settings provider make).resolve range
    (∀ content, path.IsSwift settings → files.HoldsWithin path limit content →
        let text := String.ofList (Utf8.decodeReplacing content)
        collected = (ScopeReader.mk used settings.noteSeparator).resolve range text none ∧
          collected.parses = text :: (used.parse text).parses) ∧
      (path.IsSwift settings → path.hasZero = true →
        collected.value = .error .zeroInPath ∧ collected.parses = []) ∧
      (¬ (path.IsSwift settings ∧ path.hasZero = true) →
        ¬ (path.IsSwift settings ∧ ∃ content, files.HoldsWithin path limit content) →
        collected.value = .ok .bare ∧ collected.parses = []) := by
  intro limit used collected
  refine ⟨?_, ?_, ?_⟩
  · intro content hswift hcontent text
    have hcollected : collected =
        (ScopeReader.mk used settings.noteSeparator).resolve range text none :=
      (congrArg (·.resolve range) (open?_of_holdsWithin hswift hcontent)).trans
        (resolve_readable _ text range)
    refine ⟨hcollected, ?_⟩
    rw [hcollected]
    exact ScopeReader.parses_resolve _ range text none
  · intro hswift hzero
    have hcollected : collected = pure (.error .zeroInPath) :=
      congrArg (·.resolve range) (open?_of_hasZero hswift hzero)
    rw [hcollected]
    exact ⟨rfl, rfl⟩
  · intro hzero hcontent
    have hunresolved : ∃ event, open? files path settings provider make = .unresolved event := by
      by_cases hswift : path.IsSwift settings
      · apply open?_of_not_holdsWithin
        · exact Bool.eq_false_iff.mpr fun h => hzero ⟨hswift, h⟩
        · exact fun content h => hcontent ⟨hswift, content, h⟩
      · exact ⟨_, open?_of_not_isSwift hswift⟩
    obtain ⟨event, hopen⟩ := hunresolved
    have hcollected : collected = resolve (.unresolved event) range :=
      congrArg (·.resolve range) hopen
    rw [hcollected]
    exact ⟨rfl, rfl⟩

end Document

/-- A directory with one file in it, the second byte of which is not UTF-8. -/
def Files.illFormed : Files :=
  ⟨[(["View.SwIfT".toList], .file [0x78, 0xFF])], []⟩

/-- The bytes of a directory's only file, with a replacement for the second one, are parsed; a file
that is not there is not. -/
theorem Document.collected_outcome_illFormed :
    let make : GrammarParser → TreeProvider := fun _ => .constant none
    let read := (open? .illFormed (.ofText "View.SwIfT") .default none make).resolve (.caret 0 0)
    let gone := (open? .illFormed (.ofText "Gone.swift") .default none make).resolve (.caret 0 0)
    read = (ScopeReader.mk (.constant none) "\n").resolve (.caret 0 0) "x\uFFFD" none ∧
      read.parses = ["x\uFFFD"] ∧ gone.value = .ok .bare ∧ gone.parses = [] := by
  intro make read gone
  have hread : (FilePath.ofText "View.SwIfT").IsSwift .default :=
    Or.inl ⟨"SwIfT".toList, ⟨by decide, by decide, "View".toList, by decide, by decide⟩, by decide⟩
  have hholds : Files.illFormed.HoldsWithin (.ofText "View.SwIfT")
      (ResolverSettings.default.maxFileSizeKb.number * 1024) [0x78, 0xFF] :=
    ⟨rfl, by decide⟩
  have htext : String.ofList (Utf8.decodeReplacing [0x78, 0xFF]) = "x\uFFFD" := by
    have hfirst : Utf8.unit 0x78 [0xFF] = (some 'x', [0xFF]) := rfl
    have hsecond : Utf8.unit 0xFF [] = (none, []) := rfl
    rw [Utf8.decodeReplacing, Utf8.units_cons, hfirst, Utf8.units_cons, hsecond, Utf8.units_nil]
    rfl
  obtain ⟨hsame, hparses⟩ := (collected_outcome .illFormed (.ofText "View.SwIfT") .default none make
    (.caret 0 0)).1 _ hread hholds
  rw [htext] at hsame hparses
  obtain ⟨hvalue, hnone⟩ := (collected_outcome .illFormed (.ofText "Gone.swift") .default none make
    (.caret 0 0)).2.2 (by rintro ⟨-, ⟨⟩⟩) (by rintro ⟨-, content, ⟨⟩, -⟩)
  exact ⟨hsame, hparses, hvalue, hnone⟩

/-- Nothing can lie at a path with a zero character, and yet this is not the bare top. -/
theorem Document.collected_breaks_off :
    let path := FilePath.ofText "a\x00.swift"
    let collected :=
      (open? ⟨[], []⟩ path .default none fun _ => .constant none).resolve (.caret 0 0)
    path.IsSwift .default ∧
      (∀ limit content, ¬ Files.HoldsWithin ⟨[], []⟩ path limit content) ∧
      collected.value = .error .zeroInPath ∧ collected.value ≠ .ok .bare := by
  intro path collected
  have hswift : path.IsSwift .default :=
    Or.inl ⟨"swift".toList, ⟨by decide, by decide, "a\x00".toList, by decide, by decide⟩, by decide⟩
  have hcollected : collected = pure (.error .zeroInPath) :=
    congrArg (·.resolve (.caret 0 0)) (open?_of_hasZero hswift rfl)
  refine ⟨hswift, ?_, ?_, ?_⟩
  · rintro limit content ⟨⟨⟩, -⟩
  · rw [hcollected]
    rfl
  · rw [hcollected]
    exact fun h => by cases h

end Enclosure
