import Enclosure.Proofs.Scope.Collected
import Enclosure.Proofs.Scope.Reports

/-!
# Reasons for the top

A document resolves to the top for one of six causes. Where there is no reader, no tree or no scope
around the cursor, an event with a code of resolving as its reason is reported. A document that is
too large or cannot be read is reported without a reason. A function or a property around the cursor
is not reported by the reader at all.
-/

set_option autoImplicit false

namespace Enclosure

/-- An event has a field for its reason, with the name of a code about resolving a cursor. -/
def Event.GivesReason (e : Event) : Prop :=
  ∃ code : ErrorCode, code.isResolve = true ∧ ("reason", Value.str code.name) ∈ e.fields

namespace Event

/-- An event with the code of a failure to resolve gives a reason. -/
theorem givesReason_of_reason? {e : Event} {code : ErrorCode} (h : e.reason? = some code)
    (hcode : code.isResolve = true) : e.GivesReason := by
  refine ⟨code, hcode, ?_⟩
  rw [fields, h]
  exact List.mem_cons_self

/-- That there is no reader is reported with a reason. -/
theorem givesReason_noReader (path : String) (language : Option String) :
    (noReader path language).GivesReason :=
  givesReason_of_reason? rfl rfl

/-- That there is no tree is reported with a reason. -/
theorem givesReason_noTree : noTree.GivesReason :=
  givesReason_of_reason? rfl rfl

/-- That there is no scope is reported with a reason. -/
theorem givesReason_scopeNotFound (range : CursorRange) : (scopeNotFound range).GivesReason :=
  givesReason_of_reason? rfl rfl

/-- That a file is too large is reported without a reason. -/
theorem not_givesReason_fileTooLarge (path : String) (size : Nat) :
    ¬ (fileTooLarge path size).GivesReason := by
  rintro ⟨code, -, h⟩
  simp [fields, reason?, details] at h

/-- That a file cannot be read is reported without a reason. -/
theorem not_givesReason_readFailed (path : String) : ¬ (readFailed path).GivesReason := by
  rintro ⟨code, -, h⟩
  simp [fields, reason?, details] at h

end Event

/-- The kinds of the nodes that open a scope and are not described. -/
def undescribedKinds : List String :=
  ["function_declaration", "property_declaration", "computed_property"]

/-- Why a document resolves to the top. -/
inductive TopCause
  | noReader
  | tooLarge
  | unreadable
  | noTree
  | noScope
  | undescribed
deriving DecidableEq

/-- When a document at a path resolves to the top for a cause, with the trees of a provider. -/
inductive TopCause.Applies (files : Files) (path : FilePath) (settings : ResolverSettings)
    (used : TreeProvider) (range : CursorRange) : TopCause → Prop
  | noReader : ¬ path.IsSwift settings → Applies files path settings used range .noReader
  | tooLarge {entry : FileEntry} : path.IsSwift settings → files.lookup path = .ok entry →
      settings.maxFileSizeKb.number * 1024 < entry.size →
      Applies files path settings used range .tooLarge
  | missing {failure : LookupFailure} : path.IsSwift settings → path.hasZero = false →
      files.lookup path = .error failure → Applies files path settings used range .unreadable
  | directory : path.IsSwift settings → files.lookup path = .ok .directory →
      FileEntry.directory.size ≤ settings.maxFileSizeKb.number * 1024 →
      Applies files path settings used range .unreadable
  | noTree {content : List UInt8} : path.IsSwift settings →
      files.HoldsWithin path (settings.maxFileSizeKb.number * 1024) content →
      (used.parse (String.ofList (Utf8.decodeReplacing content))).value = .ok none →
      Applies files path settings used range .noTree
  | noScope {content : List UInt8} {t : SyntaxTree} {root : Node} : path.IsSwift settings →
      files.HoldsWithin path (settings.maxFileSizeKb.number * 1024) content →
      (used.parse (String.ofList (Utf8.decodeReplacing content))).value = .ok (some t) →
      t.around range = .ok root → (∀ p, ¬ Place.SmallestScope root range p) →
      Applies files path settings used range .noScope
  | undescribed {content : List UInt8} {t : SyntaxTree} {root : Node} {p : Place} :
      path.IsSwift settings →
      files.HoldsWithin path (settings.maxFileSizeKb.number * 1024) content →
      (used.parse (String.ofList (Utf8.decodeReplacing content))).value = .ok (some t) →
      t.around range = .ok root → Place.SmallestScope root range p →
      p.node.kind ∈ undescribedKinds → Applies files path settings used range .undescribed

/-- What is reported of a document for a cause: an event with a reason, or events without one. Of a
document that is read, only its provider may report something. -/
def TopCause.Reported (files : Files) (path : FilePath) (settings : ResolverSettings)
    (used : TreeProvider) (events : List Event) : TopCause → Prop
  | .noReader | .noTree | .noScope => ∃ e ∈ events, e.GivesReason
  | .tooLarge | .unreadable => events ≠ [] ∧ ∀ e ∈ events, ¬ e.GivesReason
  | .undescribed => ∃ content,
    files.HoldsWithin path (settings.maxFileSizeKb.number * 1024) content ∧
      events = (used.parse (String.ofList (Utf8.decodeReplacing content))).events

namespace Reader

variable {root : Node} {range : CursorRange} {p : Place}

/-- Without a scope around the range, the answer is the top, and this is reported. -/
theorem locate_of_none (h : ∀ p, ¬ Place.SmallestScope root range p) (lines : List String)
    (notes : String) :
    locate root range lines notes = ⟨⟨.top, notes⟩, [.report (.scopeNotFound range)]⟩ := by
  have hfound : root.smallestPlace? range Node.isScopeBearing = none := by
    cases hplace : root.smallestPlace? range Node.isScopeBearing with
    | none => rfl
    | some p => exact absurd (Place.smallestScope_iff.mpr hplace) (h p)
  unfold locate Node.smallest?
  rw [hfound]
  rfl

/-- A scope that is not described is answered with the top, and nothing is reported. -/
theorem locate_of_undescribed (h : Place.SmallestScope root range p)
    (hkind : p.node.kind ∈ undescribedKinds) (lines : List String) (notes : String) :
    locate root range lines notes = ⟨⟨.top, notes⟩, []⟩ := by
  have hdescribe : describe lines p.node = pure .top := by
    unfold describe
    simp only [undescribedKinds, List.mem_cons, List.not_mem_nil, or_false] at hkind
    rcases hkind with hkind | hkind | hkind <;> rw [hkind] <;> rfl
  unfold locate Node.smallest?
  rw [Place.smallestScope_iff.mp h]
  dsimp only [Option.map_some]
  rw [hdescribe]
  rfl

/-- The top is found only where there is no scope or one that is not described. -/
theorem cases_of_locate_top {lines : List String} {notes : String}
    (h : (locate root range lines notes).value.scope = .top) :
    (∀ p, ¬ Place.SmallestScope root range p) ∨
      ∃ p, Place.SmallestScope root range p ∧ p.node.kind ∈ undescribedKinds := by
  by_cases hnone : ∃ p, Place.SmallestScope root range p
  · obtain ⟨p, hp⟩ := hnone
    have hbearing : p.node.kind ∈ scopeBearingKinds := of_decide_eq_true hp.accepted
    have hdescribed : p.node.kind ∉ ["protocol_declaration", "class_declaration"] := by
      intro hkind
      obtain ⟨kind, name, span, hvalue⟩ :=
        (value_describe_enclosed_iff lines p.node).mpr hkind
      unfold locate Node.smallest? at h
      rw [Place.smallestScope_iff.mp hp] at h
      simp [hvalue] at h
    refine .inr ⟨p, hp, ?_⟩
    simp only [scopeBearingKinds, undescribedKinds, List.mem_cons] at hbearing hdescribed ⊢
    tauto
  · exact .inl (not_exists.mp hnone)

end Reader

namespace ScopeReader

variable {reader : ScopeReader} {range : CursorRange} {text : String}

/-- What a reader answers with a parsed tree is what is found in the tree. -/
theorem value_contextOf {t : SyntaxTree} {root : Node}
    (hparse : (reader.provider.parse text).value = .ok (some t))
    (hseen : t.around range = .ok root) (lines : List String) :
    (reader.contextOf range text lines).value =
      .ok (Reader.context (some root) range text lines reader.separator).value := by
  unfold contextOf
  simp only [Traced.value_bind, hparse, hseen]
  rfl

/-- What a reader answers has come from no tree or from a tree that could be looked at. -/
theorem cases_of_contextOf {lines : List String} {d : Descriptor}
    (h : (reader.contextOf range text lines).value = .ok d) :
    (reader.provider.parse text).value = .ok none ∨
      ∃ t root, (reader.provider.parse text).value = .ok (some t) ∧ t.around range = .ok root ∧
        d = (Reader.context (some root) range text lines reader.separator).value := by
  cases hparse : (reader.provider.parse text).value with
  | error escape =>
    unfold contextOf at h
    simp [hparse] at h
  | ok tree =>
    cases tree with
    | none => exact .inl rfl
    | some t =>
      cases hseen : t.around range with
      | error fault =>
        unfold contextOf at h
        simp [hparse, hseen] at h
      | ok root =>
        rw [value_contextOf hparse hseen] at h
        exact .inr ⟨t, root, rfl, hseen, (Except.ok.inj h).symm⟩

/-- Without a tree, a reader answers with the bare top and reports that. -/
theorem contextOf_of_none (h : (reader.provider.parse text).value = .ok none)
    (range : CursorRange) (lines : List String) :
    (reader.contextOf range text lines).value = .ok .bare ∧
      (reader.contextOf range text lines).events =
        (reader.provider.parse text).events ++ [.noTree] := by
  unfold contextOf
  simp only [Traced.value_bind, Traced.events_bind, h]
  exact ⟨rfl, rfl⟩

end ScopeReader

namespace Document

variable {files : Files} {path : FilePath} {settings : ResolverSettings}
  {provider : Option TreeProvider} {make : GrammarParser → TreeProvider}

/-- A document that is too large is not resolved, and its size is reported. -/
theorem open?_of_tooLarge {entry : FileEntry} (hswift : path.IsSwift settings)
    (hlookup : files.lookup path = .ok entry)
    (hsize : settings.maxFileSizeKb.number * 1024 < entry.size) :
    open? files path settings provider make =
      .unresolved (.fileTooLarge path.text entry.size) := by
  unfold open?
  rw [route_of_isSwift hswift, hlookup]
  exact if_pos hsize

/-- A document that is not there is not resolved, and that is reported. -/
theorem open?_of_missing {failure : LookupFailure} (hswift : path.IsSwift settings)
    (hzero : path.hasZero = false) (hlookup : files.lookup path = .error failure) :
    open? files path settings provider make = .unresolved (.readFailed path.text) := by
  have hne : failure ≠ .invalid .zeroCharacter := by
    rintro rfl
    rw [Files.lookup_eq_zeroCharacter_iff, hzero] at hlookup
    cases hlookup
  unfold open?
  rw [route_of_isSwift hswift, hlookup]
  dsimp only
  split
  · next heq =>
    cases heq
    exact absurd rfl hne
  · rfl
  · next heq => cases heq

/-- A directory is not resolved, and that is reported. -/
theorem open?_of_directory (hswift : path.IsSwift settings)
    (hlookup : files.lookup path = .ok .directory)
    (hsize : FileEntry.directory.size ≤ settings.maxFileSizeKb.number * 1024) :
    open? files path settings provider make = .unresolved (.readFailed path.text) := by
  unfold open?
  rw [route_of_isSwift hswift, hlookup]
  exact if_neg (Nat.not_lt.mpr hsize)

/-- A document resolves to the top only for a cause. -/
theorem exists_cause_of_top {range : CursorRange} {d : Descriptor}
    (h : ((open? files path settings provider make).resolve range).value = .ok d)
    (htop : d.scope = .top) :
    ∃ cause : TopCause, cause.Applies files path settings
      (provider.getD (make ⟨"swift", settings.acceptPartialTrees⟩)) range := by
  by_cases hswift : path.IsSwift settings
  · cases hlookup : files.lookup path with
    | error failure =>
      have hzero : path.hasZero = false := by
        rw [Bool.eq_false_iff]
        intro hzero
        rw [open?_of_hasZero hswift hzero] at h
        cases h
      exact ⟨.unreadable, .missing hswift hzero hlookup⟩
    | ok entry =>
      by_cases hsize : settings.maxFileSizeKb.number * 1024 < entry.size
      · exact ⟨.tooLarge, .tooLarge hswift hlookup hsize⟩
      · cases entry with
        | directory => exact ⟨.unreadable, .directory hswift hlookup (Nat.not_lt.mp hsize)⟩
        | file content =>
          have hholds : files.HoldsWithin path (settings.maxFileSizeKb.number * 1024) content :=
            ⟨hlookup, Nat.not_lt.mp hsize⟩
          rw [open?_of_holdsWithin hswift hholds] at h
          rcases ScopeReader.cases_of_contextOf h with hparse | ⟨t, root, hparse, hseen, rfl⟩
          · exact ⟨.noTree, .noTree hswift hholds hparse⟩
          · rcases Reader.cases_of_locate_top htop with hnone | ⟨p, hp, hkind⟩
            · exact ⟨.noScope, .noScope hswift hholds hparse hseen hnone⟩
            · exact ⟨.undescribed, .undescribed hswift hholds hparse hseen hp hkind⟩
  · exact ⟨.noReader, .noReader hswift⟩

/-- Where a cause applies, a document resolves to the top, and that is reported as for the cause. -/
theorem top_of_applies (provider : Option TreeProvider) (make : GrammarParser → TreeProvider)
    {range : CursorRange} {cause : TopCause}
    (h : cause.Applies files path settings
      (provider.getD (make ⟨"swift", settings.acceptPartialTrees⟩)) range) :
    let collected := (open? files path settings provider make).resolve range
    (∃ d, collected.value = .ok d ∧ d.scope = .top) ∧
      cause.Reported files path settings
        (provider.getD (make ⟨"swift", settings.acceptPartialTrees⟩)) collected.events := by
  intro collected
  have hevent {event : Event} (hopen : open? files path settings provider make =
      .unresolved event) : (∃ d, collected.value = .ok d ∧ d.scope = .top) ∧
        collected.events = [event] := by
    have hcollected : collected = (unresolved event).resolve range :=
      congrArg (·.resolve range) hopen
    rw [hcollected]
    exact ⟨⟨.bare, rfl, rfl⟩, rfl⟩
  let reader : ScopeReader :=
    ⟨provider.getD (make ⟨"swift", settings.acceptPartialTrees⟩), settings.noteSeparator⟩
  let text (content : List UInt8) : String := String.ofList (Utf8.decodeReplacing content)
  have hread {content : List UInt8} (hswift : path.IsSwift settings)
      (hholds : files.HoldsWithin path (settings.maxFileSizeKb.number * 1024) content) :
      collected = reader.contextOf range (text content) (Lines.split (text content)) :=
    congrArg (·.resolve range) (open?_of_holdsWithin hswift hholds)
  cases h with
  | noReader hswift =>
    obtain ⟨htop, hevents⟩ := hevent (open?_of_not_isSwift hswift)
    refine ⟨htop, ?_⟩
    simp [TopCause.Reported, hevents, Event.givesReason_noReader]
  | tooLarge hswift hlookup hsize =>
    obtain ⟨htop, hevents⟩ := hevent (open?_of_tooLarge hswift hlookup hsize)
    refine ⟨htop, ?_⟩
    simp [TopCause.Reported, hevents, Event.not_givesReason_fileTooLarge]
  | missing hswift hzero hlookup =>
    obtain ⟨htop, hevents⟩ := hevent (open?_of_missing hswift hzero hlookup)
    refine ⟨htop, ?_⟩
    simp [TopCause.Reported, hevents, Event.not_givesReason_readFailed]
  | directory hswift hlookup hsize =>
    obtain ⟨htop, hevents⟩ := hevent (open?_of_directory hswift hlookup hsize)
    refine ⟨htop, ?_⟩
    simp [TopCause.Reported, hevents, Event.not_givesReason_readFailed]
  | @noTree content hswift hholds hparse =>
    obtain ⟨hvalue, hevents⟩ := reader.contextOf_of_none hparse range (Lines.split (text content))
    rw [hread hswift hholds]
    refine ⟨⟨.bare, hvalue, rfl⟩, .noTree, ?_, Event.givesReason_noTree⟩
    rw [hevents]
    exact List.mem_append_right _ (List.mem_singleton.mpr rfl)
  | @noScope content t root hswift hholds hparse hseen hnone =>
    have hvalue := reader.value_contextOf hparse hseen (Lines.split (text content))
    have hevents := reader.events_contextOf hparse hseen (Lines.split (text content))
    rw [Reader.context, Reader.locate_of_none hnone] at hvalue hevents
    rw [hread hswift hholds]
    refine ⟨⟨_, hvalue, rfl⟩, .scopeNotFound range, ?_, Event.givesReason_scopeNotFound range⟩
    rw [hevents]
    exact List.mem_append_right _ (List.mem_singleton.mpr rfl)
  | @undescribed content t root p hswift hholds hparse hseen hp hkind =>
    have hvalue := reader.value_contextOf hparse hseen (Lines.split (text content))
    have hevents := reader.events_contextOf hparse hseen (Lines.split (text content))
    rw [Reader.context, Reader.locate_of_undescribed hp hkind] at hvalue hevents
    rw [hread hswift hholds]
    refine ⟨⟨_, hvalue, rfl⟩, _, hholds, ?_⟩
    rw [hevents]
    exact List.append_nil _

/-- A document resolves to the top exactly where a cause applies. No reader, no tree and no scope
around the cursor are reported with a reason. A document that is too large or cannot be read is
reported, but by events without a reason. Where a function or a property is around the cursor, the
reader reports nothing. -/
theorem top_reported (files : Files) (path : FilePath) (settings : ResolverSettings)
    (provider : Option TreeProvider) (make : GrammarParser → TreeProvider) (range : CursorRange) :
    let used := provider.getD (make ⟨"swift", settings.acceptPartialTrees⟩)
    let collected := (open? files path settings provider make).resolve range
    ((∃ d, collected.value = .ok d ∧ d.scope = .top) ↔
        ∃ cause : TopCause, cause.Applies files path settings used range) ∧
      ∀ cause : TopCause, cause.Applies files path settings used range →
        cause.Reported files path settings used collected.events := by
  intro used collected
  refine ⟨⟨?_, ?_⟩, ?_⟩
  · rintro ⟨d, hvalue, htop⟩
    exact exists_cause_of_top hvalue htop
  · rintro ⟨cause, hcause⟩
    exact (top_of_applies provider make hcause).1
  · intro cause hcause
    exact (top_of_applies provider make hcause).2

end Document

/-- A function on one line. -/
def Node.functionF : Node :=
  .mk "function_declaration" ⟨⟨0, 0⟩, ⟨0, 11⟩, by decide⟩ []

/-- Files of which one holds a function and one is longer than 1024 bytes. -/
def Files.functionAndBlanks : Files :=
  ⟨[(["F.swift".toList], .file (Utf8.encode "func f() \x7b\x7d")),
    (["Blank.swift".toList], .file (List.replicate 1025 0x20))], []⟩

/-- The settings with the least limit on the size of documents. -/
def ResolverSettings.tight : ResolverSettings :=
  { default with maxFileSizeKb := ⟨1, by decide⟩ }

/-- A name that ends in `.swift` is routed to Swift. -/
theorem FilePath.isSwift_of_stem {path : FilePath} (stem : List Char)
    (hname : path.name = stem ++ ".swift".toList) (hstem : stem ≠ [])
    (settings : ResolverSettings) : path.IsSwift settings :=
  .inl ⟨"swift".toList, ⟨by decide, by decide, stem, hstem, hname⟩, by decide⟩

namespace Document

/-- A cursor in a function is at the top, and nothing is reported. -/
theorem top_reported_function :
    let path := FilePath.ofText "F.swift"
    let provider := TreeProvider.constant (some .functionF)
    let collected := (open? .functionAndBlanks path .tight (some provider)
      fun _ => .constant none).resolve (.caret 0 5)
    TopCause.undescribed.Applies .functionAndBlanks path .tight provider (.caret 0 5) ∧
      (∃ d, collected.value = .ok d ∧ d.scope = .top) ∧ collected.events = [] := by
  intro path provider collected
  have hswift : path.IsSwift .tight := FilePath.isSwift_of_stem ['F'] rfl (by decide) _
  have hholds : Files.functionAndBlanks.HoldsWithin path
      (ResolverSettings.tight.maxFileSizeKb.number * 1024) (Utf8.encode "func f() \x7b\x7d") :=
    ⟨rfl, by decide⟩
  have hsmallest : Place.SmallestScope .functionF (.caret 0 5) (.root .functionF) := by
    rw [Place.smallestScope_iff]
    apply Node.smallestPlace?_eq_root (by decide) (by decide)
    intro c hc
    cases hc
  have hcause : TopCause.undescribed.Applies .functionAndBlanks path .tight provider
      (.caret 0 5) :=
    .undescribed (t := .given .functionF) hswift hholds rfl rfl hsmallest (by decide)
  obtain ⟨htop, hreported⟩ := top_reported .functionAndBlanks path .tight (some provider)
    (fun _ => .constant none) (.caret 0 5)
  obtain ⟨content, -, hevents⟩ := hreported .undescribed hcause
  exact ⟨hcause, htop.mpr ⟨_, hcause⟩, hevents⟩

/-- Two documents resolve to the top, one that is too large and one that is not there, and no event
gives a reason. -/
theorem top_unreasoned :
    let collect (name : String) := (open? .functionAndBlanks (.ofText name) .tight none
      fun _ => .constant none).resolve (.caret 0 0)
    let applies (cause : TopCause) (name : String) :=
      cause.Applies .functionAndBlanks (.ofText name) .tight (.constant none) (.caret 0 0)
    (applies .tooLarge "Blank.swift" ∧
        (∃ d, (collect "Blank.swift").value = .ok d ∧ d.scope = .top) ∧
        ¬ ∃ e ∈ (collect "Blank.swift").events, e.GivesReason) ∧
      applies .unreadable "Gone.swift" ∧
        (∃ d, (collect "Gone.swift").value = .ok d ∧ d.scope = .top) ∧
        ¬ ∃ e ∈ (collect "Gone.swift").events, e.GivesReason := by
  intro collect applies
  have hlarge : applies .tooLarge "Blank.swift" := by
    have hlimit : ResolverSettings.tight.maxFileSizeKb.number * 1024 <
        (FileEntry.file (List.replicate 1025 0x20)).size := by
      rw [FileEntry.size, List.length_replicate]
      decide
    exact .tooLarge (FilePath.isSwift_of_stem "Blank".toList rfl (by decide) _) rfl hlimit
  have hgone : applies .unreadable "Gone.swift" :=
    .missing (FilePath.isSwift_of_stem "Gone".toList rfl (by decide) _) rfl rfl
  obtain ⟨htoplarge, -, hnonelarge⟩ :=
    top_of_applies none (fun _ => .constant none) hlarge
  obtain ⟨htopgone, -, hnonegone⟩ :=
    top_of_applies none (fun _ => .constant none) hgone
  refine ⟨⟨hlarge, htoplarge, ?_⟩, hgone, htopgone, ?_⟩
  · rintro ⟨e, he, hreason⟩
    exact hnonelarge e he hreason
  · rintro ⟨e, he, hreason⟩
    exact hnonegone e he hreason

end Document

end Enclosure
