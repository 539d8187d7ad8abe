import Enclosure.Parse.Provider

/-!
# What parsing comes to

Code from elsewhere may fail at six points on the way to a tree: when the module of a grammar is
imported, when its function is looked up, when this is called, when a language is built of what it
gives, when a parser is made for the language and when the parser runs. A failure is either expected
at its point, and then parsing gives no tree and reports why, or it escapes. So parsing comes to an
outcome exactly when every failure that happens is expected where it happens.
-/

set_option autoImplicit false

namespace Enclosure

/-- The pack of Swift is found by its name. -/
theorem LanguagePack.ofName?_swift : ofName? "swift" = some .swift := by
  have hlower : LowerCase.lower "swift" = "swift" := by decide +kernel
  unfold ofName?
  rw [hlower]
  rfl

/-- The points at which code from elsewhere may fail on the way to a tree. -/
inductive FailurePoint
  | importing
  | finding
  | calling
  | building
  | making
  | parsing
deriving DecidableEq

/-- The kinds of failures that are expected at a point. -/
def FailurePoint.expected : FailurePoint → List FailureKind
  | .importing | .finding | .calling | .building =>
    [.missingModule, .missingName, .wrongType, .wrongValue]
  | .making => []
  | .parsing => [.wrongValue, .breakdown]

/-- What a failure that is not expected at a point escapes as. -/
def FailurePoint.escape (cause : ForeignFailure) : FailurePoint → Escape
  | .importing | .finding | .calling | .building => .grammarCrashed cause
  | .making | .parsing => .parserCrashed cause

namespace Registry

/-- The module of a pack offers something under the name of the pack's function. -/
def Offers (r : Registry) (pack : LanguagePack) (found : GrammarExport) : Prop :=
  ∃ module, r.importModule pack.grammarModule = .ok module ∧
    offered module pack.function = .ok found

/-- Getting a new language for a pack fails at a point. -/
inductive FailsAt (r : Registry) (pack : LanguagePack) : FailurePoint → ForeignFailure → Prop
  | importing {cause : ForeignFailure} (h : r.importModule pack.grammarModule = .error cause) :
    FailsAt r pack .importing cause
  | finding {module : GrammarModule} {cause : ForeignFailure}
    (hmodule : r.importModule pack.grammarModule = .ok module)
    (h : offered module pack.function = .error cause) : FailsAt r pack .finding cause
  | notFunction (h : r.Offers pack .notFunction) :
    FailsAt r pack .calling ⟨.wrongType, "Not a function"⟩
  | calling {cause : ForeignFailure} (h : r.Offers pack (.failing cause)) :
    FailsAt r pack .calling cause
  | building {cause : ForeignFailure} (h : r.Offers pack (.unusable cause)) :
    FailsAt r pack .building cause

/-- A pack makes of what its package offers what its language function gives. -/
theorem construct_of_offers {r : Registry} {pack : LanguagePack} {found : GrammarExport}
    (h : r.Offers pack found) : r.construct pack = languageOf (r.built + 1) found := by
  obtain ⟨module, hmodule, hfound⟩ := h
  unfold construct
  rw [hmodule]
  change (offered module pack.function >>= _) = _
  rw [hfound]
  rfl

/-- A pack that fails at a point fails with the cause there. -/
theorem construct_of_failsAt {r : Registry} {pack : LanguagePack} {point : FailurePoint}
    {cause : ForeignFailure} (h : r.FailsAt pack point cause) :
    r.construct pack = .error cause := by
  cases h with
  | importing h =>
    unfold construct
    rw [h]
    rfl
  | finding hmodule h =>
    unfold construct
    rw [hmodule]
    change (offered _ pack.function >>= _) = _
    rw [h]
    rfl
  | notFunction h => exact construct_of_offers h
  | calling h => exact construct_of_offers h
  | building h => exact construct_of_offers h

/-- Getting a new language either fails at one of the points or finds a grammar. -/
theorem failsAt_or_offers (r : Registry) (pack : LanguagePack) :
    (∃ point cause, r.FailsAt pack point cause) ∨ r.Offers pack .grammar := by
  cases hmodule : r.importModule pack.grammarModule with
  | error cause => exact Or.inl ⟨_, cause, .importing hmodule⟩
  | ok module =>
    cases hfound : offered module pack.function with
    | error cause => exact Or.inl ⟨_, cause, .finding hmodule hfound⟩
    | ok found =>
      have hoffers : r.Offers pack found := ⟨module, hmodule, hfound⟩
      cases found with
      | notFunction => exact Or.inl ⟨_, _, .notFunction hoffers⟩
      | failing cause => exact Or.inl ⟨_, cause, .calling hoffers⟩
      | unusable cause => exact Or.inl ⟨_, cause, .building hoffers⟩
      | grammar => exact Or.inr hoffers

/-- A failure is handled exactly when its kind is one that is expected at its point. -/
theorem FailsAt.isExpected_iff {r : Registry} {pack : LanguagePack} {point : FailurePoint}
    {cause : ForeignFailure} (h : r.FailsAt pack point cause) (kind : FailureKind) :
    kind.isExpectedOfGrammar = true ↔ kind ∈ point.expected := by
  have hexpected : point.expected =
      [.missingModule, .missingName, .wrongType, .wrongValue] := by
    cases h <;> rfl
  rw [hexpected]
  cases kind <;> decide

/-- A failure that is not handled while a grammar is loaded escapes as one of the grammar. -/
theorem FailsAt.escape_eq {r : Registry} {pack : LanguagePack} {point : FailurePoint}
    {cause : ForeignFailure} (h : r.FailsAt pack point cause) :
    point.escape cause = .grammarCrashed cause := by
  cases h <;> rfl

end Registry

namespace GrammarParser

/-- The parser's language is new: it has a pack, and nothing is kept under its grammar's name. -/
def WantsNew (p : GrammarParser) (registry : Registry) (pack : LanguagePack) : Prop :=
  LanguagePack.ofName? p.language = some pack ∧ registry.language? pack.grammarName = none

/-- The parser's language is there: it is kept, or it can be built. -/
def IsSupplied (p : GrammarParser) (registry : Registry) : Prop :=
  ∃ pack, LanguagePack.ofName? p.language = some pack ∧
    (registry.language? pack.grammarName ≠ none ∨ registry.Offers pack .grammar)

/-- Code from elsewhere fails at a point when a text is parsed that the parser would make a report
about. -/
inductive FailsAt (p : GrammarParser) (registry : Registry) (report : ParserReport) :
    FailurePoint → ForeignFailure → Prop
  | grammar {pack : LanguagePack} {point : FailurePoint} {cause : ForeignFailure}
    (hwants : p.WantsNew registry pack) (h : registry.FailsAt pack point cause) :
    FailsAt p registry report point cause
  | making {cause : ForeignFailure} (hsupplied : p.IsSupplied registry)
    (h : report = .unmade cause) : FailsAt p registry report .making cause
  | parsing {cause : ForeignFailure} (hsupplied : p.IsSupplied registry)
    (h : report = .failed cause) : FailsAt p registry report .parsing cause

/-- Parsing gave no tree and reported one event, that the parser is not available. -/
def Unavailable (p : GrammarParser) (t : Traced (Except Escape (Option ParsedTree))) : Prop :=
  t.value = .ok none ∧ ∃ cause, t.events = [.parserUnavailable p.language cause]

variable {p : GrammarParser} {registry : Registry} {engine : List UInt8 → ParserReport}
  {text : String}

/-- With its language supplied, a parser accepts what the engine reports. -/
theorem parse_of_supplied (h : p.IsSupplied registry) :
    (p.parse registry engine text).1 =
      p.accept (Utf8.encode text) (engine (Utf8.encode text)) := by
  obtain ⟨pack, hpack, hkept⟩ := h
  have hget : ∃ language, (registry.get p.language).1 = .ok language := by
    unfold Registry.get
    rw [hpack]
    dsimp only
    unfold Registry.load
    cases hlanguage : registry.language? pack.grammarName with
    | some language => exact ⟨language, rfl⟩
    | none =>
      have hoffers : registry.Offers pack .grammar := hkept.resolve_left (by simp [hlanguage])
      unfold Registry.build
      rw [Registry.construct_of_offers hoffers]
      exact ⟨_, rfl⟩
  obtain ⟨language, hget⟩ := hget
  unfold parse
  split
  · rfl
  · next heq =>
    rw [heq] at hget
    cases hget
  · next heq =>
    rw [heq] at hget
    cases hget

/-- A parser whose grammar cannot be loaded gives no tree if that is expected, and breaks off
otherwise. -/
theorem parse_of_wantsNew {pack : LanguagePack} {point : FailurePoint} {cause : ForeignFailure}
    (hwants : p.WantsNew registry pack) (h : registry.FailsAt pack point cause) :
    (p.parse registry engine text).1 =
      if cause.kind.isExpectedOfGrammar then do
        Traced.report (.parserUnavailable p.language
          (.grammarUnavailable pack.name (some pack.grammarPackage)))
        return .ok none
      else pure (.error (.grammarCrashed cause)) := by
  have hget : registry.get p.language =
      (if cause.kind.isExpectedOfGrammar then
        .error (.unavailable (.grammarUnavailable pack.name (some pack.grammarPackage)))
      else .error (.crashed cause), registry) := by
    unfold Registry.get
    rw [hwants.1]
    dsimp only
    unfold Registry.load
    rw [hwants.2]
    dsimp only
    unfold Registry.build
    rw [Registry.construct_of_failsAt h]
    by_cases hkind : cause.kind.isExpectedOfGrammar = true
    · simp only [hkind, if_true]
    · simp only [hkind, Bool.false_eq_true, if_false]
  unfold parse
  rw [hget]
  by_cases hkind : cause.kind.isExpectedOfGrammar = true
  · simp only [hkind, if_true]
  · simp only [hkind, Bool.false_eq_true, if_false]

/-- A parser of a language without a pack gives no tree and reports that. -/
theorem parse_of_unknown (h : LanguagePack.ofName? p.language = none) :
    (p.parse registry engine text).1 = (do
      Traced.report (.parserUnavailable p.language (.grammarUnavailable p.language none))
      return .ok none) := by
  unfold parse Registry.get
  rw [h]

/-- A failure of the engine gives no tree if it is expected, and breaks off otherwise. -/
theorem accept_failed {source : List UInt8} {cause : ForeignFailure} :
    p.accept source (.failed cause) =
      if cause.kind.isExpectedOfParser then do
        Traced.report (.parserUnavailable p.language (.parserFailed p.language cause.message))
        return .ok none
      else pure (.error (.parserCrashed cause)) := rfl

/-- Reporting that there is no parser and giving no tree counts as unavailable. -/
theorem unavailable_report (p : GrammarParser) (cause : ParseError) :
    p.Unavailable (do
      Traced.report (.parserUnavailable p.language cause)
      return .ok none) :=
  ⟨rfl, cause, rfl⟩

/-- A failure that is expected at its point is reported, and any other one escapes. -/
theorem parse_of_failsAt {point : FailurePoint} {cause : ForeignFailure}
    (h : p.FailsAt registry (engine (Utf8.encode text)) point cause) :
    if cause.kind ∈ point.expected then p.Unavailable (p.parse registry engine text).1
    else (p.parse registry engine text).1 = pure (.error (point.escape cause)) := by
  cases h with
  | grammar hwants h =>
    rw [parse_of_wantsNew hwants h, h.escape_eq]
    by_cases hkind : cause.kind.isExpectedOfGrammar = true
    · rw [if_pos ((h.isExpected_iff _).mp hkind), if_pos hkind]
      exact unavailable_report p _
    · rw [if_neg (mt (h.isExpected_iff _).mpr hkind), if_neg hkind]
  | making hsupplied h =>
    rw [parse_of_supplied hsupplied, h, if_neg (by simp [FailurePoint.expected])]
    rfl
  | parsing hsupplied h =>
    have hexpected : cause.kind.isExpectedOfParser = true ↔
        cause.kind ∈ FailurePoint.parsing.expected := by
      cases cause.kind <;> decide
    rw [parse_of_supplied hsupplied, h, accept_failed]
    by_cases hkind : cause.kind.isExpectedOfParser = true
    · rw [if_pos (hexpected.mp hkind), if_pos hkind]
      exact unavailable_report p _
    · rw [if_neg (mt hexpected.mpr hkind), if_neg hkind]
      rfl

/-- Parsing with nothing that fails: there is no pack for the language, or the parser makes a tree,
which is given unless it holds errors and only whole trees are wanted. -/
def Succeeds (p : GrammarParser) (report : ParserReport)
    (t : Traced (Except Escape (Option ParsedTree))) : Prop :=
  LanguagePack.ofName? p.language = none ∧ p.Unavailable t ∨
    ∃ root hasError, report = .tree root hasError ∧
      if hasError = true ∧ p.acceptPartialTrees = false then
        t.value = .ok none ∧ t.events = [.treeRejected p.language root.errorCount]
      else ∃ tree, t.value = .ok (some tree) ∧ tree.root = root ∧ t.events = []

/-- Parsing succeeds if nothing fails at any point. -/
theorem succeeds_of_not_failsAt
    (h : ∀ point cause, ¬ p.FailsAt registry (engine (Utf8.encode text)) point cause) :
    p.Succeeds (engine (Utf8.encode text)) (p.parse registry engine text).1 := by
  cases hpack : LanguagePack.ofName? p.language with
  | none =>
    left
    rw [parse_of_unknown hpack]
    exact ⟨hpack, unavailable_report p _⟩
  | some pack =>
    right
    have hsupplied : p.IsSupplied registry := by
      refine ⟨pack, hpack, ?_⟩
      by_cases hkept : registry.language? pack.grammarName = none
      · right
        rcases registry.failsAt_or_offers pack with ⟨point, cause, hfails⟩ | hoffers
        · exact absurd (.grammar ⟨hpack, hkept⟩ hfails) (h point cause)
        · exact hoffers
      · exact Or.inl hkept
    rw [parse_of_supplied hsupplied]
    cases hreport : engine (Utf8.encode text) with
    | unmade cause => exact absurd (.making hsupplied hreport) (h _ cause)
    | failed cause => exact absurd (.parsing hsupplied hreport) (h _ cause)
    | tree root hasError =>
      refine ⟨root, hasError, rfl, ?_⟩
      unfold accept
      cases hasError with
      | false => exact ⟨_, rfl, rfl, rfl⟩
      | true =>
        cases hpartial : p.acceptPartialTrees with
        | true => exact ⟨_, rfl, rfl, rfl⟩
        | false => exact ⟨rfl, rfl⟩

/-- Parsing that succeeds does not break off. -/
theorem Succeeds.exists_outcome {report : ParserReport}
    {t : Traced (Except Escape (Option ParsedTree))} (h : p.Succeeds report t) :
    ∃ outcome, t.value = .ok outcome := by
  rcases h with ⟨-, h⟩ | ⟨root, hasError, -, h⟩
  · exact ⟨none, h.1⟩
  · split at h
    · exact ⟨none, h.1⟩
    · obtain ⟨tree, hvalue, -⟩ := h
      exact ⟨some tree, hvalue⟩

/-- Parsing comes to an outcome exactly when every failure of code from elsewhere is expected where
it happens. An expected failure gives no tree and is reported, any other one escapes, and without
failures there is a tree or the reason why there is none. -/
theorem parse_outcome (p : GrammarParser) (registry : Registry)
    (engine : List UInt8 → ParserReport) (text : String) :
    let t := (p.parse registry engine text).1
    let fails := p.FailsAt registry (engine (Utf8.encode text))
    ((∃ outcome, t.value = .ok outcome) ↔
        ∀ point cause, fails point cause → cause.kind ∈ point.expected) ∧
      (∀ point cause, fails point cause → cause.kind ∈ point.expected → p.Unavailable t) ∧
      (∀ point cause, fails point cause → cause.kind ∉ point.expected →
        t.value = .error (point.escape cause)) ∧
      ((∀ point cause, ¬ fails point cause) → p.Succeeds (engine (Utf8.encode text)) t) := by
  intro t fails
  have hexpected (point : FailurePoint) (cause : ForeignFailure) (h : fails point cause)
      (hkind : cause.kind ∈ point.expected) : p.Unavailable t := by
    have hparse := parse_of_failsAt h
    rwa [if_pos hkind] at hparse
  have hescapes (point : FailurePoint) (cause : ForeignFailure) (h : fails point cause)
      (hkind : cause.kind ∉ point.expected) : t.value = .error (point.escape cause) := by
    have hparse := parse_of_failsAt h
    rw [if_neg hkind] at hparse
    exact congrArg Traced.value hparse
  refine ⟨⟨?_, ?_⟩, hexpected, hescapes, succeeds_of_not_failsAt⟩
  · rintro ⟨outcome, hvalue⟩ point cause h
    by_cases hkind : cause.kind ∈ point.expected
    · exact hkind
    · rw [hescapes point cause h hkind] at hvalue
      cases hvalue
  · intro h
    by_cases hfails : ∃ point cause, fails point cause
    · obtain ⟨point, cause, hfails⟩ := hfails
      exact ⟨none, (hexpected point cause hfails (h point cause hfails)).1⟩
    · have hnone : ∀ point cause, ¬ fails point cause :=
        fun point cause hf => hfails ⟨point, cause, hf⟩
      exact (succeeds_of_not_failsAt hnone).exists_outcome

end GrammarParser

/-- A registry with a module for Swift of whose grammar no language can be built. -/
def Registry.broken : Registry :=
  Registry.empty.define "tree_sitter_swift"
    (.ok [("language", .unusable ⟨.breakdown, "boom"⟩)])

namespace GrammarParser

/-- Building the language breaks down; this is not reported, and it escapes. -/
theorem parse_escapes_breakdown :
    let t := ((GrammarParser.mk "swift" false).parse .broken
      (fun _ => .tree (.mk "source_file" ⟨0, 0⟩ ⟨1, 0⟩ false []) false) "x\n").1
    t.value = .error (.grammarCrashed ⟨.breakdown, "boom"⟩) ∧ t.events = [] ∧
      ¬ ∃ outcome, t.value = .ok outcome := by
  intro t
  have hfails : Registry.broken.FailsAt .swift .building ⟨.breakdown, "boom"⟩ :=
    .building ⟨_, rfl, rfl⟩
  have hparse : t = pure (.error (.grammarCrashed ⟨.breakdown, "boom"⟩)) :=
    parse_of_wantsNew (p := ⟨"swift", false⟩) ⟨LanguagePack.ofName?_swift, rfl⟩ hfails
  rw [hparse]
  refine ⟨rfl, rfl, ?_⟩
  rintro ⟨outcome, h⟩
  cases h

end GrammarParser

end Enclosure
