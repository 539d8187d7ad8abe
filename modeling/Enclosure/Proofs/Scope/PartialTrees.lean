import Enclosure.Proofs.Grammar.Runs
import Enclosure.Proofs.Parse.ErrorCount
import Enclosure.Scope.Reader

/-!
# Whole trees only, and partial trees as well

Of two parsers for one language one takes whole trees only and the other partial trees as well. They
can be told apart on a text only if the parser makes a tree of it that is flagged to hold syntax
errors: then the one gives nothing, so that every cursor is at the bare top, and the other gives the
tree with the number of its errors. In every other case they do the same, step by step.
-/

set_option autoImplicit false

namespace Enclosure

namespace GrammarParser

/-- No tree is made of a text for a reason that is handled: there is no pack for the language, or
code from elsewhere fails as is expected of it. -/
def GivesUp (p : GrammarParser) (registry : Registry) (report : ParserReport) : Prop :=
  LanguagePack.ofName? p.language = none ∨
    ∃ point cause, p.FailsAt registry report point cause ∧ cause.kind ∈ point.expected

/-- Two parsers do the same with a text, and readers that use them answer alike for every cursor,
with the same events on the way. -/
structure AgreeOn (p q : GrammarParser) (registry : Registry) (engine : List UInt8 → ParserReport)
    (text : String) : Prop where
  parse_eq : p.parse registry engine text = q.parse registry engine text
  resolve_eq : ∀ separator range lines,
    (ScopeReader.mk (p.provider registry engine) separator).resolve range text lines =
      (ScopeReader.mk (q.provider registry engine) separator).resolve range text lines

variable {p q : GrammarParser} {registry : Registry} {engine : List UInt8 → ParserReport}
  {text : String}

/-- Parsers that parse a text alike agree on it. -/
theorem agreeOn_of_parse_eq
    (h : p.parse registry engine text = q.parse registry engine text) :
    p.AgreeOn q registry engine text := by
  refine ⟨h, ?_⟩
  intro separator range lines
  have hprovider : (p.provider registry engine).parse text =
      (q.provider registry engine).parse text := by
    unfold provider
    dsimp only
    rw [h]
  unfold ScopeReader.resolve ScopeReader.contextOf
  rw [hprovider]

/-- A report other than a tree with syntax errors comes to the same for both. -/
theorem accept_congr (hlanguage : p.language = q.language) {report : ParserReport}
    (h : ∀ root, report ≠ .tree root true) (source : List UInt8) :
    p.accept source report = q.accept source report := by
  cases report with
  | unmade cause => rfl
  | failed cause =>
    unfold accept
    rw [hlanguage]
  | tree root hasError =>
    cases hasError with
    | true => exact absurd rfl (h root)
    | false =>
      unfold accept
      rw [hlanguage]
      rfl

/-- A parser has its language supplied if the registry gives it. -/
theorem isSupplied_of_get {language : Language}
    (h : (registry.get p.language).1 = .ok language) : p.IsSupplied registry := by
  unfold Registry.get at h
  cases hpack : LanguagePack.ofName? p.language with
  | none =>
    rw [hpack] at h
    cases h
  | some pack =>
    rw [hpack] at h
    refine ⟨pack, hpack, ?_⟩
    rcases registry.load_cases pack with ⟨_, hkept, -⟩ | ⟨_, -, hnew, -⟩ | ⟨_, _, -, -, hload⟩
    · left
      rw [hkept]
      exact Option.some_ne_none _
    · exact Or.inr (Registry.construct_eq_ok_iff.mp hnew).1
    · dsimp only at h
      rw [hload] at h
      cases h

/-- Parsers for one language do the same, unless they get to a tree with syntax errors. -/
theorem parse_congr (hlanguage : p.language = q.language)
    (h : p.IsSupplied registry → ∀ root, engine (Utf8.encode text) ≠ .tree root true) :
    p.parse registry engine text = q.parse registry engine text := by
  have haccept (language : Language) (hget : (registry.get p.language).1 = .ok language) :
      p.accept (Utf8.encode text) (engine (Utf8.encode text)) =
        q.accept (Utf8.encode text) (engine (Utf8.encode text)) :=
    accept_congr hlanguage (h (isSupplied_of_get hget)) _
  unfold parse
  dsimp only
  rw [← hlanguage]
  rcases hget : registry.get p.language with ⟨result, after⟩
  rw [hget] at haccept
  cases result with
  | ok language =>
    dsimp only
    rw [haccept language rfl]
  | error failure => cases failure <;> rfl

/-- Where a parser gives up with its language supplied, the engine reports no tree. -/
theorem GivesUp.ne_tree {report : ParserReport} (h : p.GivesUp registry report)
    (hsupplied : p.IsSupplied registry) (root : RawNode) (hasError : Bool) :
    report ≠ .tree root hasError := by
  obtain ⟨pack, hpack, hgot⟩ := hsupplied
  rcases h with hunknown | ⟨point, cause, hfails, hexpected⟩
  · rw [hunknown] at hpack
    cases hpack
  · cases hfails with
    | grammar hwants hfails =>
      obtain rfl := Option.some.inj (hwants.1.symm.trans hpack)
      -- a grammar that is wanted cannot fail to be built and be there at once
      have hoffers := hgot.resolve_left (not_not_intro hwants.2)
      have hconstruct := Registry.construct_of_failsAt hfails
      rw [Registry.construct_of_offers hoffers] at hconstruct
      cases hconstruct
    | making hsupplied hreport => cases hexpected
    | parsing hsupplied hreport =>
      rw [hreport]
      intro hne
      cases hne

/-- Where a parser gives up, there is no tree. -/
theorem GivesUp.value_parse (h : p.GivesUp registry (engine (Utf8.encode text))) :
    (p.parse registry engine text).1.value = .ok none := by
  rcases h with hunknown | ⟨point, cause, hfails, hexpected⟩
  · rw [parse_of_unknown hunknown]
    rfl
  · have hparse := parse_of_failsAt hfails
    rw [if_pos hexpected] at hparse
    exact hparse.1

/-- Without a tree, a text resolves to the bare top. -/
theorem value_resolve_of_none (h : (p.parse registry engine text).1.value = .ok none)
    (separator : String) (range : CursorRange) (lines : Option (List String)) :
    ((ScopeReader.mk (p.provider registry engine) separator).resolve range text lines).value =
      .ok ⟨.top, ""⟩ := by
  have hprovider : ((p.provider registry engine).parse text).value = .ok none := by
    unfold provider
    simp only [Traced.value_bind, h]
    rfl
  unfold ScopeReader.resolve ScopeReader.contextOf
  simp only [Traced.value_bind, hprovider]
  rfl

/-- For every language, text, registry and parser, a parser that takes whole trees only and one that
takes partial trees agree, on the outcome and for every cursor, when the parser flags no syntax
errors or gives up: either both have no tree, or both have the same one with no errors counted. When
it flags syntax errors, the first has no tree, so that every cursor is at the bare top without
notes, and the second has the tree with the number of the errors in all of it. -/
theorem parse_strict_and_lenient (language : String) (registry : Registry)
    (engine : List UInt8 → ParserReport) (text : String) :
    let strict : GrammarParser := ⟨language, false⟩
    let lenient : GrammarParser := ⟨language, true⟩
    let report := engine (Utf8.encode text)
    let outcome (p : GrammarParser) := (p.parse registry engine text).1.value
    ((∀ root, report ≠ .tree root true) ∨ strict.GivesUp registry report →
        strict.AgreeOn lenient registry engine text) ∧
      (strict.GivesUp registry report → outcome strict = .ok none ∧ outcome lenient = .ok none) ∧
      (∀ root, report = .tree root false → strict.IsSupplied registry →
        ∃ tree, outcome strict = .ok (some tree) ∧ outcome lenient = .ok (some tree) ∧
          tree.root = root ∧ tree.errorCount = 0) ∧
      ∀ root, report = .tree root true → strict.IsSupplied registry →
        outcome strict = .ok none ∧
          (∀ separator range lines,
            ((ScopeReader.mk (strict.provider registry engine) separator).resolve range text
              lines).value = .ok ⟨.top, ""⟩) ∧
          ∃ tree, outcome lenient = .ok (some tree) ∧ tree.root = root ∧
            (tree.errorCount : ℕ∞) = root.errorWays.encard := by
  intro strict lenient report outcome
  have hagree (h : (∀ root, report ≠ .tree root true) ∨ strict.GivesUp registry report) :
      strict.AgreeOn lenient registry engine text := by
    apply agreeOn_of_parse_eq
    apply parse_congr (p := strict) (q := lenient) rfl
    intro hsupplied root
    rcases h with hflag | hgives
    · exact hflag root
    · exact hgives.ne_tree hsupplied root true
  have hsupplied (p : GrammarParser) (hp : p.IsSupplied registry) :
      outcome p = (p.accept (Utf8.encode text) report).value :=
    congrArg Traced.value (parse_of_supplied hp)
  refine ⟨hagree, ?_, ?_, ?_⟩
  · intro hgives
    have hsame : outcome strict = outcome lenient := by
      dsimp only [outcome]
      rw [(hagree (Or.inr hgives)).parse_eq]
    exact ⟨hgives.value_parse, hsame ▸ hgives.value_parse⟩
  · intro root hreport hs
    have hs' : lenient.IsSupplied registry := hs
    refine ⟨⟨root, language, 0, .ofBytes (Utf8.encode text)⟩, ?_, ?_, rfl, rfl⟩
    · rw [hsupplied strict hs, hreport]
      rfl
    · rw [hsupplied lenient hs', hreport]
      rfl
  · intro root hreport hs
    have hs' : lenient.IsSupplied registry := hs
    have hnone : outcome strict = .ok none := by
      rw [hsupplied strict hs, hreport]
      rfl
    refine ⟨hnone, value_resolve_of_none hnone, ?_⟩
    refine ⟨⟨root, language, root.errorCount, .ofBytes (Utf8.encode text)⟩, ?_, rfl,
      root.errorCount_eq_encard⟩
    rw [hsupplied lenient hs', hreport]
    rfl

end GrammarParser

/-- A tree with a node that is an error in both ways and one that was inserted below it. -/
def RawNode.flawed : RawNode :=
  .mk "source_file" ⟨0, 0⟩ ⟨1, 0⟩ false
    [.mk "struct" ⟨0, 0⟩ ⟨0, 6⟩ false [],
      .mk "ERROR" ⟨0, 6⟩ ⟨0, 8⟩ true [.mk "type_identifier" ⟨0, 6⟩ ⟨0, 6⟩ true []]]

/-- Two errors are counted in a tree with an error and a missing node. -/
theorem RawNode.errorCount_flawed : flawed.errorCount = 2 := by
  simp [errorCount, countErrorsFrom, flawed, isError, kind, missing, children]

namespace GrammarParser

/-- Without the flag both have the tree, with it only the second, and neither has one when the parser
fails. -/
theorem parse_strict_and_lenient_flawed :
    (GrammarParser.mk "swift" false).IsSupplied .standard ∧
      (GrammarParser.mk "swift" false).GivesUp .standard (.failed ⟨.breakdown, "gone"⟩) ∧
      (GrammarParser.mk "swift" false).AgreeOn ⟨"swift", true⟩ .standard
        (fun _ => .failed ⟨.breakdown, "gone"⟩) "struct" ∧
      (∃ tree, ((GrammarParser.mk "swift" true).parse .standard
          (fun _ => .tree .flawed false) "struct").1.value = .ok (some tree) ∧
        tree.errorCount = 0) ∧
      ((GrammarParser.mk "swift" false).parse .standard
          (fun _ => .tree .flawed true) "struct").1.value = .ok none ∧
      ∃ tree, ((GrammarParser.mk "swift" true).parse .standard
          (fun _ => .tree .flawed true) "struct").1.value = .ok (some tree) ∧
        tree.errorCount = 2 := by
  have hsupplied : (GrammarParser.mk "swift" false).IsSupplied .standard :=
    ⟨.swift, LanguagePack.ofName?_swift, Or.inr ⟨_, rfl, rfl⟩⟩
  have hgives : (GrammarParser.mk "swift" false).GivesUp .standard
      (.failed ⟨.breakdown, "gone"⟩) :=
    Or.inr ⟨.parsing, _, .parsing hsupplied rfl, by decide⟩
  have hgone := parse_strict_and_lenient "swift" .standard
    (fun _ => .failed ⟨.breakdown, "gone"⟩) "struct"
  have hplain := parse_strict_and_lenient "swift" .standard (fun _ => .tree .flawed false) "struct"
  have hflag := parse_strict_and_lenient "swift" .standard (fun _ => .tree .flawed true) "struct"
  dsimp only at hgone hplain hflag
  obtain ⟨hagree, -, -, -⟩ := hgone
  obtain ⟨-, -, hwhole, -⟩ := hplain
  obtain ⟨-, -, -, hpartial⟩ := hflag
  obtain ⟨same, -, hsame, -, hzero⟩ := hwhole _ rfl hsupplied
  obtain ⟨hnone, -, tree, htree, -, hcount⟩ := hpartial _ rfl hsupplied
  rw [← RawNode.errorCount_eq_encard, RawNode.errorCount_flawed, Nat.cast_inj] at hcount
  exact ⟨hsupplied, hgives, hagree (Or.inr hgives), ⟨same, hsame, hzero⟩, hnone, tree, htree,
    hcount⟩

end GrammarParser

end Enclosure
