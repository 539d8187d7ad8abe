import Enclosure.Proofs.Parse.Outcome
import Mathlib.Data.List.Nodup

/-!
# Runs of the grammar registry

Modules come and go while languages are asked for, by a pack, by a name or by a parser that has a
text to parse. Whatever happens, a step either keeps one more language, which a request has just
built for a grammar of which none was kept, or leaves the languages as they are. So along every run
the kept languages are those that were ever built, one for each grammar and no two the same, and
they stay. A request adds a grammar exactly if the modules that are there offer it, so while these
do not change, it does not matter in which order requests come.
-/

set_option autoImplicit false

namespace Enclosure

/-- What asks a registry for a language. -/
inductive LanguageRequest
  /-- The language of a pack is loaded. -/
  | load (pack : LanguagePack)
  /-- The language of a name is got. -/
  | get (name : String)
  /-- A text is parsed; the parser would make a report about its bytes. -/
  | parse (parser : GrammarParser) (engine : List UInt8 → ParserReport) (text : String)

/-- The pack that a request comes to, if there is one. -/
def LanguageRequest.pack? : LanguageRequest → Option LanguagePack
  | .load pack => some pack
  | .get name => LanguagePack.ofName? name
  | .parse parser _ _ => LanguagePack.ofName? parser.language

/-- What happens to a registry. -/
inductive RegistryAction
  /-- From now on importing a module gives this. -/
  | define (name : String) (module : Except ForeignFailure GrammarModule)
  /-- A module is taken away. -/
  | remove (name : String)
  /-- A language is asked for. -/
  | request (q : LanguageRequest)

namespace Registry

/-- Take away the module of a name. -/
def remove (r : Registry) (name : String) : Registry :=
  { r with modules := r.modules.filter fun m => m.1 ≠ name }

/-- The registry after a request. -/
def after (r : Registry) : LanguageRequest → Registry
  | .load pack => (r.load pack).2
  | .get name => (r.get name).2
  | .parse parser engine text => (parser.parse r engine text).2

/-- The registry after something has happened to it. -/
def step (r : Registry) : RegistryAction → Registry
  | .define name module => r.define name module
  | .remove name => r.remove name
  | .request q => r.after q

/-- The registry after one thing after the other has happened to it. -/
def run (r : Registry) (acts : List RegistryAction) : Registry :=
  acts.foldl step r

/-- A request builds a language for a grammar: none is kept, and the way to a new one succeeds. -/
def Builds (r : Registry) (q : LanguageRequest) (grammarName : String) (language : Language) :
    Prop :=
  ∃ pack, q.pack? = some pack ∧ pack.grammarName = grammarName ∧
    r.language? grammarName = none ∧ r.construct pack = .ok language

variable {r : Registry}

/-! ### What a step does -/

/-- A pack makes a language exactly when its package offers a grammar, and the language is the next
one. -/
theorem construct_eq_ok_iff {pack : LanguagePack} {language : Language} :
    r.construct pack = .ok language ↔ r.Offers pack .grammar ∧ language = ⟨r.built + 1⟩ := by
  rcases r.failsAt_or_offers pack with ⟨point, cause, hfails⟩ | hoffers
  · rw [construct_of_failsAt hfails]
    refine iff_of_false (fun h => by cases h) ?_
    rintro ⟨hoffers, -⟩
    have := construct_of_failsAt hfails
    rw [construct_of_offers hoffers] at this
    cases this
  · rw [construct_of_offers hoffers]
    constructor
    · intro h
      cases h
      exact ⟨hoffers, rfl⟩
    · rintro ⟨-, rfl⟩
      rfl

/-- A language that is kept is given again and changes nothing. -/
theorem load_of_kept {pack : LanguagePack} {language : Language}
    (h : r.language? pack.grammarName = some language) : r.load pack = (.ok language, r) := by
  unfold load
  rw [h]

/-- Loading finds a language that is kept, keeps a new one, or fails and changes nothing. -/
theorem load_cases (r : Registry) (pack : LanguagePack) :
    (∃ language, r.language? pack.grammarName = some language ∧
        r.load pack = (.ok language, r)) ∨
      (∃ language, r.language? pack.grammarName = none ∧ r.construct pack = .ok language ∧
        r.load pack = (.ok language, r.keep pack.grammarName language)) ∨
      ∃ cause e, r.language? pack.grammarName = none ∧ r.construct pack = .error cause ∧
        r.load pack = (.error e, r) := by
  cases hkept : r.language? pack.grammarName with
  | some language => exact Or.inl ⟨language, rfl, load_of_kept hkept⟩
  | none =>
    right
    cases hnew : r.construct pack with
    | ok language =>
      left
      refine ⟨language, rfl, rfl, ?_⟩
      unfold load build
      rw [hkept, hnew]
    | error cause =>
      right
      have hbuild : ∃ e, r.build pack = .error e := by
        unfold build
        rw [hnew]
        dsimp only
        split
        · exact ⟨_, rfl⟩
        · exact ⟨_, rfl⟩
      obtain ⟨e, hbuild⟩ := hbuild
      refine ⟨cause, e, rfl, rfl, ?_⟩
      unfold load
      rw [hkept, hbuild]

/-- A grammar that cannot be loaded leaves the registry as it is. -/
theorem load_of_error {pack : LanguagePack} {e : GrammarFailure}
    (h : (r.load pack).1 = .error e) : (r.load pack).2 = r := by
  rcases r.load_cases pack with ⟨_, -, hload⟩ | ⟨_, -, -, hload⟩ | ⟨_, _, -, -, hload⟩
  · rw [hload]
  · rw [hload] at h
    cases h
  · rw [hload]

/-- A language that cannot be given leaves the registry as it is. -/
theorem get_of_error {name : String} {e : GrammarFailure} (h : (r.get name).1 = .error e) :
    (r.get name).2 = r := by
  unfold get at h ⊢
  cases hpack : LanguagePack.ofName? name with
  | none => rfl
  | some pack =>
    rw [hpack] at h
    exact load_of_error h

/-- Parsing changes a registry only by getting the parser's language, whatever the parser reports. -/
theorem after_parse (r : Registry) (parser : GrammarParser) (engine : List UInt8 → ParserReport)
    (text : String) : r.after (.parse parser engine text) = r.after (.get parser.language) := by
  unfold after GrammarParser.parse
  dsimp only
  split
  · next h => rw [h]
  · next h => rw [h]
  · next h => rw [h]

/-- A request loads the pack that it comes to, and does nothing else to a registry. -/
theorem after_eq (r : Registry) (q : LanguageRequest) :
    r.after q = q.pack?.elim r fun pack => (r.load pack).2 := by
  have hget (name : String) :
      r.after (.get name) = (LanguagePack.ofName? name).elim r fun pack => (r.load pack).2 := by
    change (r.get name).2 = _
    unfold get
    cases LanguagePack.ofName? name <;> rfl
  cases q with
  | load pack => rfl
  | get name => exact hget name
  | parse parser engine text =>
    rw [after_parse]
    exact hget parser.language

/-- A request builds a language when its grammar is not kept and the pack makes that language. -/
theorem builds_iff {q : LanguageRequest} {pack : LanguagePack} (hpack : q.pack? = some pack)
    {grammarName : String} {language : Language} :
    r.Builds q grammarName language ↔
      pack.grammarName = grammarName ∧ r.language? grammarName = none ∧
        r.construct pack = .ok language := by
  constructor
  · rintro ⟨other, hother, h⟩
    rw [hpack, Option.some.injEq] at hother
    rw [hother]
    exact h
  · intro h
    exact ⟨pack, hpack, h⟩

/-- A request builds at most one language, for one grammar. -/
theorem Builds.eq {q : LanguageRequest} {grammarName otherName : String}
    {language other : Language} (h : r.Builds q grammarName language)
    (hother : r.Builds q otherName other) : otherName = grammarName ∧ other = language := by
  obtain ⟨pack, hpack, hname, -, hok⟩ := h
  obtain ⟨hotherName, -, hotherOk⟩ := (builds_iff hpack).mp hother
  rw [hok, Except.ok.injEq] at hotherOk
  exact ⟨hotherName.symm.trans hname, hotherOk.symm⟩

/-- A request keeps the language that it builds, or it builds none and changes nothing. -/
theorem after_cases (r : Registry) (q : LanguageRequest) :
    (∃ grammarName language, r.Builds q grammarName language ∧
        r.after q = r.keep grammarName language) ∨
      (∀ grammarName language, ¬ r.Builds q grammarName language) ∧ r.after q = r := by
  rw [after_eq]
  cases hpack : q.pack? with
  | none =>
    right
    refine ⟨?_, rfl⟩
    rintro grammarName language ⟨pack, hsome, -⟩
    rw [hpack] at hsome
    cases hsome
  | some pack =>
    rw [Option.elim_some]
    rcases r.load_cases pack with ⟨kept, hkept, hload⟩ | ⟨language, hnew, hok, hload⟩ |
      ⟨cause, e, hnew, herror, hload⟩
    · right
      rw [hload]
      refine ⟨?_, rfl⟩
      intro grammarName language hbuilds
      obtain ⟨rfl, hnone, -⟩ := (builds_iff hpack).mp hbuilds
      rw [hkept] at hnone
      cases hnone
    · left
      rw [hload]
      exact ⟨_, language, (builds_iff hpack).mpr ⟨rfl, hnew, hok⟩, rfl⟩
    · right
      rw [hload]
      refine ⟨?_, rfl⟩
      intro grammarName language hbuilds
      obtain ⟨-, -, hok⟩ := (builds_iff hpack).mp hbuilds
      rw [herror] at hok
      cases hok

/-- A step keeps the language that a request builds, or no request builds one and the languages stay
as they are. -/
theorem step_cases (r : Registry) (a : RegistryAction) :
    (∃ q grammarName language, a = .request q ∧ r.Builds q grammarName language ∧
        r.step a = r.keep grammarName language) ∨
      (∀ q grammarName language, a = .request q → ¬ r.Builds q grammarName language) ∧
        (r.step a).languages = r.languages ∧ (r.step a).built = r.built := by
  cases a with
  | define name module => exact Or.inr ⟨fun _ _ _ h => (by cases h), rfl, rfl⟩
  | remove name => exact Or.inr ⟨fun _ _ _ h => (by cases h), rfl, rfl⟩
  | request q =>
    rcases r.after_cases q with ⟨grammarName, language, hbuilds, hafter⟩ | ⟨hnone, hafter⟩
    · exact Or.inl ⟨q, grammarName, language, rfl, hbuilds, hafter⟩
    · right
      rw [step, hafter]
      refine ⟨?_, rfl, rfl⟩
      rintro _ grammarName language ⟨⟩
      exact hnone grammarName language

/-! ### What every run keeps -/

/-- The kept languages are those that have been built, in the order of their numbers, and belong to
grammars of different names. -/
structure Orderly (r : Registry) : Prop where
  built_eq : r.built = r.languages.length
  numbered : r.languages.map (fun l => l.2.number) = List.range' 1 r.languages.length
  names_nodup : r.cached.Nodup

/-- A grammar has no language exactly when it is not kept. -/
theorem language?_eq_none_iff {grammarName : String} :
    r.language? grammarName = none ↔ grammarName ∉ r.cached := by
  unfold language? cached
  rw [Option.map_eq_none_iff, List.find?_eq_none, List.mem_map]
  constructor
  · rintro h ⟨l, hl, rfl⟩
    exact h l hl (decide_eq_true rfl)
  · intro h l hl heq
    exact h ⟨l, hl, of_decide_eq_true heq⟩

/-- Keeping a language that was just built leaves a registry orderly. -/
theorem Orderly.keep {q : LanguageRequest} {grammarName : String} {language : Language}
    (h : r.Orderly) (hbuilds : r.Builds q grammarName language) :
    (r.keep grammarName language).Orderly := by
  obtain ⟨pack, -, -, hnew, hok⟩ := hbuilds
  obtain ⟨-, rfl⟩ := construct_eq_ok_iff.mp hok
  have hlength : (r.keep grammarName ⟨r.built + 1⟩).languages.length = r.languages.length + 1 :=
    List.length_append
  refine ⟨?_, ?_, ?_⟩
  · rw [hlength, ← h.built_eq]
    rfl
  · rw [hlength, Registry.keep, List.map_append, h.numbered, List.range'_concat, h.built_eq]
    simp [Nat.add_comm]
  · have hfresh : grammarName ∉ r.cached := language?_eq_none_iff.mp hnew
    rw [cached, Registry.keep, List.map_append]
    exact List.Nodup.append h.names_nodup (List.nodup_singleton _)
      (List.disjoint_singleton.mpr hfresh)

/-- Every action leaves a registry orderly. -/
theorem Orderly.step (h : r.Orderly) (a : RegistryAction) : (r.step a).Orderly := by
  rcases r.step_cases a with ⟨q, grammarName, language, -, hbuilds, hstep⟩ | ⟨-, hsame, hbuilt⟩
  · rw [hstep]
    exact h.keep hbuilds
  · refine ⟨?_, ?_, ?_⟩
    · rw [hsame, hbuilt, h.built_eq]
    · rw [hsame, h.numbered]
    · rw [cached, hsame]
      exact h.names_nodup

/-- Every run leaves a registry orderly. -/
theorem Orderly.run (h : r.Orderly) (acts : List RegistryAction) : (r.run acts).Orderly := by
  induction acts generalizing r with
  | nil => exact h
  | cons a acts ih => exact ih (h.step a)

/-- An orderly registry keeps no language twice. -/
theorem Orderly.languages_nodup (h : r.Orderly) : (r.languages.map Prod.snd).Nodup := by
  have hnumbers : ((r.languages.map Prod.snd).map Language.number).Nodup := by
    rw [List.map_map]
    exact h.numbered ▸ List.nodup_range'
  exact List.Nodup.of_map Language.number hnumbers

/-- A registry that keeps nothing is orderly. -/
theorem orderly_of_no_languages (modules : List (String × Except ForeignFailure GrammarModule)) :
    (Registry.mk modules [] 0).Orderly :=
  ⟨rfl, rfl, List.nodup_nil⟩

/-- No step takes a language away or moves it. -/
theorem languages_prefix_run (r : Registry) (acts : List RegistryAction) :
    r.languages <+: (r.run acts).languages := by
  induction acts generalizing r with
  | nil => exact List.prefix_refl _
  | cons a acts ih =>
    have hstep : r.languages <+: (r.step a).languages := by
      rcases r.step_cases a with ⟨q, grammarName, language, -, -, hstep⟩ | ⟨-, hsame, -⟩
      · rw [hstep]
        exact List.prefix_append _ _
      · exact ⟨[], by rw [hsame, List.append_nil]⟩
    exact hstep.trans (ih (r.step a))

/-- A language that is kept stays the same along every run. -/
theorem language?_run {grammarName : String} {language : Language}
    (h : r.language? grammarName = some language) (acts : List RegistryAction) :
    (r.run acts).language? grammarName = some language := by
  obtain ⟨more, hmore⟩ := r.languages_prefix_run acts
  unfold language? at h ⊢
  obtain ⟨l, hl, rfl⟩ := Option.map_eq_some_iff.mp h
  rw [← hmore, List.find?_append, hl]
  rfl

/-- After an action the languages are those from before and the one that it builds, if it builds
one. -/
theorem mem_languages_step_iff {a : RegistryAction} {grammarName : String} {language : Language} :
    (grammarName, language) ∈ (r.step a).languages ↔
      (grammarName, language) ∈ r.languages ∨
        ∃ q, a = .request q ∧ r.Builds q grammarName language := by
  rcases r.step_cases a with ⟨q, name, built, rfl, hbuilds, hstep⟩ | ⟨hnone, hsame, -⟩
  · rw [hstep, keep, List.mem_append, List.mem_singleton, Prod.mk.injEq]
    refine or_congr_right ?_
    constructor
    · rintro ⟨rfl, rfl⟩
      exact ⟨q, rfl, hbuilds⟩
    · rintro ⟨_, ⟨⟩, h⟩
      exact hbuilds.eq h
  · rw [hsame]
    refine (or_iff_left ?_).symm
    rintro ⟨q, ha, hbuilds⟩
    exact hnone q grammarName language ha hbuilds

/-- The languages kept after a run are those from before and those that a request of the run has
built. -/
theorem mem_languages_run_iff {acts : List RegistryAction} {grammarName : String}
    {language : Language} :
    (grammarName, language) ∈ (r.run acts).languages ↔
      (grammarName, language) ∈ r.languages ∨
        ∃ before q later, acts = before ++ .request q :: later ∧
          (r.run before).Builds q grammarName language := by
  induction acts generalizing r with
  | nil =>
    refine (or_iff_left ?_).symm
    rintro ⟨before, q, later, h, -⟩
    simp at h
  | cons a acts ih =>
    change _ ∈ ((r.step a).run acts).languages ↔ _
    rw [ih, mem_languages_step_iff, or_assoc]
    refine or_congr_right ?_
    -- the request that builds the language is the first thing that happens or a later one
    constructor
    · rintro (⟨q, rfl, hbuilds⟩ | ⟨before, q, later, rfl, hbuilds⟩)
      · exact ⟨[], q, acts, rfl, hbuilds⟩
      · exact ⟨a :: before, q, later, rfl, hbuilds⟩
    · rintro ⟨before, q, later, heq, hbuilds⟩
      cases before with
      | nil =>
        obtain ⟨rfl, rfl⟩ := List.cons.inj heq
        exact Or.inl ⟨q, rfl, hbuilds⟩
      | cons b before =>
        obtain ⟨rfl, rfl⟩ := List.cons.inj heq
        exact Or.inr ⟨before, q, later, rfl, hbuilds⟩

/-! ### Requests while the modules stay -/

/-- A request changes nothing in what can be imported. -/
theorem modules_after (r : Registry) (q : LanguageRequest) : (r.after q).modules = r.modules := by
  rcases r.after_cases q with ⟨grammarName, language, -, hafter⟩ | ⟨-, hafter⟩
  · rw [hafter]
    rfl
  · rw [hafter]

/-- What a package offers depends on what can be imported only. -/
theorem offers_congr {s : Registry} (h : s.modules = r.modules) (pack : LanguagePack)
    (found : GrammarExport) : s.Offers pack found ↔ r.Offers pack found := by
  unfold Offers importModule
  rw [h]

/-- A request is for a grammar, and the modules that are there offer one. -/
def Supplies (r : Registry) (q : LanguageRequest) (grammarName : String) : Prop :=
  ∃ pack, q.pack? = some pack ∧ pack.grammarName = grammarName ∧ r.Offers pack .grammar

/-- After a request the grammars are those from before and the one that it supplies. -/
theorem mem_cached_after_iff {q : LanguageRequest} {grammarName : String} :
    grammarName ∈ (r.after q).cached ↔
      grammarName ∈ r.cached ∨ r.Supplies q grammarName := by
  rcases r.after_cases q with ⟨name, language, hbuilds, hafter⟩ | ⟨hnone, hafter⟩
  · obtain ⟨pack, hpack, rfl, hnew, hok⟩ := hbuilds
    have hoffers := (construct_eq_ok_iff.mp hok).1
    have hsupplies : r.Supplies q grammarName ↔ grammarName = pack.grammarName := by
      constructor
      · rintro ⟨other, hother, rfl, -⟩
        rw [hpack, Option.some.injEq] at hother
        rw [hother]
      · rintro rfl
        exact ⟨pack, hpack, rfl, hoffers⟩
    rw [hafter, cached, keep, List.map_append, List.mem_append, hsupplies]
    exact or_congr_right List.mem_singleton
  · rw [hafter]
    refine (or_iff_left_of_imp ?_).symm
    rintro ⟨pack, hpack, rfl, hoffers⟩
    -- nothing is built although the modules offer a grammar, so a language is kept already
    by_contra hfresh
    exact hnone _ _ ⟨pack, hpack, rfl, language?_eq_none_iff.mpr hfresh,
      construct_eq_ok_iff.mpr ⟨hoffers, rfl⟩⟩

/-- After requests the grammars are kept that were kept before and those that the modules offer to
one of the requests. -/
theorem mem_cached_run_requests_iff {requests : List LanguageRequest} {grammarName : String} :
    grammarName ∈ (r.run (requests.map .request)).cached ↔
      grammarName ∈ r.cached ∨ ∃ q ∈ requests, r.Supplies q grammarName := by
  induction requests generalizing r with
  | nil => simp [run]
  | cons q requests ih =>
    have hsupplies (p : LanguageRequest) :
        (r.after q).Supplies p grammarName ↔ r.Supplies p grammarName := by
      unfold Supplies
      simp only [offers_congr (r.modules_after q)]
    change _ ∈ ((r.after q).run (requests.map .request)).cached ↔ _
    rw [ih, mem_cached_after_iff, or_assoc, List.exists_mem_cons_iff]
    simp only [hsupplies]

/-- For every run from a registry in which nothing is kept: the kept languages are different from
each other and are exactly those ever built, one for each grammar. A kept language stays, and
whatever becomes of the modules, every pack of its grammar is given it. Loading and getting leave
the registry as it is when they fail. And as long as modules do not change, requests leave the same
grammars behind in whatever order they come. -/
theorem kept_languages_of_run (modules : List (String × Except ForeignFailure GrammarModule))
    (acts : List RegistryAction) :
    let start : Registry := ⟨modules, [], 0⟩
    let r := start.run acts
    ((r.languages.map Prod.snd).Nodup ∧ r.cached.Nodup ∧
        ∀ grammarName language, (grammarName, language) ∈ r.languages ↔
          ∃ before q later, acts = before ++ .request q :: later ∧
            (start.run before).Builds q grammarName language) ∧
      (∀ grammarName language, r.language? grammarName = some language →
        ∀ more, (r.run more).language? grammarName = some language ∧
          ∀ pack : LanguagePack, pack.grammarName = grammarName →
            (r.run more).load pack = (.ok language, r.run more)) ∧
      (∀ pack e, (r.load pack).1 = .error e → (r.load pack).2 = r) ∧
      (∀ name e, (r.get name).1 = .error e → (r.get name).2 = r) ∧
      ∀ first second : List LanguageRequest, (∀ q, q ∈ first ↔ q ∈ second) →
        ∀ grammarName, grammarName ∈ (r.run (first.map .request)).cached ↔
          grammarName ∈ (r.run (second.map .request)).cached := by
  intro start r
  have horderly : r.Orderly := (orderly_of_no_languages modules).run acts
  refine ⟨⟨horderly.languages_nodup, horderly.names_nodup, ?_⟩, ?_, ?_, ?_, ?_⟩
  · intro grammarName language
    exact mem_languages_run_iff.trans (or_iff_right List.not_mem_nil)
  · intro grammarName language hkept more
    have hstays := language?_run hkept more
    refine ⟨hstays, ?_⟩
    rintro pack rfl
    exact load_of_kept hstays
  · intro pack e h
    exact load_of_error h
  · intro name e h
    exact get_of_error h
  · intro first second hsame grammarName
    rw [mem_cached_run_requests_iff, mem_cached_run_requests_iff]
    simp only [hsame]

end Registry

/-- A pack of a grammar in a module of its own name. -/
def LanguagePack.ofModule (grammarName grammarModule : String) : LanguagePack :=
  ⟨grammarModule, grammarName, "", grammarModule, none, []⟩

namespace Registry

/-- A module that offers a grammar and one whose function breaks down. -/
def soundAndBroken : List (String × Except ForeignFailure GrammarModule) :=
  [("sound", .ok [("language", .grammar)]),
    ("broken", .ok [("language", .failing ⟨.breakdown, "boom"⟩)])]

/-- Two packs share a grammar. The one whose module is broken is given the language of the other one
once this is kept, also after the sound module has been taken away. -/
theorem kept_languages_of_run_sharedName :
    let sound : LanguageRequest := .load (.ofModule "g" "sound")
    let broken : LanguageRequest := .load (.ofModule "g" "broken")
    let other : LanguageRequest := .load (.ofModule "h" "broken")
    let r := (Registry.mk soundAndBroken [] 0).run [.request broken, .request sound]
    (r.language? "g" = some ⟨1⟩ ∧
        (r.run [.remove "sound"]).load (.ofModule "g" "broken") =
          (.ok ⟨1⟩, r.run [.remove "sound"])) ∧
      ((r.load (.ofModule "h" "broken")).1 = .error (.crashed ⟨.breakdown, "boom"⟩) ∧
        (r.load (.ofModule "h" "broken")).2 = r) ∧
      ((r.get "").1 = .error (.unavailable (.grammarUnavailable "" none)) ∧ (r.get "").2 = r) ∧
      (∀ q, q ∈ [other, sound] ↔ q ∈ [sound, other]) ∧
      ∀ grammarName, grammarName ∈ (r.run ([other, sound].map .request)).cached ↔
        grammarName ∈ (r.run ([sound, other].map .request)).cached := by
  intro sound broken other r
  obtain ⟨-, hstays, hload, hget, horder⟩ :=
    kept_languages_of_run soundAndBroken [.request broken, .request sound]
  have hkept : r.language? "g" = some ⟨1⟩ := by decide
  have hcrash : (r.load (.ofModule "h" "broken")).1 = .error (.crashed ⟨.breakdown, "boom"⟩) := by
    rfl
  have hunknown : (r.get "").1 = .error (.unavailable (.grammarUnavailable "" none)) := by
    rfl
  have hsame (q : LanguageRequest) : q ∈ [other, sound] ↔ q ∈ [sound, other] := by
    rw [List.mem_pair, List.mem_pair, or_comm]
  exact ⟨⟨hkept, (hstays _ _ hkept _).2 _ rfl⟩, ⟨hcrash, hload _ _ hcrash⟩,
    ⟨hunknown, hget _ _ hunknown⟩, hsame, horder _ _ hsame⟩

end Registry

end Enclosure
