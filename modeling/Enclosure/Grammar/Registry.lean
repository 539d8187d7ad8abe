import Enclosure.Fault
import Enclosure.Grammar.Failure
import Enclosure.Grammar.Pack

/-!
# Grammar registry

Grammars live in modules, which may come and go. A language built from a grammar is kept under the
grammar's name and never built again, whatever becomes of its module. Languages are numbered in the
order in which they were built, so no two of them are the same.
-/

set_option autoImplicit false

namespace Enclosure

/-- What a module offers under a name. -/
inductive GrammarExport
  /-- Something that is not a function. -/
  | notFunction
  /-- A function that fails when it is called. -/
  | failing (cause : ForeignFailure)
  /-- A function that gives something of which building a language fails. -/
  | unusable (cause : ForeignFailure)
  /-- A function that gives a grammar of which a language can be built. -/
  | grammar
deriving DecidableEq

/-- A module that holds grammars: the names it offers. -/
abbrev GrammarModule :=
  List (String × GrammarExport)

/-- A language, by the number of its building. -/
structure Language where
  number : Nat
deriving DecidableEq

/-- Why a language could not be had. -/
inductive GrammarFailure
  /-- The grammar is not available; this is expected and handled. -/
  | unavailable (cause : ParseError)
  /-- Getting the language failed in a way that nobody handles. -/
  | crashed (cause : ForeignFailure)
deriving DecidableEq

/-- The modules that are there, each with what importing it gives, and the languages built so
far. -/
structure Registry where
  modules : List (String × Except ForeignFailure GrammarModule)
  languages : List (String × Language)
  built : Nat

namespace Registry

/-- The registry without modules in which nothing is built. -/
def empty : Registry :=
  ⟨[], [], 0⟩

/-- Say what importing a module gives; this replaces any earlier module of its name. -/
def define (r : Registry) (name : String) (module : Except ForeignFailure GrammarModule) :
    Registry :=
  { r with modules := (name, module) :: r.modules.filter fun m => m.1 ≠ name }

/-- The registry in which only the grammar of Swift can be imported. -/
def standard : Registry :=
  empty.define LanguagePack.swift.grammarModule (.ok [("language", .grammar)])

/-- What importing a module gives. Its name must be complete, neither empty nor relative to another
module. -/
def importModule (r : Registry) (name : String) : Except ForeignFailure GrammarModule :=
  match name.toList with
  | [] => .error ⟨.wrongValue, "Empty module name"⟩
  | '.' :: _ => .error ⟨.wrongType, "Relative module name: " ++ name⟩
  | _ =>
    match r.modules.find? fun m => m.1 = name with
    | some (_, module) => module
    | none => .error ⟨.missingModule, "No module named " ++ Quoted.text name⟩

/-- The language kept under the name of a grammar. -/
def language? (r : Registry) (grammarName : String) : Option Language :=
  (r.languages.find? fun l => l.1 = grammarName).map Prod.snd

/-- What a module offers under a name. -/
def offered (module : GrammarModule) (name : String) : Except ForeignFailure GrammarExport :=
  match module.find? fun e => e.1 = name with
  | some (_, found) => .ok found
  | none => .error ⟨.missingName, "No name " ++ Quoted.text name⟩

/-- The language with a number, built of the grammar that a function gives. -/
def languageOf (number : Nat) : GrammarExport → Except ForeignFailure Language
  | .notFunction => .error ⟨.wrongType, "Not a function"⟩
  | .failing cause => .error cause
  | .unusable cause => .error cause
  | .grammar => .ok ⟨number⟩

/-- The way to the language of a pack: the module is imported, its function is called, and the next
language is built of what it gives. -/
def construct (r : Registry) (pack : LanguagePack) : Except ForeignFailure Language := do
  let module ← r.importModule pack.grammarModule
  let found ← offered module pack.function
  languageOf (r.built + 1) found

/-- Build the language of a pack. A failure on the way means that the grammar is not available, if
it is of a kind that is expected. -/
def build (r : Registry) (pack : LanguagePack) : Except GrammarFailure Language :=
  match r.construct pack with
  | .ok language => .ok language
  | .error cause =>
    if cause.kind.isExpectedOfGrammar then
      .error (.unavailable (.grammarUnavailable pack.name (some pack.grammarPackage)))
    else .error (.crashed cause)

/-- Keep a language that has just been built. -/
def keep (r : Registry) (grammarName : String) (language : Language) : Registry :=
  { r with languages := r.languages ++ [(grammarName, language)], built := r.built + 1 }

/-- The language of a pack: the one kept under its grammar's name, or else a new one. -/
def load (r : Registry) (pack : LanguagePack) : Except GrammarFailure Language × Registry :=
  match r.language? pack.grammarName with
  | some language => (.ok language, r)
  | none =>
    match r.build pack with
    | .ok language => (.ok language, r.keep pack.grammarName language)
    | .error e => (.error e, r)

/-- The language of a name. -/
def get (r : Registry) (name : String) : Except GrammarFailure Language × Registry :=
  match LanguagePack.ofName? name with
  | some pack => r.load pack
  | none => (.error (.unavailable (.grammarUnavailable name none)), r)

/-- The names of the grammars of which a language is kept. -/
def cached (r : Registry) : List String :=
  r.languages.map Prod.fst

end Registry

end Enclosure
