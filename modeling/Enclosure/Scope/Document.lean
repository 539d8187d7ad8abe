import Enclosure.Files
import Enclosure.Grammar.Pack
import Enclosure.Scope.Reader
import Enclosure.Settings.Schema

/-!
# Scopes in documents

The scope of a cursor in a document on disk. The extension of the document decides its language, or
the settings when it has none. A document without a reader for its language, one that is too large
and one that cannot be read all resolve to the top without being parsed.
-/

set_option autoImplicit false

namespace Enclosure

/-- The language of a document: that of its extension, or a default when it has none. -/
def FilePath.language? (path : FilePath) (default : Option String) : Option String :=
  if path.suffix = [] then default
  else (LanguagePack.ofExtension? (String.ofList path.suffix)).map LanguagePack.name

/-- The languages that have a reader. -/
def readableLanguages : List String :=
  ["swift"]

/-- The parser of a language that has a reader, as the settings want it. -/
def GrammarParser.ofLanguage? (language : String) (settings : ResolverSettings) :
    Option GrammarParser :=
  let folded := LowerCase.lower language
  if folded ∈ readableLanguages then some ⟨folded, settings.acceptPartialTrees⟩ else none

/-- The reader of a language, if there is one. Its trees come from the provider given, or else from
the one that is made for the language's parser. -/
def ScopeReader.ofLanguage? (language : String) (settings : ResolverSettings)
    (provider : Option TreeProvider) (make : GrammarParser → TreeProvider) : Option ScopeReader :=
  (GrammarParser.ofLanguage? language settings).map fun parser =>
    ⟨provider.getD (make parser), settings.noteSeparator⟩

/-- A document on its way to being resolved. -/
inductive Document
  /-- It resolves to the top, with one event. -/
  | unresolved (event : Event)
  /-- It has a reader and a text. -/
  | readable (reader : ScopeReader) (text : String)
  /-- Looking for it breaks off. -/
  | broken (cause : Escape)

namespace Document

/-- The reader that a document at a path is routed to: the language found for it, and the reader if
there is one. -/
def route (path : FilePath) (settings : ResolverSettings) (provider : Option TreeProvider)
    (make : GrammarParser → TreeProvider) : Option String × Option ScopeReader :=
  let language := path.language? (some settings.language)
  (language, language.bind fun l =>
    if l = "" then none else ScopeReader.ofLanguage? l settings provider make)

/-- The document at a path. Files above the size limit are not read. -/
def open? (files : Files) (path : FilePath) (settings : ResolverSettings)
    (provider : Option TreeProvider) (make : GrammarParser → TreeProvider) : Document :=
  match route path settings provider make with
  | (language, none) => .unresolved (.noReader path.text language)
  | (_, some reader) =>
    match files.lookup path with
    | .error (.invalid .zeroCharacter) => .broken .zeroInPath
    | .error _ => .unresolved (.readFailed path.text)
    | .ok entry =>
      if settings.maxFileSizeKb.number * 1024 < entry.size then
        .unresolved (.fileTooLarge path.text entry.size)
      else
        match entry with
        | .file content => .readable reader (String.ofList (Utf8.decodeReplacing content))
        | .directory => .unresolved (.readFailed path.text)

/-- What encloses a range of a document. -/
def resolve (d : Document) (range : CursorRange) : Traced (Except Escape Descriptor) :=
  match d with
  | .unresolved event => do
    Traced.report event
    return .ok .bare
  | .readable reader text => reader.contextOf range text (Lines.split text)
  | .broken cause => pure (.error cause)

end Document

end Enclosure
