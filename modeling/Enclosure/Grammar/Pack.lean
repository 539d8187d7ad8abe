import Enclosure.Text.LowerCase

/-!
# Language packs

A language pack says where the grammar of a language is found and which file extensions belong to
the language. Packs are looked up by name or by extension, in any letter case; leading dots of an
extension do not count.
-/

set_option autoImplicit false

namespace Enclosure

/-- Where the grammar of a language is found. -/
structure LanguagePack where
  /-- The name of the language. -/
  name : String
  /-- The name under which the grammar is kept once it is loaded. -/
  grammarName : String
  /-- The package that brings the grammar. -/
  grammarPackage : String
  /-- The module that holds the grammar. -/
  grammarModule : String
  /-- The function of the module that gives the grammar, if it is not the usual one. -/
  languageFunction : Option String
  /-- The file extensions of the language. -/
  extensions : List String

namespace LanguagePack

/-- The pack of Swift. -/
def swift : LanguagePack :=
  ⟨"swift", "swift", "tree-sitter-swift", "tree_sitter_swift", none, ["swift"]⟩

/-- All packs. -/
def all : List LanguagePack :=
  [swift]

/-- The function of the module that gives the grammar. -/
def function (p : LanguagePack) : String :=
  match p.languageFunction with
  | some f => if f = "" then "language" else f
  | none => "language"

/-- The pack of a language. -/
def ofName? (name : String) : Option LanguagePack :=
  let name := LowerCase.lower name
  all.find? fun p => p.name = name

/-- An extension in lower case without its leading dots. -/
def foldExtension (ext : String) : String :=
  String.ofList ((LowerCase.lower ext).toList.dropWhile (· = '.'))

/-- The pack of the language that a file extension belongs to. -/
def ofExtension? (ext : String) : Option LanguagePack :=
  let ext := foldExtension ext
  all.find? fun p => p.extensions.contains ext

end LanguagePack

end Enclosure
