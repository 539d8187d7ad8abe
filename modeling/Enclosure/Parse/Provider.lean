import Enclosure.Event
import Enclosure.Grammar.Registry
import Enclosure.Parse.RawTree

/-!
# Syntax trees of source texts

A provider turns a source text into a syntax tree, or into nothing when it has no usable tree to
offer. The provider that works with a grammar hands the text to a parser as UTF-8, refuses a tree
with syntax errors unless partial trees are accepted, and keeps the column map of the text for the
tree it gives.
-/

set_option autoImplicit false

namespace Enclosure

/-- A crash that resolving a cursor does not handle. -/
inductive Escape
  /-- A node of a tree would run backwards. -/
  | reversedRange (cause : ReversedRange)
  /-- Making a parser or running it failed in a way that is not expected. -/
  | parserCrashed (cause : ForeignFailure)
  /-- Getting a language failed in a way that is not expected. -/
  | grammarCrashed (cause : ForeignFailure)
  /-- The path of a document holds the character that ends texts in a file system. -/
  | zeroInPath
deriving DecidableEq

/-- The message of a crash. -/
def Escape.message : Escape → String
  | .reversedRange cause => cause.message
  | .parserCrashed cause => cause.message
  | .grammarCrashed cause => cause.message
  | .zeroInPath => "embedded null byte"

/-- What becomes of the bytes of a text that a parser is made for. -/
inductive ParserReport
  /-- A tree, and whether it holds syntax errors. -/
  | tree (root : RawNode) (hasError : Bool)
  /-- No parser can be made for the language. -/
  | unmade (cause : ForeignFailure)
  /-- The parser fails on the text. -/
  | failed (cause : ForeignFailure)

/-- A tree that a parser made of a text, with what is needed to read it. -/
structure ParsedTree where
  root : RawNode
  language : String
  errorCount : Nat
  columns : ColumnMap

/-- A tree that can be searched: one that is given in characters, or one that a parser made. -/
inductive SyntaxTree
  | given (root : Node)
  | parsed (tree : ParsedTree)

/-- The tree as far as a search for a range looks at it. -/
def SyntaxTree.around (t : SyntaxTree) (range : CursorRange) : Except ReversedRange Node :=
  match t with
  | .given root => .ok root
  | .parsed tree => tree.root.view tree.columns fun span => span.Contains range

/-- Something that makes syntax trees of source texts. -/
structure TreeProvider where
  parse : String → Traced (Except Escape (Option SyntaxTree))

/-- The provider that always gives the same outcome. -/
def TreeProvider.constant (tree : Option Node) : TreeProvider :=
  ⟨fun _ => pure (.ok (tree.map .given))⟩

/-- The settings of a provider that works with a grammar. -/
structure GrammarParser where
  language : String
  acceptPartialTrees : Bool
deriving DecidableEq

namespace GrammarParser

/-- What a parser's report comes to for a text: a tree, nothing, or a crash. A parser that cannot be
made is not expected at all. -/
def accept (p : GrammarParser) (source : List UInt8) :
    ParserReport → Traced (Except Escape (Option ParsedTree))
  | .unmade cause => pure (.error (.parserCrashed cause))
  | .failed cause =>
    if cause.kind.isExpectedOfParser then do
      Traced.report (.parserUnavailable p.language (.parserFailed p.language cause.message))
      return .ok none
    else pure (.error (.parserCrashed cause))
  | .tree root hasError =>
    let errorCount := if hasError then root.errorCount else 0
    if hasError && !p.acceptPartialTrees then do
      Traced.report (.treeRejected p.language errorCount)
      return .ok none
    else
      return .ok (some ⟨root, p.language, errorCount, .ofBytes source⟩)

/-- Parse a text with the grammar of the provider's language, and keep the language loaded. -/
def parse (p : GrammarParser) (registry : Registry) (engine : List UInt8 → ParserReport)
    (text : String) : Traced (Except Escape (Option ParsedTree)) × Registry :=
  let source := Utf8.encode text
  match registry.get p.language with
  | (.ok _, registry) => (p.accept source (engine source), registry)
  | (.error (.unavailable cause), registry) =>
    (do Traced.report (.parserUnavailable p.language cause)
        return .ok none, registry)
  | (.error (.crashed cause), registry) => (pure (.error (.grammarCrashed cause)), registry)

/-- The provider that parses with a grammar, starting every time from the same registry. -/
def provider (p : GrammarParser) (registry : Registry) (engine : List UInt8 → ParserReport) :
    TreeProvider :=
  ⟨fun text => do
    let outcome ← (p.parse registry engine text).1
    return outcome.map fun tree => tree.map .parsed⟩

end GrammarParser

end Enclosure
