import Enclosure.Parse.Provider
import Enclosure.Scope.Descriptor
import Enclosure.Scope.Kind
import Enclosure.Scope.Notes
import Enclosure.Text.Excerpt
import Enclosure.Tree.Search

/-!
# Reading the scope of a cursor

The scope of a cursor is the smallest scope-bearing node around it. A protocol is described by its
first type identifier, a type declaration by its last keyword and its last type identifier; a part
that is missing is called `unknown`. Functions and properties are reported as the top. Whatever is
missing on the way, a tree, a node or a part of it, is reported as an event and the description
falls back to a default.
-/

set_option autoImplicit false

namespace Enclosure

/-- The kind of node that holds the name of a declaration. -/
def typeIdentifier : String :=
  "type_identifier"

/-- The word for a part of a declaration that is missing. -/
def unknownField : String :=
  "unknown"

/-- The keywords that name the kind of a type declaration. -/
def typeKeywords : List String :=
  ["struct", "class", "enum", "actor"]

namespace Node

/-- Whether a node opens a scope. -/
def isScopeBearing (n : Node) : Bool :=
  (ScopeKind.ofNodeKind? n.kind).isSome

/-- Whether a node holds the name of a declaration. -/
def isTypeIdentifier (n : Node) : Bool :=
  n.kind == typeIdentifier

/-- Whether a node is the keyword of a type declaration. -/
def isTypeKeyword (n : Node) : Bool :=
  typeKeywords.contains n.kind

end Node

namespace Reader

/-- The text that a range covers, with a report if the range stops after the last line. -/
def quote (lines : List String) (range : CursorRange) : Traced String := do
  Traced.reportIf (Excerpt.Overruns lines range) (.spanOutOfBounds range.stop.line lines.length)
  return Excerpt.text lines range

/-- Report that a declaration lacks a part. -/
def reportMissing (n : Node) (field : DeclarationField) : Traced Unit :=
  Traced.report (.fieldMissing n.kind field n.span)

/-- Describe a protocol: the first type identifier among the children is its name. -/
def describeProtocol (lines : List String) (n : Node) : Traced Scope :=
  match n.children.find? Node.isTypeIdentifier with
  | some child => do
    let name ← quote lines child.span
    return .enclosed "protocol" name n.span
  | none => do
    reportMissing n .name
    return .enclosed "protocol" unknownField n.span

/-- The keyword and the name of a type declaration after one more child has been looked at; a later
keyword or name replaces an earlier one. -/
def scanTypeChild (lines : List String) (found : String × String) (child : Node) :
    Traced (String × String) :=
  if child.isTypeKeyword then return (child.kind, found.2)
  else if child.isTypeIdentifier then do
    let name ← quote lines child.span
    return (found.1, name)
  else return found

/-- Describe a type declaration by the last keyword and the last type identifier among its
children. -/
def describeType (lines : List String) (n : Node) : Traced Scope := do
  let (keyword, name) ← n.children.foldlM (scanTypeChild lines) (unknownField, unknownField)
  if keyword = unknownField then
    reportMissing n .declarationKind
  if name = unknownField then
    reportMissing n .name
  return .enclosed keyword name n.span

/-- Describe the node that a cursor is in. -/
def describe (lines : List String) (n : Node) : Traced Scope :=
  match ScopeKind.ofNodeKind? n.kind with
  | some .protocolDeclaration => describeProtocol lines n
  | some .classDeclaration => describeType lines n
  | _ => return .top

/-- What encloses a range in a tree, with notes that are already known. -/
def locate (root : Node) (range : CursorRange) (lines : List String) (notes : String) :
    Traced Descriptor :=
  match root.smallest? range Node.isScopeBearing with
  | none => do
    Traced.report (.scopeNotFound range)
    return ⟨.top, notes⟩
  | some n => do
    let scope ← describe lines n
    return ⟨scope, notes⟩

/-- What encloses a range in a text of which a tree may have been made. -/
def context (tree : Option Node) (range : CursorRange) (text : String) (lines : List String)
    (separator : String) : Traced Descriptor :=
  match tree with
  | none => do
    Traced.report .noTree
    return .bare
  | some root => locate root range lines (Notes.join text Notes.markers separator)

end Reader

/-- A reader of scopes: where its trees come from and what separates the notes. -/
structure ScopeReader where
  provider : TreeProvider
  separator : String

namespace ScopeReader

/-- What encloses a range of a text. The lines are those that names are read from. -/
def contextOf (r : ScopeReader) (range : CursorRange) (text : String) (lines : List String) :
    Traced (Except Escape Descriptor) := do
  Traced.ask text
  match ← r.provider.parse text with
  | .error e => return .error e
  | .ok none => .ok <$> Reader.context none range text lines r.separator
  | .ok (some tree) =>
    match tree.around range with
    | .error e => return .error (.reversedRange e)
    | .ok root => .ok <$> Reader.context (some root) range text lines r.separator

/-- What encloses a range of a text, whose lines are found here unless they are given. -/
def resolve (r : ScopeReader) (range : CursorRange) (text : String)
    (lines : Option (List String)) : Traced (Except Escape Descriptor) :=
  r.contextOf range text (lines.getD (Lines.split text))

end ScopeReader

end Enclosure
