import Enclosure.CursorRange
import Enclosure.Value

/-!
# Scope descriptors

A descriptor says what encloses a cursor, a named declaration or nothing that can be described, and
carries the notes about the document. Its rendering is the text that prompts are built from: a line
about the declaration and then the notes, or the notes alone.
-/

set_option autoImplicit false

namespace Enclosure

/-- What encloses a cursor. -/
inductive Scope
  /-- Nothing that can be described. -/
  | top
  /-- A declaration, by its kind, its name and the range it covers. -/
  | enclosed (declarationKind name : String) (range : CursorRange)
deriving DecidableEq

/-- What encloses a cursor, with the notes about the document. -/
structure Descriptor where
  scope : Scope
  notes : String
deriving DecidableEq

namespace Descriptor

/-- The descriptor without a scope and without notes. -/
def bare : Descriptor :=
  ⟨.top, ""⟩

/-- Whether nothing describable encloses the cursor. -/
def isTop (d : Descriptor) : Bool :=
  d.scope = .top

/-- The text of a descriptor. -/
def render (d : Descriptor) : String :=
  match d.scope with
  | .top => d.notes
  | .enclosed kind name range =>
    "Inside " ++ kind ++ " " ++ name ++ ", range " ++ range.text ++ "\n" ++ d.notes

/-- A position as a mapping. -/
def positionValue (p : Position) : Value :=
  .object [("line", .int p.line), ("column", .int p.column)]

/-- A descriptor as a mapping. -/
def toValue (d : Descriptor) : Value :=
  let scope : Value := match d.scope with
    | .top => .object [("type", .str "top")]
    | .enclosed kind name range =>
      .object [("type", .str "scope"), ("declaration_kind", .str kind), ("name", .str name),
        ("range",
          .object [("start", positionValue range.start), ("end", positionValue range.stop)])]
  .object [("scope", scope), ("extra_knowledge", .str d.notes)]

end Descriptor

end Enclosure
