import Enclosure.Position

/-!
# Cursor ranges

A cursor range is a span between two positions in document order; a caret is a range whose two ends
are the same position. A range contains another when it starts no later and stops no earlier. The
extent of a range, the lines it spans and then its column difference, orders nested ranges by size.
-/

set_option autoImplicit false

namespace Enclosure

/-- A span between two positions, the first of which does not come after the second. -/
structure CursorRange where
  start : Position
  stop : Position
  start_le_stop : start ≤ stop
deriving DecidableEq

/-- The two ends of a span that would run backwards. -/
structure ReversedRange where
  start : Position
  stop : Position
deriving DecidableEq

/-- The message about a span that would run backwards names both ends. -/
def ReversedRange.message (e : ReversedRange) : String :=
  "Range end " ++ e.stop.text ++ " precedes start " ++ e.start.text

/-- The size of a span: lines first, then the difference of the columns, which may be negative. -/
structure Extent where
  lines : Int
  columns : Int
deriving DecidableEq

namespace Extent

instance : LE Extent :=
  ⟨fun a b => a.lines < b.lines ∨ a.lines = b.lines ∧ a.columns ≤ b.columns⟩

instance : LT Extent :=
  ⟨fun a b => a.lines < b.lines ∨ a.lines = b.lines ∧ a.columns < b.columns⟩

/-- Extents are compared by lines, and by columns where these are equal. -/
theorem le_def {a b : Extent} :
    a ≤ b ↔ a.lines < b.lines ∨ a.lines = b.lines ∧ a.columns ≤ b.columns := Iff.rfl

/-- An extent is less than another one by lines, or by columns where the lines are equal. -/
theorem lt_def {a b : Extent} :
    a < b ↔ a.lines < b.lines ∨ a.lines = b.lines ∧ a.columns < b.columns := Iff.rfl

instance (a b : Extent) : Decidable (a ≤ b) :=
  decidable_of_iff _ le_def.symm

instance (a b : Extent) : Decidable (a < b) :=
  decidable_of_iff _ lt_def.symm

end Extent

namespace CursorRange

/-- The range between two positions, refused when the second precedes the first. -/
def between (start stop : Position) : Except ReversedRange CursorRange :=
  if h : start ≤ stop then .ok ⟨start, stop, h⟩ else .error ⟨start, stop⟩

/-- The range of an editor's selection, whose head may lie before its anchor. -/
def ofSelection (anchor head : Position) : CursorRange :=
  if h : head < anchor then ⟨head, anchor, Position.le_of_lt h⟩
  else ⟨anchor, head, Position.not_lt.mp h⟩

/-- The empty range at a caret. -/
def caret (line column : Int) : CursorRange :=
  ⟨⟨line, column⟩, ⟨line, column⟩, Position.le_refl _⟩

/-- A range contains another when it starts no later and stops no earlier. -/
def Contains (outer inner : CursorRange) : Prop :=
  outer.start ≤ inner.start ∧ inner.stop ≤ outer.stop

instance (outer inner : CursorRange) : Decidable (outer.Contains inner) :=
  inferInstanceAs (Decidable (_ ∧ _))

/-- The size of a range. Between ranges that contain a common one it puts the inner before the
outer. -/
def extent (r : CursorRange) : Extent :=
  ⟨r.stop.line - r.start.line, r.stop.column - r.start.column⟩

/-- A range is written `[line, column] - [line, column]`. -/
def text (r : CursorRange) : String :=
  r.start.text ++ " - " ++ r.stop.text

end CursorRange

end Enclosure
