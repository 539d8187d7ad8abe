import Enclosure.CursorRange
import Enclosure.Text.Lines

/-!
# Excerpts

The excerpt of a range is the text it covers: within one line the characters between its columns,
over several lines the tail of the first line, the lines between in full and the head of the last.
Rows outside the lines hold nothing and columns are clamped to the line, so every range has an
excerpt.
-/

set_option autoImplicit false

namespace Enclosure.Excerpt

/-- The characters of a row, none for a row outside the lines. -/
def lineAt (lines : List String) (row : Int) : List Char :=
  if 0 ≤ row then ((lines[row.toNat]?).getD "").toList else []

/-- The lines strictly between two rows, joined. -/
def between (lines : List String) (first last : Int) : List Char :=
  ((lines.take last.toNat).drop (first + 1).toNat).flatMap String.toList

/-- The characters that a range covers. -/
def chars (lines : List String) (r : CursorRange) : List Char :=
  if r.start.line = r.stop.line then
    ((lineAt lines r.start.line).take r.stop.column.toNat).drop r.start.column.toNat
  else
    (lineAt lines r.start.line).drop r.start.column.toNat
      ++ between lines r.start.line r.stop.line
      ++ (lineAt lines r.stop.line).take r.stop.column.toNat

/-- The text that a range covers. -/
def text (lines : List String) (r : CursorRange) : String :=
  String.ofList (chars lines r)

/-- A range overruns the lines when it stops on a row after the last one. -/
def Overruns (lines : List String) (r : CursorRange) : Prop :=
  (lines.length : Int) ≤ r.stop.line

instance (lines : List String) (r : CursorRange) : Decidable (Overruns lines r) :=
  inferInstanceAs (Decidable (_ ≤ _))

end Enclosure.Excerpt
