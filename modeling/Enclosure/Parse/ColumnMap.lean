import Enclosure.CursorRange
import Enclosure.Text.Utf8

/-!
# Byte columns and character columns

A parser counts columns in bytes, a cursor range in characters. On a row of ASCII text the two are
the same number, within the row and past its end; on any other row a byte column becomes the number
of characters before it, and half a character does not count. A row past the end of the text keeps
its columns.
-/

set_option autoImplicit false

namespace Enclosure

/-- A place in a text as a parser counts it: row and byte column. -/
structure RawPoint where
  row : Nat
  column : Nat
deriving DecidableEq

/-- The rows of a text, as bytes without their line feeds. -/
structure ColumnMap where
  rows : List (List UInt8)

namespace ColumnMap

/-- Put one more byte in front of bytes that are already split into rows. -/
def consByte (b : UInt8) (rows : List (List UInt8)) : List (List UInt8) :=
  if b = 10 then [] :: rows
  else
    match rows with
    | [] => [[b]]
    | row :: rest => (b :: row) :: rest

/-- The rows of some bytes: one more than there are line feeds. -/
def splitRows (bytes : List UInt8) : List (List UInt8) :=
  bytes.foldr consByte [[]]

/-- The column map of a text that is given as bytes. -/
def ofBytes (bytes : List UInt8) : ColumnMap :=
  ⟨splitRows bytes⟩

/-- Whether all bytes of a row are ASCII. -/
def isAscii (row : List UInt8) : Bool :=
  row.all fun b => b.toNat < 0x80

/-- The number of characters before a byte column of a row. -/
def charColumnIn (row : List UInt8) (column : Nat) : Nat :=
  if isAscii row then column else (Utf8.decodeLenient (row.take column)).length

/-- The character column of a point. -/
def charColumn (m : ColumnMap) (p : RawPoint) : Nat :=
  match m.rows[p.row]? with
  | none => p.column
  | some row => charColumnIn row p.column

/-- The position of a point. -/
def position (m : ColumnMap) (p : RawPoint) : Position :=
  ⟨p.row, m.charColumn p⟩

/-- The range between two points. -/
def range (m : ColumnMap) (start stop : RawPoint) : Except ReversedRange CursorRange :=
  CursorRange.between (m.position start) (m.position stop)

end ColumnMap

end Enclosure
