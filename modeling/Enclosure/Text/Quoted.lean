import Enclosure.Text.Printable

/-!
# Quoted text

A text is quoted with single quotes, or with double quotes when it holds a single quote and no
double one. Printable characters stand for themselves; the quote and the backslash are escaped by a
backslash, and all other characters by a short name or by their code in hexadecimal.
-/

set_option autoImplicit false

namespace Enclosure.Quoted

/-- The character of a hexadecimal digit. -/
def hexDigit (d : Nat) : Char :=
  if d < 10 then Char.ofNat ('0'.toNat + d) else Char.ofNat ('a'.toNat + (d - 10))

/-- A number in hexadecimal with a fixed number of digits. -/
def hex (n : Nat) : Nat → List Char
  | 0 => []
  | width + 1 => hexDigit (n / Nat.pow 16 width % 16) :: hex n width

/-- The quote that fits a text. -/
def quoteFor (cs : List Char) : Char :=
  if '\'' ∈ cs ∧ '"' ∉ cs then '"' else '\''

/-- A character between quotes. -/
def escapeChar (quote c : Char) : List Char :=
  if c = quote ∨ c = '\\' then ['\\', c]
  else if c = '\n' then ['\\', 'n']
  else if c = '\r' then ['\\', 'r']
  else if c = '\t' then ['\\', 't']
  else if Printable.isPrintable c then [c]
  else if c.toNat < 0x100 then '\\' :: 'x' :: hex c.toNat 2
  else if c.toNat < 0x10000 then '\\' :: 'u' :: hex c.toNat 4
  else '\\' :: 'U' :: hex c.toNat 8

/-- A text between quotes. -/
def chars (cs : List Char) : List Char :=
  let quote := quoteFor cs
  quote :: (cs.flatMap (escapeChar quote) ++ [quote])

/-- A text between quotes. -/
def text (s : String) : String :=
  String.ofList (chars s.toList)

/-- A byte between quotes. -/
def escapeByte (quote : Char) (b : UInt8) : List Char :=
  if b.toNat < 0x7F then escapeChar quote (Char.ofNat b.toNat) else '\\' :: 'x' :: hex b.toNat 2

/-- Bytes between quotes, after the letter b. -/
def bytes (bs : List UInt8) : List Char :=
  let quote := quoteFor (bs.map fun b => Char.ofNat b.toNat)
  'b' :: quote :: (bs.flatMap (escapeByte quote) ++ [quote])

end Enclosure.Quoted
