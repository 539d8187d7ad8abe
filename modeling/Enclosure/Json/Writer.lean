import Enclosure.Number.Shortest
import Enclosure.Text.Quoted
import Enclosure.Value.Display

/-!
# JSON text of values

A value is written on one line, with a blank after every comma and colon. All characters that
are not printable ASCII are escaped by their UTF-16 units, so the text is ASCII. Sets and pairs are
written as lists, and a collection inside of itself as null.
-/

set_option autoImplicit false

namespace Enclosure.Json

/-- The escape of one UTF-16 unit. -/
def unitEscape (n : Nat) : List Char :=
  '\\' :: 'u' :: Quoted.hex n 4

/-- A character inside a JSON string. -/
def escapeChar (c : Char) : List Char :=
  let n := c.toNat
  if c = '"' ∨ c = '\\' then ['\\', c]
  else if c = '\n' then ['\\', 'n']
  else if c = '\r' then ['\\', 'r']
  else if c = '\t' then ['\\', 't']
  else if n = 0x08 then ['\\', 'b']
  else if n = 0x0C then ['\\', 'f']
  else if 0x20 ≤ n ∧ n < 0x7F then [c]
  else if n < 0x10000 then unitEscape n
  else unitEscape (0xD800 + (n - 0x10000) / 0x400) ++ unitEscape (0xDC00 + (n - 0x10000) % 0x400)

/-- A JSON string. -/
def stringChars (s : String) : List Char :=
  '"' :: (s.toList.flatMap escapeChar ++ ['"'])

mutual

/-- The JSON text of a value. -/
def chars : Value → List Char
  | .null => "null".toList
  | .bool b => if b then "true".toList else "false".toList
  | .int i => Decimal.intChars i
  | .float x => Shortest.chars "Infinity".toList "NaN".toList x
  | .list items => '[' :: itemsChars items ++ [']']
  | .map entries => '\x7b' :: entriesChars entries ++ ['\x7d']
  | .str s => stringChars s
  | .date d => stringChars (String.ofList d.chars)
  | .timestamp t => stringChars (String.ofList (t.chars 'T'))
  | .bytes bs => stringChars (String.ofList (Quoted.bytes bs))
  | .set members => '[' :: itemsChars members ++ [']']
  | .pair first second => '[' :: chars first ++ ',' :: ' ' :: chars second ++ [']']
  | .knot _ body => chars body
  | .again _ => "null".toList

/-- The items of a list, separated by commas. -/
def itemsChars : List Value → List Char
  | [] => []
  | [v] => chars v
  | v :: w :: rest => chars v ++ ',' :: ' ' :: itemsChars (w :: rest)

/-- The entries of a mapping, separated by commas. -/
def entriesChars : List (Value × Value) → List Char
  | [] => []
  | [(k, v)] => keyChars k ++ ':' :: ' ' :: chars v
  | (k, v) :: e :: rest =>
    keyChars k ++ ':' :: ' ' :: chars v ++ ',' :: ' ' :: entriesChars (e :: rest)

/-- A key is always a string; a constant or a number becomes the string of its JSON text. -/
def keyChars : Value → List Char
  | .str s => stringChars s
  | .null => stringChars "null"
  | .bool b => stringChars (if b then "true" else "false")
  | v => stringChars v.text

end

/-- The JSON text of a value. -/
def write (v : Value) : String :=
  String.ofList (chars v)

end Enclosure.Json
