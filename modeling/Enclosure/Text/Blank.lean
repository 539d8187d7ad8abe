import Enclosure.Text.CodeRanges

/-!
# Blank characters

The characters that trimming removes. Besides the white space of Unicode these are the four
information separators U+001C to U+001F. Zero-width characters are not blank.
-/

set_option autoImplicit false

namespace Enclosure.Blank

/-- The blank characters, as ranges of code points. -/
def ranges : List (Nat × Nat) := [
  (0x9, 0xD), (0x1C, 0x20), (0x85, 0x85), (0xA0, 0xA0), (0x1680, 0x1680), (0x2000, 0x200A),
  (0x2028, 0x2029), (0x202F, 0x202F), (0x205F, 0x205F), (0x3000, 0x3000)]

/-- Whether a character is blank. -/
def isBlank (c : Char) : Bool :=
  CodeRanges.mem c.toNat ranges

/-- Whether a character is white space in the sense of Unicode, which leaves out the information
separators. -/
def isWhiteSpace (c : Char) : Bool :=
  isBlank c && !(0x1C ≤ c.toNat && c.toNat ≤ 0x1F)

/-- A list of characters without those at either end that satisfy a test. -/
def trimWhile (test : Char → Bool) (cs : List Char) : List Char :=
  ((cs.dropWhile test).reverse.dropWhile test).reverse

/-- A text without blanks at its ends. -/
def trim (text : String) : String :=
  String.ofList (trimWhile isBlank text.toList)

end Enclosure.Blank
