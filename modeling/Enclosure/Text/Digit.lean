import Enclosure.Text.CodeRanges
import Enclosure.Text.Blank
import Enclosure.Text.Decimal

/-!
# Integers in text

An integer may be written with the decimal digits of any script, with a sign, with single
underscores between its digits and with blanks around it.
-/

set_option autoImplicit false

namespace Enclosure.Digit

/-- The decimal digits of all scripts; each range is a run of tens that start at zero. -/
def ranges : List (Nat × Nat) := [
  (0x30, 0x39), (0x660, 0x669), (0x6F0, 0x6F9), (0x7C0, 0x7C9), (0x966, 0x96F), (0x9E6, 0x9EF),
  (0xA66, 0xA6F), (0xAE6, 0xAEF), (0xB66, 0xB6F), (0xBE6, 0xBEF), (0xC66, 0xC6F), (0xCE6, 0xCEF),
  (0xD66, 0xD6F), (0xDE6, 0xDEF), (0xE50, 0xE59), (0xED0, 0xED9), (0xF20, 0xF29), (0x1040, 0x1049),
  (0x1090, 0x1099), (0x17E0, 0x17E9), (0x1810, 0x1819), (0x1946, 0x194F), (0x19D0, 0x19D9),
  (0x1A80, 0x1A89), (0x1A90, 0x1A99), (0x1B50, 0x1B59), (0x1BB0, 0x1BB9), (0x1C40, 0x1C49),
  (0x1C50, 0x1C59), (0xA620, 0xA629), (0xA8D0, 0xA8D9), (0xA900, 0xA909), (0xA9D0, 0xA9D9),
  (0xA9F0, 0xA9F9), (0xAA50, 0xAA59), (0xABF0, 0xABF9), (0xFF10, 0xFF19), (0x104A0, 0x104A9),
  (0x10D30, 0x10D39), (0x11066, 0x1106F), (0x110F0, 0x110F9), (0x11136, 0x1113F),
  (0x111D0, 0x111D9), (0x112F0, 0x112F9), (0x11450, 0x11459), (0x114D0, 0x114D9),
  (0x11650, 0x11659), (0x116C0, 0x116C9), (0x11730, 0x11739), (0x118E0, 0x118E9),
  (0x11950, 0x11959), (0x11C50, 0x11C59), (0x11D50, 0x11D59), (0x11DA0, 0x11DA9),
  (0x16A60, 0x16A69), (0x16AC0, 0x16AC9), (0x16B50, 0x16B59), (0x1D7CE, 0x1D7FF),
  (0x1E140, 0x1E149), (0x1E2F0, 0x1E2F9), (0x1E950, 0x1E959), (0x1FBF0, 0x1FBF9)]

/-- The value of a decimal digit of any script. -/
def value? (c : Char) : Option Nat :=
  (ranges.find? fun r => r.1 ≤ c.toNat && c.toNat ≤ r.2).map fun r => (c.toNat - r.1) % 10

/-- The value of a digit in a base up to sixteen: a decimal digit of any script, or an ASCII letter
for the digits from ten on. -/
def valueIn? (base : Nat) (c : Char) : Option Nat :=
  let v :=
    match value? c with
    | some d => some d
    | none =>
      if 'a' ≤ c ∧ c ≤ 'z' then some (c.toNat - 'a'.toNat + 10)
      else if 'A' ≤ c ∧ c ≤ 'Z' then some (c.toNat - 'A'.toNat + 10)
      else none
  v.filter (· < base)

/-- Why a text does not denote an integer. -/
inductive IntegerFault
  /-- It does not have the form of an integer. -/
  | form
  /-- It has more decimal digits than are read. -/
  | tooLong (count : Nat)
deriving DecidableEq

/-- Whether single underscores stand between digits only. The flag says whether a digit has just
been read. -/
def isSpaced : Bool → List Char → Bool
  | afterDigit, [] => afterDigit
  | afterDigit, c :: rest =>
    if c = '_' then afterDigit && isSpaced false rest else isSpaced true rest

/-- Whether a character may belong to a number in base ten. -/
def isDecimal (c : Char) : Bool :=
  c == '_' || (value? c).isSome

/-- The number that digits in a base denote, if all characters but the underscores are digits. -/
def ofDigits? (base : Nat) (cs : List Char) : Option Nat :=
  (cs.filter (· ≠ '_')).foldlM (fun n c => (valueIn? base c).map fun d => n * base + d) 0

/-- The number that digits with single underscores between them denote. In base ten the number of
digits at the start of the text is limited, also where something else follows them. -/
def natural (base : Nat) (cs : List Char) : Except IntegerFault Nat :=
  let ds := cs.takeWhile isDecimal
  let rest := cs.dropWhile isDecimal
  let count := ds.countP (· ≠ '_')
  if base = 10 ∧ isSpaced false ds ∧ Decimal.limit < count then .error (.tooLong count)
  else if base = 10 ∧ !rest.isEmpty then .error .form
  else if isSpaced false cs then
    match ofDigits? base cs with
    | some n => .ok n
    | none => .error .form
  else .error .form

/-- The letters after a zero that may announce a base. -/
def baseLetters (base : Nat) : List Char :=
  if base = 16 then ['x', 'X']
  else if base = 8 then ['o', 'O']
  else if base = 2 then ['b', 'B']
  else []

/-- Digits after an optional announcement of the base, which one underscore may follow. -/
def unsigned (base : Nat) (cs : List Char) : Except IntegerFault Nat :=
  match cs with
  | '0' :: letter :: rest =>
    if letter ∈ baseLetters base then
      match rest with
      | '_' :: rest => natural base rest
      | rest => natural base rest
    else natural base cs
  | _ => natural base cs

/-- The integer that a text denotes in a base. -/
def integer (base : Nat) (text : String) : Except IntegerFault Int :=
  match Blank.trimWhile Blank.isWhiteSpace text.toList with
  | '-' :: rest => (unsigned base rest).map fun n : Nat => -(n : Int)
  | '+' :: rest => (unsigned base rest).map Int.ofNat
  | cs => (unsigned base cs).map Int.ofNat

end Enclosure.Digit
