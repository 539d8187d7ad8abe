import Enclosure.Number.Binary64
import Enclosure.Text.Digit

/-!
# Floating-point numbers in text

A floating-point number may be written with a sign, a point and an exponent, in the decimal digits
of any script and with blanks around it; the words for infinity and for what is not a number are
read in any case.
-/

set_option autoImplicit false

namespace Enclosure.Numeral

/-- The values of the digits at the start of a text and the text after them. -/
def digits : List Char → List Nat × List Char
  | [] => ([], [])
  | c :: rest =>
    match Digit.value? c with
    | some d =>
      let (ds, after) := digits rest
      (d :: ds, after)
    | none => ([], c :: rest)

/-- The number of a list of digits. -/
def number (ds : List Nat) : Nat :=
  ds.foldl (fun n d => 10 * n + d) 0

/-- The digits after a point, if a point comes next. -/
def fraction : List Char → List Nat × List Char
  | '.' :: rest => digits rest
  | cs => ([], cs)

/-- The sign that comes next, and whether it is a minus. -/
def sign : List Char → Bool × List Char
  | '-' :: rest => (true, rest)
  | '+' :: rest => (false, rest)
  | cs => (false, cs)

/-- An exponent that takes the whole rest of a text; an empty rest stands for zero. -/
def exponent? : List Char → Option Int
  | [] => some 0
  | e :: rest =>
    if e = 'e' ∨ e = 'E' then
      let (negative, rest) := sign rest
      match digits rest with
      | ([], _) => none
      | (ds, []) => some (Binary64.signed negative (number ds))
      | (_, _ :: _) => none
    else none

/-- The number that a text of digits denotes. -/
def finite? (negative : Bool) (cs : List Char) : Option Binary64 := do
  let (whole, rest) := digits cs
  let (part, rest) := fraction rest
  let e ← exponent? rest
  if whole.isEmpty && part.isEmpty then none
  else some (Binary64.ofDecimal negative (number (whole ++ part)) (e - part.length))

/-- The number that a word denotes. -/
def word? (negative : Bool) (cs : List Char) : Option Binary64 :=
  let w := String.ofList (cs.map Char.toLower)
  if w = "inf" ∨ w = "infinity" then some (.infinite negative)
  else if w = "nan" then some .nan
  else none

/-- The floating-point number that a text denotes, if it denotes one. -/
def read? (cs : List Char) : Option Binary64 :=
  let (negative, cs) := sign (Blank.trimWhile Blank.isWhiteSpace cs)
  (word? negative cs).or (finite? negative cs)

end Enclosure.Numeral
