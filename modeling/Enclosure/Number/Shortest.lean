import Enclosure.Number.Binary64

/-!
# Shortest decimal text

A floating-point number is written with the fewest decimal digits that read back as the same number,
and among those with the digits nearest to its exact value. The notation is positional while the
decimal point falls within sixteen places after the first digit or three zeros before it, and
scientific otherwise.
-/

set_option autoImplicit false

namespace Enclosure.Shortest

/-- The interval of the exact values that read back as a number, scaled by a common denominator:
the bounds and the value itself lie over `den`. The bounds belong to it when the mantissa is
even. -/
structure Interval where
  low : Nat
  value : Nat
  high : Nat
  den : Nat
  closed : Bool

/-- The interval of a finite number other than zero. At a power of two the lower neighbour is only
half as far away. -/
def intervalOf (mantissa : Nat) (exponent : Int) : Interval :=
  let up := (Binary64.powerOfTwo exponent).1
  let den := 4 * (Binary64.powerOfTwo exponent).2
  let below :=
    if mantissa = Binary64.leastFull ∧ Binary64.minExponent < exponent then 4 * mantissa - 1
    else 4 * mantissa - 2
  ⟨below * up, 4 * mantissa * up, (4 * mantissa + 2) * up, den, mantissa % 2 == 0⟩

/-- Whether the fraction `num / den` lies in an interval. -/
def Interval.holds (i : Interval) (num den : Nat) : Bool :=
  if i.closed then i.low * den ≤ num * i.den && num * i.den ≤ i.high * den
  else i.low * den < num * i.den && num * i.den < i.high * den

/-- Ten to the power of an integer, as a fraction. -/
def powerOfTen (e : Int) : Nat × Nat :=
  (Nat.pow 10 e.toNat, Nat.pow 10 (-e).toNat)

/-- The place of the decimal point: the least exponent whose power of ten exceeds the value. The
guess from the binary size is at most two off. -/
def pointOf (i : Interval) : Int :=
  let guess : Int := ((i.value.log2 : Int) - (i.den.log2 : Int)) * 30103 / 100000 - 1
  let exceeds (e : Int) : Bool := i.value * (powerOfTen e).2 < (powerOfTen e).1 * i.den
  if exceeds guess then guess
  else if exceeds (guess + 1) then guess + 1
  else if exceeds (guess + 2) then guess + 2
  else guess + 3

/-- The multiple of a power of ten that reads back as the number and is nearest to it, if one of
the two neighbours of the value on that grid does. -/
def onGrid? (i : Interval) (grid : Int) : Option Nat :=
  let (up, down) := powerOfTen grid
  let num := i.value * down
  let den := i.den * up
  let below := num / den
  let fits (n : Nat) : Bool := i.holds (n * up) down
  let nearest := Binary64.roundDiv num den
  if fits nearest then some nearest
  else if fits below then some below
  else if fits (below + 1) then some (below + 1)
  else none

/-- The shortest digits, trying `count` digits and then more, with the place of the decimal
point. -/
def search (i : Interval) (point : Int) : Nat → Nat → List Char × Int
  | 0, count => ((Decimal.digits ((onGrid? i (point - count)).getD 0)), point)
  | fuel + 1, count =>
    match onGrid? i (point - count) with
    | some n =>
      let ds := Decimal.digits n
      (ds, point + ds.length - count)
    | none => search i point fuel (count + 1)

/-- The shortest digits of a finite number other than zero, without trailing zeros, and the place of
the decimal point before which they stand. -/
def digitsOf (mantissa : Nat) (exponent : Int) : List Char × Int :=
  let i := intervalOf mantissa exponent
  let (ds, point) := search i (pointOf i) 16 1
  ((ds.reverse.dropWhile (· = '0')).reverse, point)

/-- Digits with a point after the given number of them, and always a digit after the point. -/
def positional (ds : List Char) (point : Int) : List Char :=
  if point ≤ 0 then '0' :: '.' :: (List.replicate (-point).toNat '0' ++ ds)
  else
    let n := point.toNat
    let whole := ds.take n ++ List.replicate (n - ds.length) '0'
    let fraction := ds.drop n
    whole ++ '.' :: (if fraction.isEmpty then ['0'] else fraction)

/-- Digits in scientific notation; the exponent has a sign and at least two digits. -/
def scientific (ds : List Char) (point : Int) : List Char :=
  let e := point - 1
  let mark := if e < 0 then ['e', '-'] else ['e', '+']
  let es := Decimal.digits e.natAbs
  let es := if es.length < 2 then '0' :: es else es
  let lead := match ds with
    | [] => []
    | [d] => [d]
    | d :: rest => d :: '.' :: rest
  lead ++ mark ++ es

/-- The text of a number, with the spellings of infinity and of not-a-number left to the caller. -/
def chars (infinity notNumber : List Char) : Binary64 → List Char
  | .nan => notNumber
  | .infinite negative => if negative then '-' :: infinity else infinity
  | .finite negative mantissa exponent =>
    let body :=
      if mantissa = 0 then ['0', '.', '0']
      else
        let (ds, point) := digitsOf mantissa exponent
        if -4 < point ∧ point ≤ 16 then positional ds point else scientific ds point
    if negative then '-' :: body else body

/-- The text of a number: `inf` and `nan` for those that are not finite. -/
def text (x : Binary64) : String :=
  String.ofList (chars ['i', 'n', 'f'] ['n', 'a', 'n'] x)

end Enclosure.Shortest
