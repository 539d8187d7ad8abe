import Enclosure.Text.Decimal

/-!
# Binary floating-point numbers

A 64-bit floating-point number as an exact value: a 53-bit mantissa times a power of two, an
infinity, or not a number. Reading a decimal rounds the exact ratio to the nearest such value, a tie
going to the even mantissa, so no arithmetic of the machine is involved.
-/

set_option autoImplicit false

namespace Enclosure

/-- A 64-bit floating-point number. The value of a finite one is `mantissa * 2 ^ exponent`, with its
sign; zero has both signs. -/
inductive Binary64
  | finite (negative : Bool) (mantissa : Nat) (exponent : Int)
  | infinite (negative : Bool)
  | nan
deriving DecidableEq

namespace Binary64

/-- The least exponent, that of the subnormal numbers. -/
def minExponent : Int := -1074

/-- The greatest exponent of a finite number. -/
def maxExponent : Int := 971

/-- Two to the power 52, the least mantissa of a number that is not subnormal. -/
def leastFull : Nat := 4503599627370496

/-- Two to the power 53, which no mantissa reaches. -/
def mantissaBound : Nat := 9007199254740992

/-- Zero, with a sign. -/
def zero (negative : Bool) : Binary64 :=
  .finite negative 0 minExponent

/-- Two to the power of an integer, as a fraction. -/
def powerOfTwo (e : Int) : Nat × Nat :=
  (Nat.pow 2 e.toNat, Nat.pow 2 (-e).toNat)

/-- A quotient rounded to the nearest integer, a tie going to the even one. -/
def roundDiv (num den : Nat) : Nat :=
  let q := num / den
  let r := num % den
  if 2 * r < den then q
  else if den < 2 * r then q + 1
  else if q % 2 = 0 then q else q + 1

/-- The mantissa of the ratio `num / den` at an exponent, rounded. -/
def mantissaAt (num den : Nat) (e : Int) : Nat :=
  roundDiv (num * (powerOfTwo e).2) (den * (powerOfTwo e).1)

/-- Whether the ratio `num / den` fills 53 bits at an exponent. -/
def fills (num den : Nat) (e : Int) : Bool :=
  leastFull * (den * (powerOfTwo e).1) ≤ num * (powerOfTwo e).2

/-- The floating-point number nearest to a ratio. -/
def ofRatio (negative : Bool) (num den : Nat) : Binary64 :=
  if num = 0 then zero negative
  else
    let guess : Int := (num.log2 : Int) - (den.log2 : Int) - 52
    let e := if fills num den guess then guess else guess - 1
    let e := max e minExponent
    let m := mantissaAt num den e
    let (m, e) := if m = mantissaBound then (leastFull, e + 1) else (m, e)
    if m = 0 then zero negative
    else if maxExponent < e then .infinite negative
    else .finite negative m e

/-- The number of decimal digits beyond which an exponent decides alone between zero and
infinity. -/
def farExponent : Int := 400

/-- The floating-point number nearest to `digits * 10 ^ exponent`. -/
def ofDecimal (negative : Bool) (digits : Nat) (exponent : Int) : Binary64 :=
  if digits = 0 then zero negative
  else
    let width : Int := (Decimal.digits digits).length
    if farExponent < width + exponent then .infinite negative
    else if width + exponent < -farExponent then zero negative
    else ofRatio negative (digits * Nat.pow 10 exponent.toNat) (Nat.pow 10 (-exponent).toNat)

/-- The floating-point number nearest to an integer. -/
def ofInt (i : Int) : Binary64 :=
  ofRatio (i < 0) i.natAbs 1

/-- The magnitude of a finite number, as a fraction. -/
def magnitude? : Binary64 → Option (Nat × Nat)
  | .finite _ m e => some (m * (powerOfTwo e).1, (powerOfTwo e).2)
  | _ => none

/-- The integer that a floating-point number equals, if it equals one. -/
def toInt? : Binary64 → Option Int
  | .finite negative m e =>
    let (num, den) := (m * (powerOfTwo e).1, (powerOfTwo e).2)
    if num % den = 0 then some (if negative then -((num / den : Nat) : Int) else (num / den : Nat))
    else none
  | _ => none

/-- Whether a number is zero, of either sign. -/
def isZero : Binary64 → Bool
  | .finite _ m _ => m = 0
  | _ => false

/-- The number with the other sign. -/
def neg : Binary64 → Binary64
  | .finite negative m e => .finite (!negative) m e
  | .infinite negative => .infinite (!negative)
  | .nan => .nan

/-- Whether a number has a minus sign. -/
def isNegative : Binary64 → Bool
  | .finite negative _ _ => negative
  | .infinite negative => negative
  | .nan => false

/-- An integer with a sign in front of a magnitude. -/
def signed (negative : Bool) (n : Nat) : Int :=
  if negative then -(n : Int) else n

/-- The sum of two numbers, rounded once. Infinities of both signs have none. -/
def add (a b : Binary64) : Binary64 :=
  match a, b with
  | .nan, _ => .nan
  | _, .nan => .nan
  | .infinite s, .infinite t => if s = t then .infinite s else .nan
  | .infinite s, _ => .infinite s
  | _, .infinite t => .infinite t
  | .finite s m e, .finite t n f =>
    let (p, q) := (powerOfTwo e, powerOfTwo f)
    let sum := signed s (m * p.1 * q.2) + signed t (n * q.1 * p.2)
    ofRatio (if sum = 0 then s && t else sum < 0) sum.natAbs (p.2 * q.2)

/-- The product of two numbers, rounded once. An infinity times zero has none. -/
def mul (a b : Binary64) : Binary64 :=
  let negative := a.isNegative != b.isNegative
  match a.magnitude?, b.magnitude? with
  | some (n₁, d₁), some (n₂, d₂) => ofRatio negative (n₁ * n₂) (d₁ * d₂)
  | _, _ => if a = .nan ∨ b = .nan ∨ a.isZero ∨ b.isZero then .nan else .infinite negative

end Binary64

end Enclosure
