/-!
# Decimal text of integers

The text of an integer is a minus sign for a negative one, then its decimal digits without leading
zeros. Everything the library prints about positions, sizes and numbers goes through here.
-/

set_option autoImplicit false

namespace Enclosure.Decimal

/-- The number of decimal digits above which integers are neither read nor written. -/
def limit : Nat := 4300

/-- The character of a digit below ten. -/
def digitChar (d : Nat) : Char :=
  Char.ofNat ('0'.toNat + d)

/-- The value of a decimal digit, if the character is one of `0` to `9`. -/
def digitValue? (c : Char) : Option Nat :=
  if '0' ≤ c ∧ c ≤ '9' then some (c.toNat - '0'.toNat) else none

/-- Whether a character is one of `0` to `9`. -/
def isDigit (c : Char) : Bool :=
  '0' ≤ c && c ≤ '9'

/-- The decimal digits of a natural number, most significant first, without leading zeros. -/
def digits (n : Nat) : List Char :=
  if n < 10 then [digitChar n] else digits (n / 10) ++ [digitChar (n % 10)]
termination_by n
decreasing_by omega

/-- The decimal text of an integer. -/
def intChars : Int → List Char
  | .ofNat n => digits n
  | .negSucc n => '-' :: digits (n + 1)

/-- The decimal text of an integer, as a string. -/
def text (i : Int) : String :=
  String.ofList (intChars i)

/-- The number that a list of decimal digits denotes; other characters count as zero. -/
def ofDigits (cs : List Char) : Nat :=
  cs.foldl (fun n c => 10 * n + (digitValue? c).getD 0) 0

/-- The digits of a number below ten are that one digit. -/
theorem digits_of_lt {n : Nat} (h : n < 10) : digits n = [digitChar n] := by
  rw [digits]
  simp [h]

/-- The digits of a larger number are those of its tenth, then its last digit. -/
theorem digits_of_le {n : Nat} (h : 10 ≤ n) :
    digits n = digits (n / 10) ++ [digitChar (n % 10)] := by
  rw [digits]
  simp [Nat.not_lt.mpr h]

end Enclosure.Decimal
