/-!
# Positive numbers

A natural number other than zero, as limits are and as people count lines and columns.
-/

set_option autoImplicit false

namespace Enclosure

/-- A natural number other than zero. -/
structure Positive where
  number : Nat
  pos : 0 < number
deriving DecidableEq

namespace Positive

/-- The least positive number. -/
def one : Positive :=
  ⟨1, Nat.one_pos⟩

/-- The positive number that an integer is, if it is one. -/
def ofInt? (i : Int) : Option Positive :=
  if h : 0 < i then some ⟨i.toNat, Int.pos_iff_toNat_pos.mp h⟩ else none

/-- How many come before the one with this number. -/
def index (p : Positive) : Int :=
  (p.number : Int) - 1

end Positive

end Enclosure
