/-!
# Sets of code points

A property of characters is given as a list of inclusive ranges of code points.
-/

set_option autoImplicit false

namespace Enclosure.CodeRanges

/-- Whether a code point lies in one of the ranges. -/
def mem (n : Nat) (ranges : List (Nat × Nat)) : Bool :=
  ranges.any fun r => r.1 ≤ n && n ≤ r.2

/-- A code point lies in the ranges exactly when it lies between the ends of one of them. -/
theorem mem_iff {n : Nat} {ranges : List (Nat × Nat)} :
    mem n ranges = true ↔ ∃ r ∈ ranges, r.1 ≤ n ∧ n ≤ r.2 := by
  simp [mem, List.any_eq_true]

end Enclosure.CodeRanges
