import Enclosure.Text.Decimal
import Mathlib.Data.List.Basic

/-!
# Reading decimal text

The number that the digits of a number denote is this number. So no two integers have the same
decimal text: a minus sign in front tells a negative one from the others.
-/

set_option autoImplicit false

namespace Enclosure.Decimal

/-- The character of a digit has the value of the digit. -/
theorem digitValue?_digitChar {d : Nat} (h : d < 10) : digitValue? (digitChar d) = some d := by
  have htable : ∀ d : Fin 10, digitValue? (digitChar d) = some d.val := by decide
  exact htable ⟨d, h⟩

/-- The character of a digit is one of `0` to `9`. -/
theorem isDigit_digitChar {d : Nat} (h : d < 10) : isDigit (digitChar d) = true := by
  have htable : ∀ d : Fin 10, isDigit (digitChar d) = true := by decide
  exact htable ⟨d, h⟩

/-- One more digit counts tenfold what stands before it. -/
theorem ofDigits_concat (cs : List Char) {d : Nat} (h : d < 10) :
    ofDigits (cs ++ [digitChar d]) = 10 * ofDigits cs + d := by
  simp [ofDigits, digitValue?_digitChar h]

/-- The digits of a number denote it. -/
@[simp] theorem ofDigits_digits (n : Nat) : ofDigits (digits n) = n := by
  induction n using Nat.strongRecOn with
  | ind n ih =>
    by_cases h : n < 10
    · have hdigit := ofDigits_concat [] h
      rw [digits_of_lt h]
      simpa [ofDigits] using hdigit
    · have hlast : n % 10 < 10 := by omega
      have htenth : ofDigits (digits (n / 10)) = n / 10 := ih (n / 10) (by omega)
      rw [digits_of_le (by omega), ofDigits_concat _ hlast, htenth]
      omega

/-- The digits of a number are characters from `0` to `9`. -/
theorem isDigit_of_mem_digits {n : Nat} {c : Char} (h : c ∈ digits n) : isDigit c = true := by
  induction n using Nat.strongRecOn with
  | ind n ih =>
    by_cases hn : n < 10
    · rw [digits_of_lt hn, List.mem_singleton] at h
      rw [h]
      exact isDigit_digitChar hn
    · rw [digits_of_le (by omega), List.mem_append, List.mem_singleton] at h
      rcases h with h | rfl
      · exact ih (n / 10) (by omega) h
      · exact isDigit_digitChar (by omega)

/-- The text of an integer holds nothing but digits and a minus sign. -/
theorem eq_or_isDigit_of_mem_intChars {i : Int} {c : Char} (h : c ∈ intChars i) :
    c = '-' ∨ isDigit c = true := by
  cases i with
  | ofNat n => exact Or.inr (isDigit_of_mem_digits h)
  | negSucc n =>
    rcases List.mem_cons.mp h with rfl | hdigit
    · exact Or.inl rfl
    · exact Or.inr (isDigit_of_mem_digits hdigit)

/-- Different integers have different texts. -/
theorem intChars_injective : Function.Injective intChars := by
  have hsign (m n : Nat) : digits m ≠ '-' :: digits n := by
    intro heq
    have hmem : '-' ∈ digits m := by simp [heq]
    have hdigit := isDigit_of_mem_digits hmem
    exact absurd hdigit (by decide)
  intro i j heq
  cases i with
  | ofNat m =>
    cases j with
    | ofNat n =>
      have hvalue : ofDigits (digits m) = ofDigits (digits n) := congrArg ofDigits heq
      rw [ofDigits_digits, ofDigits_digits] at hvalue
      rw [hvalue]
    | negSucc n => exact absurd heq (hsign m (n + 1))
  | negSucc m =>
    cases j with
    | ofNat n => exact absurd heq.symm (hsign n (m + 1))
    | negSucc n =>
      have hdigits : digits (m + 1) = digits (n + 1) := by
        simpa [intChars] using heq
      have hvalue : ofDigits (digits (m + 1)) = ofDigits (digits (n + 1)) :=
        congrArg ofDigits hdigits
      simpa using hvalue

end Enclosure.Decimal
