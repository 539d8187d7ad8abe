import Enclosure.Text.Decimal

/-!
# Positions

A position is a 0-based line and column; columns count characters. Positions are ordered as they
occur in a document: by line, then by column. Coordinates are integers, so that positions before a
document or past its end can be spoken about.

A position is written with all its digits, however many there are. What bounds them is where
positions come from: arguments are read up to a number of digits that can also be written, and the
positions in a document, and those that its parser reports, are no greater than its size.
-/

set_option autoImplicit false

namespace Enclosure

/-- A 0-based line and column in a document. -/
structure Position where
  line : Int
  column : Int
deriving DecidableEq

namespace Position

instance : LE Position :=
  ⟨fun p q => p.line < q.line ∨ p.line = q.line ∧ p.column ≤ q.column⟩

instance : LT Position :=
  ⟨fun p q => p.line < q.line ∨ p.line = q.line ∧ p.column < q.column⟩

/-- Positions are compared by lines, and by columns where these are equal. -/
theorem le_def {p q : Position} :
    p ≤ q ↔ p.line < q.line ∨ p.line = q.line ∧ p.column ≤ q.column := Iff.rfl

/-- A position is before another one by its line, or by its column on the same line. -/
theorem lt_def {p q : Position} :
    p < q ↔ p.line < q.line ∨ p.line = q.line ∧ p.column < q.column := Iff.rfl

instance (p q : Position) : Decidable (p ≤ q) :=
  decidable_of_iff _ le_def.symm

instance (p q : Position) : Decidable (p < q) :=
  decidable_of_iff _ lt_def.symm

/-- A position is at most itself. -/
theorem le_refl (p : Position) : p ≤ p :=
  le_def.mpr (Or.inr ⟨rfl, Int.le_refl _⟩)

/-- The order of positions is transitive. -/
theorem le_trans {p q r : Position} (h₁ : p ≤ q) (h₂ : q ≤ r) : p ≤ r := by
  rw [le_def] at h₁ h₂ ⊢
  omega

/-- Two positions that are at most each other are equal. -/
theorem le_antisymm {p q : Position} (h₁ : p ≤ q) (h₂ : q ≤ p) : p = q := by
  rw [le_def] at h₁ h₂
  obtain ⟨l, c⟩ := p
  obtain ⟨l', c'⟩ := q
  have hl : l = l' := by
    simp only at h₁ h₂
    omega
  have hc : c = c' := by
    simp only at h₁ h₂
    omega
  rw [hl, hc]

/-- Of two positions, one is at most the other. -/
theorem le_total (p q : Position) : p ≤ q ∨ q ≤ p := by
  rw [le_def, le_def]
  omega

/-- Of two positions, the first is not before the second exactly when the second is at most the
first. -/
theorem not_lt {p q : Position} : ¬ p < q ↔ q ≤ p := by
  rw [lt_def, le_def]
  omega

/-- A position before another one is at most the other one. -/
theorem le_of_lt {p q : Position} (h : p < q) : p ≤ q := by
  rw [lt_def] at h
  rw [le_def]
  omega

/-- A position is written `[line, column]`. -/
def text (p : Position) : String :=
  "[" ++ Decimal.text p.line ++ ", " ++ Decimal.text p.column ++ "]"

end Position

end Enclosure
