import Enclosure.CursorRange
import Mathlib.Order.Defs.Unbundled

/-!
# Containment of ranges

Containment is a partial order of ranges. A range is no smaller than one that it contains: where
both span as many lines they start and stop in the same rows, so the columns can be compared; and it
is larger unless the two are the same. Moving two ranges down by the same number of rows changes
neither which of them contains the other nor their extents.
-/

set_option autoImplicit false

namespace Enclosure

/-- The position some rows further down. -/
def Position.down (rows : Nat) (p : Position) : Position :=
  ⟨p.line + rows, p.column⟩

/-- Moving two positions down keeps their order. -/
theorem Position.down_le_down_iff {rows : Nat} {p q : Position} :
    p.down rows ≤ q.down rows ↔ p ≤ q := by
  rw [le_def, le_def]
  dsimp only [down]
  omega

/-- Extents are equal when their lines and their columns are. -/
theorem Extent.eq_iff {a b : Extent} : a = b ↔ a.lines = b.lines ∧ a.columns = b.columns := by
  cases a
  cases b
  rw [mk.injEq]

/-- An extent that is at most another one is less or equal. -/
theorem Extent.lt_or_eq_of_le {a b : Extent} (h : a ≤ b) : a < b ∨ a = b := by
  rw [le_def] at h
  rw [lt_def, eq_iff]
  omega

/-- Of two extents, the first is not less exactly when the second is at most the first. -/
theorem Extent.not_lt {a b : Extent} : ¬ a < b ↔ b ≤ a := by
  rw [lt_def, le_def]
  omega

namespace CursorRange

/-- A range contains itself. -/
theorem contains_refl (r : CursorRange) : r.Contains r :=
  ⟨Position.le_refl r.start, Position.le_refl r.stop⟩

/-- A range contains what a range that it contains contains. -/
theorem contains_trans {a b c : CursorRange} (hab : a.Contains b) (hbc : b.Contains c) :
    a.Contains c :=
  ⟨Position.le_trans hab.1 hbc.1, Position.le_trans hbc.2 hab.2⟩

/-- Two ranges that contain each other are equal. -/
theorem contains_antisymm {a b : CursorRange} (hab : a.Contains b) (hba : b.Contains a) : a = b := by
  have hstart : a.start = b.start := Position.le_antisymm hab.1 hba.1
  have hstop : a.stop = b.stop := Position.le_antisymm hba.2 hab.2
  cases a
  cases b
  cases hstart
  cases hstop
  rfl

/-- Containment orders ranges partially. -/
theorem isPartialOrder_contains : IsPartialOrder CursorRange Contains where
  refl := contains_refl
  trans _ _ _ := contains_trans
  antisymm _ _ := contains_antisymm

/-- A range that is contained has at most the extent of the one around it. -/
theorem extent_le_of_contains {outer inner : CursorRange} (h : outer.Contains inner) :
    inner.extent ≤ outer.extent := by
  have hstart := Position.le_def.mp h.1
  have hstop := Position.le_def.mp h.2
  have hinner := Position.le_def.mp inner.start_le_stop
  rw [Extent.le_def]
  dsimp only [extent]
  omega

/-- A range inside another one of the same extent is the same range: as many lines between the ends
leave no other rows to either end, and then as many columns no other columns. -/
theorem eq_of_contains_of_extent_eq {outer inner : CursorRange} (h : outer.Contains inner)
    (hextent : inner.extent = outer.extent) : inner = outer := by
  have hstart := Position.le_def.mp h.1
  have hstop := Position.le_def.mp h.2
  obtain ⟨hlines, hcolumns⟩ := Extent.eq_iff.mp hextent
  dsimp only [extent] at hlines hcolumns
  have hback : inner.Contains outer :=
    ⟨Position.le_def.mpr (by omega), Position.le_def.mpr (by omega)⟩
  exact contains_antisymm hback h

/-- Of two ranges, one inside the other, the inner one is smaller unless they are the same. -/
theorem extent_lt_of_contains {outer inner : CursorRange} (h : outer.Contains inner)
    (hne : inner ≠ outer) : inner.extent < outer.extent := by
  rcases Extent.lt_or_eq_of_le (extent_le_of_contains h) with hlt | heq
  · exact hlt
  · exact absurd (eq_of_contains_of_extent_eq h heq) hne

/-- The range some rows further down. -/
def down (rows : Nat) (r : CursorRange) : CursorRange :=
  ⟨r.start.down rows, r.stop.down rows, Position.down_le_down_iff.mpr r.start_le_stop⟩

/-- Moving two ranges down keeps whether one contains the other. -/
theorem down_contains_down_iff {rows : Nat} {outer inner : CursorRange} :
    (outer.down rows).Contains (inner.down rows) ↔ outer.Contains inner :=
  and_congr Position.down_le_down_iff Position.down_le_down_iff

/-- Moving a range down keeps its extent. -/
theorem extent_down (rows : Nat) (r : CursorRange) : (r.down rows).extent = r.extent := by
  have hlines : r.stop.line + rows - (r.start.line + rows) = r.stop.line - r.start.line := by omega
  simp only [extent, down, Position.down, hlines]

end CursorRange

end Enclosure
