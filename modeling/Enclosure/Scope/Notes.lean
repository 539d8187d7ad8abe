/-!
# Advisory notes

A note is added for every marker that occurs anywhere in the text, in the order of the table of
markers. The notes are joined by a separator.
-/

set_option autoImplicit false

namespace Enclosure.Notes

/-- A marker and the note it calls for. -/
structure Marker where
  marker : String
  note : String

/-- The markers of a source text. -/
def markers : List Marker :=
  [⟨"macro", "macro: introduced since Swift 5.9"⟩]

/-- The separator between notes unless another one is set. -/
def defaultSeparator : String :=
  "\n"

/-- Whether some characters occur, one after the other, in others. -/
def occurs (needle : List Char) : List Char → Bool
  | [] => needle.isEmpty
  | c :: rest => if needle.isPrefixOf (c :: rest) then true else occurs needle rest

/-- Some characters occur in others exactly when these split around them. -/
theorem occurs_iff {needle hay : List Char} : occurs needle hay = true ↔ needle <:+: hay := by
  induction hay with
  | nil => simp [occurs]
  | cons c rest ih =>
    rw [occurs, List.infix_cons_iff, ← ih]
    by_cases h : needle.isPrefixOf (c :: rest) = true
    · simp [h, List.isPrefixOf_iff_prefix.mp h]
    · have : ¬ needle <+: c :: rest := fun hp => h (List.isPrefixOf_iff_prefix.mpr hp)
      simp [h, this]

/-- The notes of the markers that occur in a text, in the order of the markers. -/
def collect (text : String) (table : List Marker) : List String :=
  (table.filter fun m => occurs m.marker.toList text.toList).map Marker.note

/-- The notes of a text, joined. -/
def join (text : String) (table : List Marker) (separator : String) : String :=
  separator.intercalate (collect text table)

end Enclosure.Notes
