/-!
# Lines of a text

A text is split after every line feed, and every line keeps its line feed. No other character breaks
a line, so rows count as a parser of the same text counts them, and the lines always join back to
the text.
-/

set_option autoImplicit false

namespace Enclosure.Lines

/-- Put one more character in front of text that is already split into lines. -/
def consChar (c : Char) (lines : List (List Char)) : List (List Char) :=
  if c = '\n' then [c] :: lines
  else
    match lines with
    | [] => [[c]]
    | line :: rest => (c :: line) :: rest

/-- The lines of a list of characters. -/
def splitChars (cs : List Char) : List (List Char) :=
  cs.foldr consChar []

/-- The lines of a text. -/
def split (text : String) : List String :=
  (splitChars text.toList).map String.ofList

/-- There are no lines in an empty text. -/
@[simp] theorem splitChars_nil : splitChars [] = [] := rfl

/-- A character goes in front of the first line of the rest, or is a line of its own. -/
@[simp] theorem splitChars_cons (c : Char) (cs : List Char) :
    splitChars (c :: cs) = consChar c (splitChars cs) := rfl

/-- Putting a character in front of the first line puts it in front of the text. -/
@[simp] theorem flatten_consChar (c : Char) (lines : List (List Char)) :
    (consChar c lines).flatten = c :: lines.flatten := by
  unfold consChar
  split
  · rfl
  · cases lines <;> rfl

/-- Splitting loses nothing. -/
@[simp] theorem flatten_splitChars (cs : List Char) : (splitChars cs).flatten = cs := by
  induction cs with
  | nil => rfl
  | cons c cs ih => simp [ih]

end Enclosure.Lines
