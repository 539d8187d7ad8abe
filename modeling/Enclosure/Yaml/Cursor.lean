import Enclosure.Yaml.Fault

/-!
# Cursors in a YAML text

A cursor is the rest of a text together with where it starts and with what comes after the text: its
end, or a fault where the text cannot be read any further. Line feeds, U+0085 and the two Unicode
separators end a line; carriage returns do not occur, because line ends are unified before a text is
read. A byte order mark takes no column.
-/

set_option autoImplicit false

namespace Enclosure.Yaml

/-- The rest of a text, with its offset, line and column, and the fault after it, if there is
one. -/
structure Cursor where
  rest : List Char
  index : Nat
  line : Nat
  column : Nat
  ending : Option Fault

namespace Cursor

/-- The cursor at the start of a text. -/
def start (cs : List Char) (ending : Option Fault) : Cursor :=
  ⟨cs, 0, 0, 0, ending⟩

/-- What is wrong where something else than what is there is wanted. -/
def fault (c : Cursor) : Fault :=
  if c.rest.isEmpty then c.ending.getD .malformed else .malformed

/-- Want a condition to hold at a cursor. -/
def require (c : Cursor) (condition : Bool) : Except Fault Unit :=
  if condition then .ok () else .error c.fault

/-- The fault at the end of a text, if a cursor is there and there is one. -/
def endingHere? (c : Cursor) : Option Fault :=
  if c.rest.isEmpty then c.ending else none

/-- Whether a character ends a line. -/
def isBreak (c : Char) : Bool :=
  c == '\n' || c == '\x85' || c == '\u2028' || c == '\u2029'

/-- Whether a character is a blank within a line. -/
def isBlank (c : Char) : Bool :=
  c == ' ' || c == '\t'

/-- Whether a character separates words, or the text ends there. -/
def isGap : Option Char → Bool
  | none => true
  | some c => isBlank c || isBreak c

/-- Whether a line ends at a character, or the text does. -/
def isLineEnd : Option Char → Bool
  | none => true
  | some c => isBreak c

/-- The next character but `n`. -/
def peek (c : Cursor) (n : Nat) : Option Char :=
  c.rest[n]?

/-- The next character. -/
def next (c : Cursor) : Option Char :=
  c.rest.head?

/-- Go past one character. -/
def step (c : Cursor) : Cursor :=
  match c.rest with
  | [] => c
  | ch :: rest =>
    let c := { c with rest := rest, index := c.index + 1 }
    if isBreak ch then { c with line := c.line + 1, column := 0 }
    else if ch = '\uFEFF' then c
    else { c with column := c.column + 1 }

/-- Go past a number of characters. -/
def skip (c : Cursor) : Nat → Cursor
  | 0 => c
  | n + 1 => c.step.skip n

/-- The characters up to the first one that fails a test, and the cursor after them. -/
def span (c : Cursor) (test : Char → Bool) : List Char × Cursor :=
  let cs := c.rest.takeWhile test
  (cs, c.skip cs.length)

/-- Go past the characters up to the first one that fails a test. -/
def skipWhile (c : Cursor) (test : Char → Bool) : Cursor :=
  (c.span test).2

/-- A line end, as the character it is read as, and the cursor after it. -/
def lineBreak? (c : Cursor) : Option (Char × Cursor) :=
  match c.next with
  | some ch =>
    if isBreak ch then
      some (if ch = '\n' ∨ ch = '\x85' then '\n' else ch, c.step)
    else none
  | none => none

/-- Whether three equal characters stand here as a word of their own. -/
def hasMarker (c : Cursor) (ch : Char) : Bool :=
  c.rest.take 3 == [ch, ch, ch] && isGap (c.peek 3)

/-- Whether the mark of a document's start or end stands here. -/
def atSeparator (c : Cursor) : Bool :=
  c.hasMarker '-' || c.hasMarker '.'

end Cursor

end Enclosure.Yaml
