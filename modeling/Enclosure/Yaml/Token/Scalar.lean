import Enclosure.Json.Reader
import Enclosure.Yaml.Token.Basic

/-!
# Scalars

The five ways to write a scalar: between single or double quotes, as a literal or a folded block, or
plainly. Where a scalar goes over several lines, a single line end between two lines of text counts
as a blank and the further ones stay, except in a literal block, where all stay.
-/

set_option autoImplicit false

namespace Enclosure.Yaml

/-- What a fold of lines puts between two texts: a blank for one plain line end, the further line
ends otherwise. -/
def foldBreak (first : Char) (more : List Char) : List Char :=
  if first ≠ '\n' then first :: more
  else if more.isEmpty then [' ']
  else more

/-! ## Quoted scalars -/

/-- The line ends of the empty lines that come next inside quotes. The mark of a document's start or
end must not stand there. -/
def readQuotedBreaks : Nat → List Char → Cursor → Except Fault (List Char × Cursor)
  | 0, _, _ => .error .malformed
  | fuel + 1, seen, c =>
    if c.atSeparator then .error .malformed
    else
      let c := c.skipWhile Cursor.isBlank
      match c.lineBreak? with
      | some (b, c) => readQuotedBreaks fuel (b :: seen) c
      | none => .ok (seen.reverse, c)

/-- The blanks or line ends that come next inside quotes, as they count. -/
def readQuotedSpace (fuel : Nat) (c : Cursor) : Except Fault (List Char × Cursor) := do
  let (blanks, c) := c.span Cursor.isBlank
  match c.lineBreak? with
  | some (b, c) =>
    let (more, c) ← readQuotedBreaks fuel [] c
    return (foldBreak b more, c)
  | none =>
    c.require c.next.isSome
    return (blanks, c)

/-- The character of an escape by one letter. -/
def escapedChar? (c : Char) : Option Char :=
  match c with
  | '0' => some '\x00'
  | 'a' => some '\x07'
  | 'b' => some '\x08'
  | 't' => some '\t'
  | '\t' => some '\t'
  | 'n' => some '\n'
  | 'v' => some '\x0b'
  | 'f' => some '\x0c'
  | 'r' => some '\r'
  | 'e' => some '\x1b'
  | ' ' => some ' '
  | '"' => some '"'
  | '\\' => some '\\'
  | '/' => some '/'
  | 'N' => some '\x85'
  | '_' => some '\xa0'
  | 'L' => some '\u2028'
  | 'P' => some '\u2029'
  | _ => none

/-- The number of hexadecimal digits that follow an escape by a letter. -/
def escapeWidth? (c : Char) : Option Nat :=
  match c with
  | 'x' => some 2
  | 'u' => some 4
  | 'U' => some 8
  | _ => none

/-- The code that hexadecimal digits give. -/
def hexCode? (width : Nat) (cs : List Char) : Option Nat :=
  let ds := cs.take width
  if ds.length < width then none
  else ds.foldlM (fun n ch => (Json.hexValue? ch).map fun d => 16 * n + d) 0

/-- What an escape stands for, after its backslash. -/
def readEscape (fuel : Nat) (c : Cursor) : Except Fault (List Char × Cursor) :=
  match c.next with
  | none => .error c.fault
  | some ch =>
    match escapedChar? ch, escapeWidth? ch, c.lineBreak? with
    | some d, _, _ => .ok ([d], c.step)
    | _, some width, _ =>
      match hexCode? width c.step.rest with
      | none => .error .malformed
      | some code =>
        if 0x10FFFF < code then .error (.scalar (.codePoint code))
        else .ok ([Json.scalar code], c.step.skip width)
    | _, _, some (_, c) => readQuotedBreaks fuel [] c
    | none, none, none => .error .malformed

/-- The rest of a quoted scalar, whose opening quote has been read. -/
def readQuoted (double : Bool) : Nat → List Char → Cursor → Except Fault (Token × Cursor)
  | 0, _, _ => .error .malformed
  | fuel + 1, seen, c =>
    match c.next with
    | none => .error c.fault
    | some ch =>
      if ch = (if double then '"' else '\'') then
        if !double && c.peek 1 = some '\'' then readQuoted double fuel ('\'' :: seen) (c.skip 2)
        else .ok (.scalar seen.reverse false, c.step)
      else if double && ch = '\\' then do
        let (cs, c) ← readEscape fuel c.step
        readQuoted double fuel (cs.reverse ++ seen) c
      else if Cursor.isBlank ch || Cursor.isBreak ch then do
        let (cs, c) ← readQuotedSpace fuel c
        readQuoted double fuel (cs.reverse ++ seen) c
      else readQuoted double fuel (ch :: seen) c.step

/-! ## Block scalars -/

/-- What becomes of the line ends at the end of a block scalar. -/
inductive Chomping
  /-- All go. -/
  | strip
  /-- One stays. -/
  | clip
  /-- All stay. -/
  | keep
deriving DecidableEq

/-- The chomping that an indicator asks for. -/
def chomping? (c : Char) : Option Chomping :=
  if c = '+' then some .keep else if c = '-' then some .strip else none

/-- The indentation that an indicator asks for; zero is none. -/
def indentation? (c : Char) : Except Fault (Option Nat) :=
  match Decimal.digitValue? c with
  | some 0 => .error .malformed
  | d => .ok d

/-- The indicators of a block scalar: its chomping and its indentation, in either order. -/
def readBlockHeader (c : Cursor) : Except Fault ((Chomping × Option Nat) × Cursor) := do
  let digit (c : Cursor) : Except Fault (Option Nat × Cursor) :=
    match c.next with
    | some ch => do
      let d ← indentation? ch
      return (d, if d.isSome then c.step else c)
    | none => return (none, c)
  let mark (c : Cursor) : Option Chomping × Cursor :=
    match c.next.bind chomping? with
    | some m => (some m, c.step)
    | none => (none, c)
  let (first, c) := mark c
  let (width, c) ← digit c
  let (second, c) := if first.isNone && width.isSome then mark c else (none, c)
  c.require (atEnd c)
  return (((first.or second).getD .clip, width), c)
where
  /-- Whether a blank or the end of the line comes next. -/
  atEnd (c : Cursor) : Bool :=
    c.next = some ' ' || Cursor.isLineEnd c.next

/-- Go past at most a number of blanks that come before a column. -/
def skipIndent (indent : Nat) : Nat → Cursor → Cursor
  | 0, c => c
  | n + 1, c => if c.column < indent && c.next = some ' ' then skipIndent indent n c.step else c

/-- The line ends of the empty lines that come next in a block, and the cursor after the indentation
of the line that follows them. -/
def readBlockBreaks (indent : Nat) : Nat → List Char → Cursor → List Char × Cursor
  | 0, seen, c => (seen.reverse, c)
  | fuel + 1, seen, c =>
    let c := skipIndent indent indent c
    match c.lineBreak? with
    | some (b, c) => readBlockBreaks indent fuel (b :: seen) c
    | none => (seen.reverse, c)

/-- The line ends before the first line of a block, and the widest indentation among the lines up to
it. -/
def readBlockIndent : Nat → List Char → Nat → Cursor → (List Char × Nat) × Cursor
  | 0, seen, widest, c => ((seen.reverse, widest), c)
  | fuel + 1, seen, widest, c =>
    match c.lineBreak? with
    | some (b, c) => readBlockIndent fuel (b :: seen) widest c
    | none =>
      if c.next = some ' ' then readBlockIndent fuel seen (max widest c.step.column) c.step
      else ((seen.reverse, widest), c)

/-- The lines of a block from the first one on. `breaks` are the line ends of the empty lines before
the next line. -/
def readBlockLines (folded : Bool) (chomping : Chomping) (indent : Nat) :
    Nat → List Char → List Char → Cursor → List Char × Cursor
  | 0, seen, _, c => (seen.reverse, c)
  | fuel + 1, seen, breaks, c =>
    if c.column = indent && c.next.isSome then
      let spaced := (c.next.map Cursor.isBlank).getD false
      let (line, c) := c.span fun ch => !Cursor.isBreak ch
      let seen := line.reverse ++ (breaks.reverse ++ seen)
      let (lineEnd, c) := match c.lineBreak? with
        | some (b, c) => ([b], c)
        | none => ([], c)
      let (breaks, c) := readBlockBreaks indent fuel [] c
      if c.column = indent && c.next.isSome then
        let nextSpaced := (c.next.map Cursor.isBlank).getD false
        if folded && lineEnd = ['\n'] && !spaced && !nextSpaced then
          readBlockLines folded chomping indent fuel
            (if breaks.isEmpty then ' ' :: seen else seen) breaks c
        else readBlockLines folded chomping indent fuel (lineEnd ++ seen) breaks c
      else
        let tail := match chomping with
          | .strip => []
          | .clip => lineEnd
          | .keep => lineEnd ++ breaks
        (seen.reverse ++ tail, c)
    else
      let tail := match chomping with
        | .keep => breaks
        | _ => []
      (seen.reverse ++ tail, c)

/-- A block scalar, whose indicator has been read, inside a block of some indentation. -/
def readBlock (folded : Bool) (outer : Int) (c : Cursor) : Except Fault (Token × Cursor) := do
  let ((chomping, width), c) ← readBlockHeader c
  let c ← endLine c
  let least := (max (outer + 1) 1).toNat
  let fuel := c.rest.length + 1
  let (indent, breaks, c) := match width with
    | some w =>
      let indent := least + w - 1
      let (breaks, c) := readBlockBreaks indent fuel [] c
      (indent, breaks, c)
    | none =>
      let ((breaks, widest), c) := readBlockIndent fuel [] 0 c
      (max least widest, breaks, c)
  let (text, c) := readBlockLines folded chomping indent fuel [] breaks c
  return (.scalar text false, c)

/-! ## Plain scalars -/

/-- Whether a plain scalar ends before a character, given the one after it. -/
def endsPlain (inFlow : Bool) (c : Char) (after : Option Char) : Bool :=
  Cursor.isGap (some c)
    || (c == ':' && (Cursor.isGap after
      || (inFlow && (after.map fun a => ",[]\x7b\x7d".toList.contains a).getD false)))
    || (inFlow && ",?[]\x7b\x7d".toList.contains c)

/-- The characters of a plain scalar on one line, up to the first blank. -/
def plainRun (inFlow : Bool) : List Char → List Char
  | [] => []
  | c :: rest => if endsPlain inFlow c rest.head? then [] else c :: plainRun inFlow rest

/-- The empty lines inside a plain scalar; none if the mark of a document's start or end comes. -/
def readPlainBreaks : Nat → List Char → Cursor → Option (List Char) × Cursor
  | 0, seen, c => (some seen.reverse, c)
  | fuel + 1, seen, c =>
    if c.next = some ' ' then readPlainBreaks fuel seen c.step
    else
      match c.lineBreak? with
      | some (b, c) => if c.atSeparator then (none, c) else readPlainBreaks fuel (b :: seen) c
      | none => (some seen.reverse, c)

/-- The blanks and line ends after a run of a plain scalar, as they count if the scalar goes on:
none when it cannot. The flag says whether a line ended. -/
def readPlainSpace (fuel : Nat) (c : Cursor) : (List Char × Bool) × Cursor :=
  let (blanks, c) := c.span (· = ' ')
  match c.lineBreak? with
  | some (b, c) =>
    if c.atSeparator then (([], true), c)
    else
      match readPlainBreaks fuel [] c with
      | (some more, c) => ((foldBreak b more, true), c)
      | (none, c) => (([], true), c)
  | none => ((blanks, false), c)

/-- The rest of a plain scalar, after the blanks that `space` stands for. The flag says whether the
scalar so far ends with a line, so that a key may come next. -/
def readPlain (inFlow : Bool) (indent : Int) :
    Nat → List Char → List Char → Bool → Cursor → (List Char × Bool) × Cursor
  | 0, seen, _, keyAllowed, c => ((seen.reverse, keyAllowed), c)
  | fuel + 1, seen, space, keyAllowed, c =>
    if c.next = some '#' then ((seen.reverse, keyAllowed), c)
    else
      let run := plainRun inFlow c.rest
      if run.isEmpty then ((seen.reverse, keyAllowed), c)
      else
        let seen := run.reverse ++ (space.reverse ++ seen)
        let ((space, ended), c) := readPlainSpace fuel (c.skip run.length)
        if space.isEmpty || c.next = some '#' || (!inFlow && (c.column : Int) < indent) then
          ((seen.reverse, ended), c)
        else readPlain inFlow indent fuel seen space ended c

end Enclosure.Yaml
