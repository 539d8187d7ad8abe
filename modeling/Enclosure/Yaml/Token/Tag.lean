import Enclosure.Text.Utf8
import Enclosure.Json.Reader
import Enclosure.Yaml.Token.Basic

/-!
# Anchors, tags and directives

The tokens that start with `&`, `*`, `!` and `%`.
-/

set_option autoImplicit false

namespace Enclosure.Yaml

/-- The name of an anchor or an alias, whose indicator has been read. -/
def readAnchorName (c : Cursor) : Except Fault (List Char × Cursor) := do
  let (name, c) := c.span isWordChar
  c.require (!name.isEmpty)
  c.require (Cursor.isGap c.next ||
    (c.next.map fun ch => "?:,]\x7d%@\x60".toList.contains ch).getD false)
  return (name, c)

/-- The handle of a tag: one exclamation mark, or a word between two. -/
def readTagHandle (c : Cursor) : Except Fault (List Char × Cursor) := do
  c.require (c.next = some '!')
  let c := c.step
  if c.next = some ' ' then return (['!'], c)
  else
    let (word, c) := c.span isWordChar
    c.require (c.next = some '!')
    return ('!' :: word ++ ['!'], c.step)

/-- Whether a character may occur in a tag; a percent sign starts an escaped byte. -/
def isTagChar (c : Char) : Bool :=
  c.isAlphanum || "-;/?:@&=+$,_.!~*'()[]%".toList.contains c

/-- The bytes of a run of percent escapes. -/
def readEscapedBytes : Nat → List UInt8 → Cursor → Except Fault (List UInt8 × Cursor)
  | 0, bytes, c => .ok (bytes.reverse, c)
  | fuel + 1, bytes, c =>
    if c.next = some '%' then
      match (c.peek 1).bind Json.hexValue?, (c.peek 2).bind Json.hexValue? with
      | some a, some b => readEscapedBytes fuel (UInt8.ofNat (16 * a + b) :: bytes) (c.skip 3)
      | _, _ => .error c.fault
    else .ok (bytes.reverse, c)

/-- The characters of a tag after its handle, with percent escapes resolved. -/
def readTagChars : Nat → List Char → Cursor → Except Fault (List Char × Cursor)
  | 0, seen, c => .ok (seen.reverse, c)
  | fuel + 1, seen, c =>
    match c.next with
    | some '%' => do
      let (bytes, c) ← readEscapedBytes fuel [] c
      match Utf8.decodeStrict? bytes with
      | some cs => readTagChars fuel (cs.reverse ++ seen) c
      | none => .error .malformed
    | some ch =>
      if isTagChar ch then readTagChars fuel (ch :: seen) c.step else .ok (seen.reverse, c)
    | none => .ok (seen.reverse, c)

/-- The characters of a tag after its handle; there is at least one. -/
def readTagSuffix (c : Cursor) : Except Fault (List Char × Cursor) := do
  let (cs, after) ← readTagChars (c.rest.length + 1) [] c
  after.require (after.index ≠ c.index)
  return (cs, after)

/-- Whether a blank or the end of the line comes next; a tab does not count. -/
def atBlankOrLineEnd (c : Cursor) : Bool :=
  c.next = some ' ' || Cursor.isLineEnd c.next

/-- The handle of a tag that is not verbatim: one exclamation mark, unless a second one comes within
the word. -/
def readTagStart (c : Cursor) : Except Fault (List Char × Cursor) :=
  let word := c.step.rest.takeWhile fun ch => ch ≠ ' ' && !Cursor.isBreak ch
  if word.contains '!' then readTagHandle c else .ok (['!'], c.step)

/-- A tag up to what must follow it: verbatim between angle brackets, alone, or with a suffix. -/
def readTagBody (c : Cursor) : Except Fault (Token × Cursor) :=
  if c.peek 1 = some '<' then do
    let (suffix, c) ← readTagSuffix (c.skip 2)
    c.require (c.next = some '>')
    return (.tag none suffix, c.step)
  else if Cursor.isGap (c.peek 1) then .ok (.tag none ['!'], c.step)
  else do
    let (handle, c) ← readTagStart c
    let (suffix, c) ← readTagSuffix c
    return (.tag (some handle) suffix, c)

/-- A tag. -/
def readTag (c : Cursor) : Except Fault (Token × Cursor) := do
  let (token, c) ← readTagBody c
  c.require (atBlankOrLineEnd c)
  return (token, c)

/-- A number in a version directive, whose digits are limited in number. -/
def readVersionNumber (c : Cursor) : Except Fault (Nat × Cursor) := do
  let (ds, c) := c.span Decimal.isDigit
  c.require (!ds.isEmpty)
  if Decimal.limit < ds.length then throw (.scalar (.longInteger ds.length))
  return (Decimal.ofDigits ds, c)

/-- What a directive of a name says, up to the end of the line. -/
def readDirectiveBody (name : List Char) (c : Cursor) : Except Fault (Directive × Cursor) := do
  if name = "YAML".toList then
    let (major, c) ← readVersionNumber (c.skipWhile (· = ' '))
    c.require (c.next = some '.')
    let (minor, c) ← readVersionNumber c.step
    c.require (atBlankOrLineEnd c)
    return (.version major minor, c)
  else if name = "TAG".toList then
    let (handle, c) ← readTagHandle (c.skipWhile (· = ' '))
    c.require (c.next = some ' ')
    let (start, c) ← readTagSuffix (c.skipWhile (· = ' '))
    c.require (atBlankOrLineEnd c)
    return (.tagHandle handle start, c)
  else return (.other, c.skipWhile fun ch => !Cursor.isBreak ch)

/-- A directive, which takes a whole line. -/
def readDirective (c : Cursor) : Except Fault (Token × Cursor) := do
  let (name, c) := c.step.span isWordChar
  c.require (!name.isEmpty)
  c.require (atBlankOrLineEnd c)
  let (d, c) ← readDirectiveBody name c
  let c ← endLine c
  return (.directive d, c)

end Enclosure.Yaml
