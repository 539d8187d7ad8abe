import Enclosure.Yaml.Source
import Enclosure.Yaml.Token.Scalar
import Enclosure.Yaml.Token.Tag

/-!
# The tokens of a text

Reading the tokens of a whole text. Indentation is kept on a stack, and every level that ends gives
a token. A key without an indicator is only known to be one when its colon comes, so the places
where a key may have started are remembered, one for each level of brackets; such a place is good
for one line and 1024 characters. A fault in the text ends the tokens, and those in front of it
stand, as far as it is settled what they are.
-/

set_option autoImplicit false

namespace Enclosure.Yaml

/-- A place where a key without an indicator may have started. -/
structure KeyStart where
  /-- The number of tokens before it. -/
  token : Nat
  /-- Whether a key is the only thing that can stand there. -/
  required : Bool
  index : Nat
  line : Nat
  column : Nat

/-- Where the reading of tokens stands. -/
structure TokenState where
  cursor : Cursor
  tokens : Array Token
  /-- The number of open brackets. -/
  flowLevel : Nat
  /-- The column of the innermost block, -1 outside all blocks. -/
  indent : Int
  /-- The columns of the blocks around it. -/
  outer : List Int
  /-- Whether a key may start at the next token. -/
  keyAllowed : Bool
  /-- Where keys may have started, by the number of open brackets. -/
  keyStarts : List (Nat × KeyStart)

namespace TokenState

/-- The state at the start of a text. -/
def start (c : Cursor) : TokenState :=
  ⟨c, #[], 0, -1, [], true, []⟩

/-- Add a token. -/
def push (s : TokenState) (t : Token) : TokenState :=
  { s with tokens := s.tokens.push t }

/-- Add a token and go past a number of characters. -/
def take (s : TokenState) (t : Token) (n : Nat) : TokenState :=
  { s.push t with cursor := s.cursor.skip n }

/-- Go past blanks, comments and line ends to the next token. Outside brackets a new line allows a
key. -/
def skipToToken : Nat → TokenState → TokenState
  | 0, s => s
  | fuel + 1, s =>
    let c := s.cursor.skipWhile (· = ' ')
    let c := if c.next = some '#' then c.skipWhile fun ch => !Cursor.isBreak ch else c
    match c.lineBreak? with
    | some (_, c) =>
      skipToToken fuel { s with cursor := c, keyAllowed := s.flowLevel = 0 || s.keyAllowed }
    | none => { s with cursor := c }

/-- Whether a key that started at a place can no longer have its colon here. -/
def isStale (s : TokenState) (k : KeyStart) : Bool :=
  k.line ≠ s.cursor.line || 1024 < s.cursor.index - k.index

/-- Forget the places whose keys can no longer have their colon; a required key must not be among
them. -/
def dropStale (s : TokenState) : Except Fault TokenState := do
  require (!s.keyStarts.any fun k => s.isStale k.2 && k.2.required)
  return { s with keyStarts := s.keyStarts.filter fun k => !s.isStale k.2 }

/-- Where a key may have started between the present brackets. -/
def keyStart? (s : TokenState) : Option KeyStart :=
  (s.keyStarts.find? fun k => k.1 = s.flowLevel).map Prod.snd

/-- The state without the place where a key may have started between the present brackets. -/
def withoutKeyStart (s : TokenState) : TokenState :=
  { s with keyStarts := s.keyStarts.filter fun k => k.1 ≠ s.flowLevel }

/-- Forget where a key may have started between the present brackets; it must not be required. -/
def dropKeyStart (s : TokenState) : Except Fault TokenState := do
  require (!(s.keyStart?.map KeyStart.required).getD false)
  return s.withoutKeyStart

/-- Remember that a key may start here, if it may. -/
def saveKeyStart (s : TokenState) : Except Fault TokenState :=
  if s.keyAllowed then do
    let required := s.flowLevel = 0 && s.indent = s.cursor.column
    let k : KeyStart := ⟨s.tokens.size, required, s.cursor.index, s.cursor.line, s.cursor.column⟩
    let s ← s.dropKeyStart
    return { s with keyStarts := (s.flowLevel, k) :: s.keyStarts }
  else return s

/-- End the blocks that are indented further than a column. Between brackets there are none. -/
def unwind (s : TokenState) (column : Int) : TokenState :=
  if s.flowLevel = 0 then
    let rec ends (indent : Int) (tokens : Array Token) : List Int → TokenState
      | [] => { s with indent := indent, outer := [], tokens := tokens }
      | outer :: rest =>
        if column < indent then ends outer (tokens.push .blockEnd) rest
        else { s with indent := indent, outer := outer :: rest, tokens := tokens }
    ends s.indent s.tokens s.outer
  else s

/-- Start a block at a column if that is further in than the present block: the new state, and
whether a block was started. -/
def addIndent (s : TokenState) (column : Int) : TokenState × Bool :=
  if s.indent < column then
    ({ s with outer := s.indent :: s.outer, indent := column }, true)
  else (s, false)

/-- Set whether a key may start next. -/
def allowKey (s : TokenState) (allowed : Bool) : TokenState :=
  { s with keyAllowed := allowed }

/-- A directive, or the mark of a document's start or end: all blocks end before it. -/
def atDocumentLevel (s : TokenState) : Except Fault TokenState := do
  let s ← (s.unwind (-1)).dropKeyStart
  return s.allowKey false

/-- An opening bracket. -/
def openFlow (s : TokenState) (t : Token) : Except Fault TokenState := do
  let s ← s.saveKeyStart
  return ({ s with flowLevel := s.flowLevel + 1 }.allowKey true).take t 1

/-- A closing bracket; one without an opening bracket is a fault. -/
def closeFlow (s : TokenState) (t : Token) : Except Fault TokenState := do
  require (s.flowLevel ≠ 0)
  let s ← s.dropKeyStart
  return ({ s with flowLevel := s.flowLevel - 1 }.allowKey false).take t 1

/-- A comma between brackets. -/
def flowEntry (s : TokenState) : Except Fault TokenState := do
  let s ← (s.allowKey true).dropKeyStart
  return s.take .flowEntry 1

/-- Start a block of some kind here, if no block of this column is open. Outside brackets this must
be a place where a key may start. -/
def startBlock (s : TokenState) (t : Token) : Except Fault TokenState := do
  if s.flowLevel = 0 then
    require s.keyAllowed
    let (s, started) := s.addIndent s.cursor.column
    return if started then s.push t else s
  else return s

/-- The dash of a sequence item. -/
def blockEntry (s : TokenState) : Except Fault TokenState := do
  let s ← s.startBlock .blockSequenceStart
  let s ← (s.allowKey true).dropKeyStart
  return s.take .blockEntry 1

/-- The question mark of a key. -/
def keyIndicator (s : TokenState) : Except Fault TokenState := do
  let s ← s.startBlock .blockMappingStart
  let s ← (s.allowKey (s.flowLevel = 0)).dropKeyStart
  return s.take .key 1

/-- The colon of a value. If a key may have started between the present brackets, it did, and its
tokens are put where it started. -/
def valueIndicator (s : TokenState) : Except Fault TokenState :=
  match s.keyStart? with
  | some k =>
    let s := s.withoutKeyStart
    let s := { s with tokens := s.tokens.insertIdxIfInBounds k.token .key }
    let (s, started) := if s.flowLevel = 0 then s.addIndent k.column else (s, false)
    let s := if started then
        { s with tokens := s.tokens.insertIdxIfInBounds k.token .blockMappingStart }
      else s
    .ok ((s.allowKey false).take .value 1)
  | none => do
    let s ← s.startBlock .blockMappingStart
    let s ← (s.allowKey (s.flowLevel = 0)).dropKeyStart
    return s.take .value 1

/-- A token that may be the start of a key. -/
def keyable (s : TokenState) (read : Cursor → Except Fault (Token × Cursor)) :
    Except Fault TokenState := do
  let s ← s.saveKeyStart
  let (t, c) ← read s.cursor
  return { (s.push t).allowKey false with cursor := c }

/-- A block scalar. -/
def blockScalar (s : TokenState) (folded : Bool) : Except Fault TokenState := do
  let s ← (s.allowKey true).dropKeyStart
  let (t, c) ← readBlock folded s.indent s.cursor.step
  return { s.push t with cursor := c }

/-- A plain scalar. -/
def plainScalar (fuel : Nat) (s : TokenState) : Except Fault TokenState := do
  let s ← s.saveKeyStart
  let c := s.cursor
  let ((text, keyAllowed), c) :=
    readPlain (s.flowLevel ≠ 0) (s.indent + 1) fuel [] [] false c
  return { (s.push (.scalar text true)).allowKey keyAllowed with cursor := c }

/-- A name after an indicator, as a token. -/
def named (make : List Char → Token) (c : Cursor) : Except Fault (Token × Cursor) := do
  let (name, c) ← readAnchorName c.step
  return (make name, c)

/-- Whether a plain scalar may start here. -/
def startsPlain (s : TokenState) (ch : Char) : Bool :=
  let c := s.cursor
  (!Cursor.isGap (some ch) && !"-?:,[]\x7b\x7d#&*!|>'\"%@\x60".toList.contains ch)
    || (!Cursor.isGap (c.peek 1) && (ch == '-' || (s.flowLevel = 0 && (ch == '?' || ch == ':'))))

/-- The next token, which starts with a character. -/
def nextToken (fuel : Nat) (s : TokenState) (ch : Char) : Except Fault TokenState :=
  let c := s.cursor
  let inFlow := s.flowLevel ≠ 0
  let spaced := Cursor.isGap (c.peek 1)
  if ch = '%' ∧ c.column = 0 then do
    let s ← s.atDocumentLevel
    let (t, c) ← readDirective c
    return { s.push t with cursor := c }
  else if c.column = 0 ∧ c.hasMarker '-' then do
    return (← s.atDocumentLevel).take .documentStart 3
  else if c.column = 0 ∧ c.hasMarker '.' then do
    return (← s.atDocumentLevel).take .documentEnd 3
  else if ch = '[' then s.openFlow .flowSequenceStart
  else if ch = '\x7b' then s.openFlow .flowMappingStart
  else if ch = ']' then s.closeFlow .flowSequenceEnd
  else if ch = '\x7d' then s.closeFlow .flowMappingEnd
  else if ch = ',' then s.flowEntry
  else if ch = '-' ∧ spaced then s.blockEntry
  else if ch = '?' ∧ (inFlow ∨ spaced) then s.keyIndicator
  else if ch = ':' ∧ (inFlow ∨ spaced) then s.valueIndicator
  else if ch = '*' then s.keyable (named .alias)
  else if ch = '&' then s.keyable (named .anchor)
  else if ch = '!' then s.keyable readTag
  else if ch = '|' ∧ ¬ inFlow then s.blockScalar false
  else if ch = '>' ∧ ¬ inFlow then s.blockScalar true
  else if ch = '\'' then s.keyable fun c => readQuoted false fuel [] c.step
  else if ch = '"' then s.keyable fun c => readQuoted true fuel [] c.step
  else if s.startsPlain ch then plainScalar fuel s
  else .error .malformed

/-- The tokens up to the first place where a key may have started. -/
def settled (s : TokenState) : List Token :=
  match (s.keyStarts.map fun k => k.2.token).min? with
  | some n => s.tokens.toList.take n
  | none => s.tokens.toList

/-- Break off if the text cannot be read any further here. -/
def checkEnding (s : TokenState) : Except Fault Unit :=
  match s.cursor.endingHere? with
  | some fault => .error fault
  | none => .ok ()

/-- Go on by one token; the flag says whether there was one. -/
def advance (fuel : Nat) (s : TokenState) : Except Fault (TokenState × Bool) := do
  let s := skipToToken fuel s
  s.checkEnding
  let s ← s.dropStale
  let s := s.unwind s.cursor.column
  match s.cursor.next with
  | none => return (← (s.unwind (-1)).dropKeyStart, false)
  | some ch =>
    let s ← nextToken fuel s ch
    s.checkEnding
    return (← s.dropStale, true)

/-- All tokens from a state on. Each token takes at least one character, so as many steps as there
are characters, and one more, are enough for all loops. -/
def run : Nat → TokenState → TokenList
  | 0, s => ⟨s.settled, some .malformed⟩
  | fuel + 1, s =>
    match s.advance fuel with
    | .error fault => ⟨s.settled, some fault⟩
    | .ok (s, true) => run fuel s
    | .ok (s, false) => ⟨s.tokens.toList, none⟩

end TokenState

/-- The tokens of a text. A byte order mark at its start does not count. -/
def TokenList.ofSource (source : Source) : TokenList :=
  let c := Cursor.start source.chars source.ending
  let c := if c.next = some '\uFEFF' then c.step else c
  (TokenState.start c).run (source.chars.length + 2)

end Enclosure.Yaml
