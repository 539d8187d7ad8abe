import Enclosure.Yaml.Scalar.Plain
import Enclosure.Yaml.Token.Basic

/-!
# The nodes of a token list

A document has one node, and a text has at most one document. A node may be given a name by an
anchor, and an alias stands for the node of that name, also inside of it; names are unique. Where a
node may be left out, null stands for it. The fault after a token list counts only when the tokens
in front of it do not show another one.
-/

set_option autoImplicit false

namespace Enclosure.Yaml

/-- The abbreviations for tags that a document may use. -/
abbrev TagHandles :=
  List (List Char × List Char)

namespace TagHandles

/-- The abbreviations that every document has. -/
def standard : TagHandles := [(['!'], ['!']), (['!', '!'], Tag.space)]

/-- What an abbreviation stands for. -/
def find? (handles : TagHandles) (handle : List Char) : Option (List Char) :=
  (List.find? (fun h => h.1 = handle) handles).map Prod.snd

/-- A tag without its abbreviation. -/
def expand (handles : TagHandles) (handle : Option (List Char)) (suffix : List Char) :
    Except Fault (List Char) :=
  match handle with
  | none => .ok suffix
  | some h =>
    match handles.find? h with
    | some start => .ok (start ++ suffix)
    | none => .error .malformed

end TagHandles

/-- The directives of a document that have been read: whether the version was given, and the
abbreviations. -/
structure Directives where
  versioned : Bool
  handles : TagHandles

namespace Directives

/-- One directive more. Each abbreviation may be given once, and so may the version, whose first
number must be one. -/
def add (ds : Directives) : Directive → Except Fault Directives
  | .version major _ =>
    if ds.versioned ∨ major ≠ 1 then .error .malformed else .ok { ds with versioned := true }
  | .tagHandle handle start =>
    if (ds.handles.find? handle).isSome then .error .malformed
    else .ok { ds with handles := (handle, start) :: ds.handles }
  | .other => .ok ds

/-- The directives at the start of a token list, and the tokens after them. -/
def read (ending : Option Fault) : Directives → List Token → Except Fault (Directives × TokenList)
  | ds, [] =>
    match ending with
    | some fault => .error fault
    | none => .ok (ds, ⟨[], none⟩)
  | ds, t :: rest =>
    match t with
    | .directive d => do
      let ds ← ds.add d
      read ending ds rest
    | t => .ok (ds, ⟨t :: rest, ending⟩)

end Directives

/-- What may stand in front of a node. -/
structure Properties where
  anchor : Option (List Char)
  tag : Option (List Char)

namespace Properties

/-- The properties at the start of a token list, in either order, and the tokens after them. -/
def read (handles : TagHandles) (ts : TokenList) : Except Fault (Properties × TokenList) := do
  match ← ts.peek with
  | some (.anchor a) =>
    match ← ts.rest.peek with
    | some (.tag h s) => return (⟨some a, some (← handles.expand h s)⟩, ts.rest.rest)
    | _ => return (⟨some a, none⟩, ts.rest)
  | some (.tag h s) =>
    match ← ts.rest.peek with
    | some (.anchor a) => return (⟨some a, some (← handles.expand h s)⟩, ts.rest.rest)
    | _ => return (⟨none, some (← handles.expand h s)⟩, ts.rest)
  | _ => return (⟨none, none⟩, ts)

/-- Whether the content of the node decides its type: without a tag, or with the tag that says
so. -/
def isOpen (p : Properties) : Bool :=
  p.tag.isNone || p.tag == some ['!']

/-- The type of a collection. -/
def collectionTag (p : Properties) (usual : Tag) : Tag :=
  if p.isOpen then usual else ((p.tag.map Tag.ofText).getD usual)

/-- The type of a scalar. -/
def scalarTag (p : Properties) (plain : Bool) (text : List Char) : Tag :=
  match p.tag with
  | none => if plain then Plain.tag text else .str
  | some ['!'] => Plain.tag text
  | some tag => .ofText tag

end Properties

/-- The tokens that are left, the nodes so far, and the names that some of them have; and how many
frames are left. -/
structure NodeState where
  frames : Nat
  tokens : TokenList
  graph : Graph
  anchors : List (List Char × Nat)

namespace NodeState

/-- The next token, if there is one. -/
def peek (s : NodeState) : Except Fault (Option Token) :=
  s.tokens.peek

/-- Go past a token. -/
def drop (s : NodeState) : NodeState :=
  { s with tokens := s.tokens.rest }

/-- The node that a name stands for. -/
def find? (s : NodeState) (name : List Char) : Option Nat :=
  (s.anchors.find? fun a => a.1 = name).map Prod.snd

/-- Add a node, with a name if it has one: its number, and the state after it. -/
def add (s : NodeState) (name : Option (List Char)) (node : Node) : Nat × NodeState :=
  let n := s.graph.size
  let anchors := (name.map fun a => (a, n)).toList ++ s.anchors
  (n, { s with graph := s.graph.push node, anchors := anchors })

/-- Add the node that stands where nothing is written. -/
def addAbsent (s : NodeState) : Nat × NodeState :=
  s.add none .absent

/-- Go into a collection. -/
def enter (s : NodeState) : Except Fault NodeState := do
  return { s with frames := ← descend 2 s.frames }

/-- Come out of a collection. -/
def leave (s : NodeState) : NodeState :=
  { s with frames := s.frames + 2 }

/-- Give a collection its content, and come out of it. -/
def complete (s : NodeState) (n : Nat) (content : Content) : Nat × NodeState :=
  (n, { s.leave with graph := s.graph.setContent n content })

/-- Go past a token that must come next. -/
def expect (s : NodeState) (t : Token) : Except Fault NodeState := do
  require ((← s.peek) = some t)
  return s.drop

/-- Whether one of a number of tokens comes next. -/
def isAtOneOf (s : NodeState) (ts : List Token) : Except Fault Bool := do
  return (← s.peek).any ts.contains

/-- Go past a token if it comes next, and say whether it did. -/
def skip (s : NodeState) (t : Token) : Except Fault (Bool × NodeState) := do
  return if (← s.peek) = some t then (true, s.drop) else (false, s)

end NodeState

/-- Where a node stands, which decides how it may be written. -/
inductive NodePlace
  /-- Between brackets. -/
  | inFlow
  /-- In a block. -/
  | inBlock
  /-- In a block mapping, where the items of a sequence need no indentation. -/
  | inBlockMapping
deriving DecidableEq

/-- A node that is left out but for its properties; without any nothing can be left out. -/
def readEmpty (p : Properties) (s : NodeState) : Except Fault (Nat × NodeState) :=
  if p.anchor.isNone && p.tag.isNone then .error .malformed
  else .ok (s.add p.anchor ⟨p.scalarTag true [], .scalar []⟩)

/-- A sequence of which no items have been read yet. -/
def NodeState.addSequence (s : NodeState) (p : Properties) : Nat × NodeState :=
  s.add p.anchor ⟨p.collectionTag .seq, .sequence []⟩

/-- A mapping of which no entries have been read yet. -/
def NodeState.addMapping (s : NodeState) (p : Properties) : Nat × NodeState :=
  s.add p.anchor ⟨p.collectionTag .map, .mapping []⟩

section

variable (handles : TagHandles)

mutual

/-- A node. -/
def readNode (place : NodePlace) : Nat → NodeState → Except Fault (Nat × NodeState)
  | 0, _ => .error .malformed
  | fuel + 1, s => do
    match ← s.peek with
    | some (.alias name) =>
      match s.find? name with
      | some n => return (n, s.drop)
      | none => throw .malformed
    | _ =>
      let (p, rest) ← Properties.read handles s.tokens
      let s := { s with tokens := rest }
      let next ← s.peek
      require (!(p.anchor.bind s.find?).isSome)
      readContent place p next fuel s

/-- The content of a node after its properties, given the next token. -/
def readContent (place : NodePlace) (p : Properties) (next : Option Token) :
    Nat → NodeState → Except Fault (Nat × NodeState)
  | 0, _ => .error .malformed
  | fuel + 1, s =>
    match next with
    | some (.scalar text plain) =>
      .ok (s.drop.add p.anchor ⟨p.scalarTag plain text, .scalar text⟩)
    | some .flowSequenceStart => do
      let (n, s) := (← s.drop.enter).addSequence p
      let (items, s) ← readFlowItems true [] fuel s
      return s.complete n (.sequence items)
    | some .flowMappingStart => do
      let (n, s) := (← s.drop.enter).addMapping p
      let (entries, s) ← readFlowEntries true [] fuel s
      return s.complete n (.mapping entries)
    | some t =>
      if t = .blockEntry ∧ place = .inBlockMapping then do
        let (n, s) := (← s.enter).addSequence p
        let (items, s) ← readItems [.blockEntry, .key, .value, .blockEnd] [] fuel s
        return s.complete n (.sequence items)
      else if t = .blockSequenceStart ∧ place ≠ .inFlow then do
        let (n, s) := (← s.drop.enter).addSequence p
        let (items, s) ← readItems [.blockEntry, .blockEnd] [] fuel s
        return (← s.expect .blockEnd).complete n (.sequence items)
      else if t = .blockMappingStart ∧ place ≠ .inFlow then do
        let (n, s) := (← s.drop.enter).addMapping p
        let (entries, s) ← readEntries [] fuel s
        return s.complete n (.mapping entries)
      else readEmpty p s
    | none => readEmpty p s

/-- A node that may be left out before some tokens. -/
def readOptional (place : NodePlace) (stops : List Token) :
    Nat → NodeState → Except Fault (Nat × NodeState)
  | 0, _ => .error .malformed
  | fuel + 1, s => do
    if ← s.isAtOneOf stops then return s.addAbsent else readNode place fuel s

/-- The items of a block sequence, which may be left out before some tokens. -/
def readItems (stops : List Token) (seen : List Nat) :
    Nat → NodeState → Except Fault (List Nat × NodeState)
  | 0, _ => .error .malformed
  | fuel + 1, s => do
    match ← s.skip .blockEntry with
    | (true, s) =>
      let (item, s) ← readOptional .inBlock stops fuel s
      readItems stops (item :: seen) fuel s
    | (false, s) => return (seen.reverse, s)

/-- The entries of a block mapping, and its end. -/
def readEntries (seen : List (Nat × Nat)) :
    Nat → NodeState → Except Fault (List (Nat × Nat) × NodeState)
  | 0, _ => .error .malformed
  | fuel + 1, s => do
    match ← s.skip .key with
    | (true, s) =>
      let stops := [.key, .value, .blockEnd]
      let (key, s) ← readOptional .inBlockMapping stops fuel s
      let (value, s) ← readValue .inBlockMapping stops fuel s
      readEntries ((key, value) :: seen) fuel s
    | (false, s) => return (seen.reverse, ← s.expect .blockEnd)

/-- The value of an entry, if there is one. -/
def readValue (place : NodePlace) (stops : List Token) :
    Nat → NodeState → Except Fault (Nat × NodeState)
  | 0, _ => .error .malformed
  | fuel + 1, s => do
    match ← s.skip .value with
    | (true, s) => readOptional place stops fuel s
    | (false, s) => return s.addAbsent

/-- The items of a sequence in brackets, and the closing bracket. An item with a key is a mapping of
one entry. -/
def readFlowItems (first : Bool) (seen : List Nat) :
    Nat → NodeState → Except Fault (List Nat × NodeState)
  | 0, _ => .error .malformed
  | fuel + 1, s => do
    match ← s.skip .flowSequenceEnd with
    | (true, s) => return (seen.reverse, s)
    | (false, s) =>
      let s ← if first then pure s else s.expect .flowEntry
      match ← s.skip .flowSequenceEnd, ← s.skip .key with
      | (true, s), _ => return (seen.reverse, s)
      | (false, _), (true, s) =>
        let stops := [.flowEntry, .flowSequenceEnd]
        let (key, s) ← readOptional .inFlow (.value :: stops) fuel (← s.enter)
        let (value, s) ← readValue .inFlow stops fuel s
        let (item, s) := s.leave.add none ⟨.map, .mapping [(key, value)]⟩
        readFlowItems false (item :: seen) fuel s
      | (false, _), (false, s) =>
        let (item, s) ← readNode .inFlow fuel s
        readFlowItems false (item :: seen) fuel s

/-- The entries of a mapping in braces, and the closing brace. An entry may be a key alone. -/
def readFlowEntries (first : Bool) (seen : List (Nat × Nat)) :
    Nat → NodeState → Except Fault (List (Nat × Nat) × NodeState)
  | 0, _ => .error .malformed
  | fuel + 1, s => do
    match ← s.skip .flowMappingEnd with
    | (true, s) => return (seen.reverse, s)
    | (false, s) =>
      let s ← if first then pure s else s.expect .flowEntry
      match ← s.skip .flowMappingEnd, ← s.skip .key with
      | (true, s), _ => return (seen.reverse, s)
      | (false, _), (true, s) =>
        let stops := [.flowEntry, .flowMappingEnd]
        let (key, s) ← readOptional .inFlow (.value :: stops) fuel s
        let (value, s) ← readValue .inFlow stops fuel s
        readFlowEntries false ((key, value) :: seen) fuel s
      | (false, _), (false, s) =>
        let (key, s) ← readNode .inFlow fuel s
        let (value, s) := s.addAbsent
        readFlowEntries false ((key, value) :: seen) fuel s

end

end

/-- Whether a token, or the end of the text, cannot start the content of a document. -/
def endsDocument : Option Token → Bool
  | some (.directive _) => true
  | some .documentStart => true
  | some .documentEnd => true
  | some _ => false
  | none => true

/-- The number of steps that suffice to read the nodes of a token list. -/
def nodeFuel (ts : TokenList) : Nat :=
  4 * ts.tokens.length + 4

/-- The node of a document without a mark of its start, and what is read with it. -/
def readBareDocument (frames : Nat) (ts : TokenList) : Except Fault (Nat × NodeState) :=
  readNode TagHandles.standard .inBlock (nodeFuel ts) ⟨frames, ts, .empty, []⟩

/-- The node of a document with a mark of its start, and what is read with it. -/
def readMarkedDocument (frames : Nat) (ts : TokenList) : Except Fault (Nat × NodeState) := do
  let (ds, ts) ← Directives.read ts.ending ⟨false, []⟩ ts.tokens
  let s ← NodeState.expect ⟨frames, ts, .empty, []⟩ .documentStart
  if endsDocument (← s.peek) then return s.addAbsent
  else readNode (ds.handles ++ TagHandles.standard) .inBlock (nodeFuel ts) s

/-- Nothing but marks of the document's end may come after a document. The directives of a further
document are looked at before it is refused. -/
def checkNoMore (ending : Option Fault) : List Token → Except Fault Unit
  | [] =>
    match ending with
    | some fault => .error fault
    | none => .ok ()
  | t :: rest =>
    if t = .documentEnd then checkNoMore ending rest
    else do
      let (_, ts) ← Directives.read ending ⟨false, []⟩ (t :: rest)
      let _ ← ts.peek
      throw .malformed

/-- The nodes of a token list and the number of the first one, if there is a document at all. -/
def Graph.ofTokens? (frames : Nat) (ts : TokenList) : Except Fault (Option (Graph × Nat)) := do
  match ← ts.peek with
  | none => return none
  | some first =>
    let marked := first ≠ .documentEnd && endsDocument (some first)
    let (root, s) ← if marked then readMarkedDocument frames ts else readBareDocument frames ts
    checkNoMore s.tokens.ending s.tokens.tokens
    return some (s.graph, root)

end Enclosure.Yaml
