import Enclosure.Yaml.Cursor
import Enclosure.Yaml.Fault

/-!
# YAML tokens

The tokens of a YAML text. Block structure, which the text shows by indentation, appears as tokens
that start and end sequences and mappings.
-/

set_option autoImplicit false

namespace Enclosure.Yaml

/-- A directive in front of a document. -/
inductive Directive
  /-- The version of YAML. -/
  | version (major minor : Nat)
  /-- An abbreviation for tags. -/
  | tagHandle (handle start : List Char)
  /-- Any other directive; it has no effect. -/
  | other
deriving DecidableEq

/-- A token. -/
inductive Token
  | directive (d : Directive)
  | documentStart
  | documentEnd
  | blockSequenceStart
  | blockMappingStart
  | blockEnd
  | flowSequenceStart
  | flowSequenceEnd
  | flowMappingStart
  | flowMappingEnd
  | blockEntry
  | flowEntry
  | key
  | value
  | alias (name : List Char)
  | anchor (name : List Char)
  /-- A tag: a handle, if it is written with one, and what follows it. -/
  | tag (handle : Option (List Char)) (suffix : List Char)
  /-- A scalar, and whether it is written without quotes or a block indicator. -/
  | scalar (text : List Char) (plain : Bool)
deriving DecidableEq

/-- Tokens in order, and the fault that comes after them, if one does. -/
structure TokenList where
  tokens : List Token
  ending : Option Fault

namespace TokenList

/-- The next token, if there is one. -/
def peek (ts : TokenList) : Except Fault (Option Token) :=
  match ts.tokens, ts.ending with
  | t :: _, _ => .ok (some t)
  | [], some fault => .error fault
  | [], none => .ok none

/-- Go past a token. -/
def rest (ts : TokenList) : TokenList :=
  { ts with tokens := ts.tokens.tail }

end TokenList

/-- Whether a character may occur in the name of an anchor, a directive or a tag handle. -/
def isWordChar (c : Char) : Bool :=
  c.isAlphanum || c == '-' || c == '_'

/-- Go past blanks and a comment to the end of the line and past that. Anything else on the line is
a fault. -/
def endLine (c : Cursor) : Except Fault Cursor :=
  let c := c.skipWhile (· = ' ')
  let c := if c.next = some '#' then c.skipWhile fun ch => !Cursor.isBreak ch else c
  match c.next, c.lineBreak? with
  | none, _ => .ok c
  | some _, some (_, after) => .ok after
  | some _, none => .error .malformed

end Enclosure.Yaml
