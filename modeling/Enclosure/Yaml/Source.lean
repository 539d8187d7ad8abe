import Enclosure.Text.Utf8
import Enclosure.Yaml.Cursor

/-!
# The text of a YAML file

A file is UTF-8, all line ends in it count as line feeds, and control characters must not occur. It
is read in pieces, so a fault in its bytes or characters only shows when the piece with the fault is
reached, and what comes before that piece can be read.
-/

set_option autoImplicit false

namespace Enclosure.Yaml

/-- A text as far as it can be read, and the fault that comes after it, if one does. -/
structure Source where
  chars : List Char
  ending : Option Fault

namespace Source

/-- A text in which every carriage return, with a line feed after it or not, is a line feed. -/
def unifyLineEnds : List Char → List Char
  | [] => []
  | '\r' :: '\n' :: rest => '\n' :: unifyLineEnds rest
  | c :: rest => (if c = '\r' then '\n' else c) :: unifyLineEnds rest

/-- Whether a character may occur in a document. -/
def isAllowed (c : Char) : Bool :=
  let n := c.toNat
  c == '\t' || c == '\n' || c == '\x85' || (0x20 ≤ n && n ≤ 0x7E) || (0xA0 ≤ n && n ≤ 0xFFFD)
    || 0x10000 ≤ n

/-- The number of characters of a piece; the first piece is twice as long. -/
def pieceLength : Nat := 4096

/-- The number of bytes that are decoded at once. -/
def blockLength : Nat := 8192

/-- The number of characters in front of the piece that a character with some number is in. -/
def beforePiece (n : Nat) : Nat :=
  if n < 2 * pieceLength then 0 else n / pieceLength * pieceLength

/-- The characters at the start of a text that end within a number of bytes. -/
def within : Nat → List Char → List Char
  | _, [] => []
  | n, c :: rest => if c.utf8Size ≤ n then c :: within (n - c.utf8Size) rest else []

/-- The number of bytes at the start of an ill-formed text, after well-formed bytes, that are looked
at before it shows that they are ill-formed, less one; none if the text ends before it shows. -/
def faultOffset? : List UInt8 → Option Nat
  | [] => none
  | b :: rest =>
    if (Utf8.lead? b.toNat).isNone then some 0
    else
      let after := (Utf8.unit b rest).2
      if after.isEmpty then none else some (rest.length + 1 - after.length)

/-- The characters of ill-formed bytes that are decoded before the fault shows: those of the blocks
in front of the one with the fault. -/
def decodedBefore (bytes : List UInt8) (good : List Char) : List Char :=
  let size := Utf8.byteCount good
  match faultOffset? (bytes.drop size) with
  | some offset => within ((size + offset) / blockLength * blockLength) good
  | none => good

/-- The start of a text that can be read, cut where its characters or its bytes show a fault. Of the
two faults the one that shows first counts, and that of the bytes if both do at once. -/
def cut (cs : List Char) (bytesFault : Option Nat) : Source :=
  match (cs.findIdx? fun c => !isAllowed c).map beforePiece, bytesFault with
  | none, none => ⟨cs, none⟩
  | some n, none => ⟨cs.take n, some .malformed⟩
  | none, some m => ⟨cs.take m, some .notText⟩
  | some n, some m => if n < m then ⟨cs.take n, some .malformed⟩ else ⟨cs.take m, some .notText⟩

/-- The text that bytes hold. -/
def ofBytes (bytes : List UInt8) : Source :=
  match Utf8.decodeStrict? bytes with
  | some cs => cut (unifyLineEnds cs) none
  | none =>
    let good := ((Utf8.units bytes).takeWhile Option.isSome).filterMap id
    let decoded := unifyLineEnds (decodedBefore bytes good)
    cut decoded (some (beforePiece decoded.length))

end Source

end Enclosure.Yaml
