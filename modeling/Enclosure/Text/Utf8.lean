/-!
# UTF-8

Characters are written as one to four bytes. Reading back goes unit by unit: a unit is either the
bytes of one character or a maximal ill-formed piece, that is, the longest beginning of a
character's bytes that the next byte does not continue, and at least one byte. What becomes of an
ill-formed piece is the reader's choice: it vanishes, it becomes U+FFFD, or the whole reading fails.
-/

set_option autoImplicit false

namespace Enclosure.Utf8

/-- The bytes of one character. -/
def encodeChar (c : Char) : List UInt8 :=
  let n := c.toNat
  if n < 0x80 then [UInt8.ofNat n]
  else if n < 0x800 then [UInt8.ofNat (0xC0 + n / 0x40), UInt8.ofNat (0x80 + n % 0x40)]
  else if n < 0x10000 then
    [UInt8.ofNat (0xE0 + n / 0x1000), UInt8.ofNat (0x80 + n / 0x40 % 0x40),
      UInt8.ofNat (0x80 + n % 0x40)]
  else
    [UInt8.ofNat (0xF0 + n / 0x40000), UInt8.ofNat (0x80 + n / 0x1000 % 0x40),
      UInt8.ofNat (0x80 + n / 0x40 % 0x40), UInt8.ofNat (0x80 + n % 0x40)]

/-- The bytes of a list of characters. -/
def encodeChars (cs : List Char) : List UInt8 :=
  cs.flatMap encodeChar

/-- The number of bytes of a list of characters. -/
def byteCount (cs : List Char) : Nat :=
  (encodeChars cs).length

/-- The bytes of a text. -/
def encode (text : String) : List UInt8 :=
  encodeChars text.toList

/-- The range of a byte that may come at one place inside a character. -/
structure ByteRange where
  low : Nat
  high : Nat

/-- Any continuation byte. -/
def ByteRange.tail : ByteRange :=
  ⟨0x80, 0xBF⟩

/-- The payload of a leading byte and the bytes that must follow it; none for a byte that no
character starts with. The narrower second bytes leave out overlong forms, surrogates and code
points past U+10FFFF. -/
def lead? (b : Nat) : Option (Nat × List ByteRange) :=
  if b < 0x80 then some (b, [])
  else if b < 0xC2 then none
  else if b < 0xE0 then some (b - 0xC0, [.tail])
  else if b = 0xE0 then some (0, [⟨0xA0, 0xBF⟩, .tail])
  else if b = 0xED then some (0xD, [⟨0x80, 0x9F⟩, .tail])
  else if b < 0xF0 then some (b - 0xE0, [.tail, .tail])
  else if b = 0xF0 then some (0, [⟨0x90, 0xBF⟩, .tail, .tail])
  else if b < 0xF4 then some (b - 0xF0, [.tail, .tail, .tail])
  else if b = 0xF4 then some (4, [⟨0x80, 0x8F⟩, .tail, .tail])
  else none

/-- Read the bytes that must follow a leading byte: the code point and the bytes after it, or
nothing and the bytes from the first one that does not fit. -/
def follow : Nat → List ByteRange → List UInt8 → Option Nat × List UInt8
  | code, [], rest => (some code, rest)
  | _, _ :: _, [] => (none, [])
  | code, range :: more, b :: rest =>
    if range.low ≤ b.toNat ∧ b.toNat ≤ range.high then
      follow (code * 0x40 + (b.toNat - 0x80)) more rest
    else (none, b :: rest)

/-- Reading the following bytes never gives bytes back. -/
theorem length_follow_le (code : Nat) (ranges : List ByteRange) (bytes : List UInt8) :
    (follow code ranges bytes).2.length ≤ bytes.length := by
  induction ranges generalizing code bytes with
  | nil => simp [follow]
  | cons range more ih =>
    cases bytes with
    | nil => simp [follow]
    | cons b rest =>
      rw [follow]
      split
      · exact Nat.le_trans (ih _ _) (Nat.le_succ _)
      · simp

/-- The unit that starts with a byte, a character or none for an ill-formed piece, and the bytes
after it. -/
def unit (b : UInt8) (rest : List UInt8) : Option Char × List UInt8 :=
  match lead? b.toNat with
  | none => (none, rest)
  | some (payload, ranges) =>
    let (code, after) := follow payload ranges rest
    (code.map Char.ofNat, after)

/-- A unit takes at least its first byte. -/
theorem length_unit_le (b : UInt8) (rest : List UInt8) : (unit b rest).2.length ≤ rest.length := by
  unfold unit
  split
  · exact Nat.le_refl _
  · exact length_follow_le _ _ _

/-- The units of a list of bytes, in front of units already read in reverse. -/
def unitsOnto (seen : List (Option Char)) : List UInt8 → List (Option Char)
  | [] => seen
  | b :: rest => unitsOnto ((unit b rest).1 :: seen) (unit b rest).2
termination_by bytes => bytes.length
decreasing_by
  have := length_unit_le b rest
  simp only [List.length_cons]
  omega

/-- The units of a list of bytes. -/
def units (bytes : List UInt8) : List (Option Char) :=
  (unitsOnto [] bytes).reverse

/-- Read bytes so that ill-formed pieces vanish. -/
def decodeLenient (bytes : List UInt8) : List Char :=
  (units bytes).filterMap id

/-- Read bytes so that each ill-formed piece becomes U+FFFD. -/
def decodeReplacing (bytes : List UInt8) : List Char :=
  (units bytes).map fun u => u.getD '\uFFFD'

/-- Read bytes that must be well formed. -/
def decodeStrict? (bytes : List UInt8) : Option (List Char) :=
  let us := units bytes
  if us.all Option.isSome then some (us.filterMap id) else none

/-- Units already read stay where they are. -/
theorem unitsOnto_eq (seen : List (Option Char)) (bytes : List UInt8) :
    unitsOnto seen bytes = unitsOnto [] bytes ++ seen := by
  induction h : bytes.length using Nat.strongRecOn generalizing bytes seen with
  | _ n ih =>
    cases bytes with
    | nil => simp [unitsOnto]
    | cons b rest =>
      have hlt : (unit b rest).2.length < n := by
        have := length_unit_le b rest
        simp only [List.length_cons] at h
        omega
      rw [unitsOnto, ih _ hlt ((unit b rest).1 :: seen) _ rfl]
      conv => rhs; rw [unitsOnto, ih _ hlt [(unit b rest).1] _ rfl]
      simp

/-- There are no units in no bytes. -/
@[simp] theorem units_nil : units [] = [] := by
  simp [units, unitsOnto]

/-- The units of a nonempty list of bytes are its first unit and the units of what comes after. -/
theorem units_cons (b : UInt8) (rest : List UInt8) :
    units (b :: rest) = (unit b rest).1 :: units (unit b rest).2 := by
  rw [units, unitsOnto, unitsOnto_eq]
  simp [units]

end Enclosure.Utf8
