/-!
# Bytes as base 64

Bytes written with 64 characters, four for three bytes. Other characters do not count. Equals signs
fill up the last group of four; what comes after that does not count either, and a group without
them is incomplete.
-/

set_option autoImplicit false

namespace Enclosure.Base64

/-- The value of a character. -/
def value? (c : Char) : Option Nat :=
  if 'A' ≤ c ∧ c ≤ 'Z' then some (c.toNat - 'A'.toNat)
  else if 'a' ≤ c ∧ c ≤ 'z' then some (c.toNat - 'a'.toNat + 26)
  else if '0' ≤ c ∧ c ≤ '9' then some (c.toNat - '0'.toNat + 52)
  else if c = '+' then some 62
  else if c = '/' then some 63
  else none

/-- The bytes that the values of one group give; one byte less than there are values. -/
def groupBytes : List Nat → List UInt8
  | [a, b] => [UInt8.ofNat (4 * a + b / 16)]
  | [a, b, c] => [UInt8.ofNat (4 * a + b / 16), UInt8.ofNat (16 * b + c / 4)]
  | [a, b, c, d] =>
    [UInt8.ofNat (4 * a + b / 16), UInt8.ofNat (16 * b + c / 4), UInt8.ofNat (64 * c + d)]
  | _ => []

/-- Read on with the values of an unfinished group and the number of equals signs after it. -/
def decodeFrom? (group : List Nat) (fills : Nat) : List Char → Option (List UInt8)
  | [] => if group.isEmpty then some [] else none
  | c :: rest =>
    if c = '=' then
      if 2 ≤ group.length then
        if 4 ≤ group.length + fills + 1 then some (groupBytes group)
        else decodeFrom? group (fills + 1) rest
      else decodeFrom? group fills rest
    else
      match value? c with
      | none => decodeFrom? group fills rest
      | some v =>
        let group := group ++ [v]
        if group.length = 4 then (decodeFrom? [] 0 rest).map (groupBytes group ++ ·)
        else decodeFrom? group 0 rest

/-- The bytes that a text stands for, unless its last group is incomplete. -/
def decode? (cs : List Char) : Option (List UInt8) :=
  decodeFrom? [] 0 cs

end Enclosure.Base64
