import Enclosure.Number.Binary64
import Enclosure.Value

/-!
# Reading JSON

JSON text as a value. Numbers without a point and an exponent are integers, whose digits are limited
in number, the others floating-point numbers; objects keep the order of their keys, and of equal
keys the last value stands. The words `NaN`, `Infinity` and `-Infinity` are numbers too. Arrays and
objects are only read as long as they do not lie within each other too often.
-/

set_option autoImplicit false

namespace Enclosure.Json

/-- Why a text has no value. -/
inductive Fault
  /-- It is not JSON, or a number in it has too many digits. -/
  | malformed
  /-- More arrays and objects lie within each other in it than can be read. -/
  | tooDeep
deriving DecidableEq

/-- Whether a character is blank between the parts of a JSON text. -/
def isSpace (c : Char) : Bool :=
  c == ' ' || c == '\t' || c == '\n' || c == '\r'

/-- The text after the blanks at its start. -/
def skipSpaces (cs : List Char) : List Char :=
  cs.dropWhile isSpace

/-- The value of a hexadecimal digit. -/
def hexValue? (c : Char) : Option Nat :=
  if '0' ≤ c ∧ c ≤ '9' then some (c.toNat - '0'.toNat)
  else if 'a' ≤ c ∧ c ≤ 'f' then some (c.toNat - 'a'.toNat + 10)
  else if 'A' ≤ c ∧ c ≤ 'F' then some (c.toNat - 'A'.toNat + 10)
  else none

/-- The number of four hexadecimal digits and the text after them. -/
def hexUnit? : List Char → Option (Nat × List Char)
  | a :: b :: c :: d :: rest => do
    let a ← hexValue? a
    let b ← hexValue? b
    let c ← hexValue? c
    let d ← hexValue? d
    return (((a * 16 + b) * 16 + c) * 16 + d, rest)
  | _ => none

/-- The character of a code that an escape names; half a surrogate pair has none of its own and
becomes U+FFFD. -/
def scalar (n : Nat) : Char :=
  if 0xD800 ≤ n ∧ n ≤ 0xDFFF then '\uFFFD' else Char.ofNat n

/-- The character that an escape of one or two UTF-16 units names, and the text after it. -/
def unicodeEscape? (cs : List Char) : Option (Char × List Char) := do
  let (high, rest) ← hexUnit? cs
  if 0xD800 ≤ high ∧ high ≤ 0xDBFF then
    match rest with
    | '\\' :: 'u' :: more =>
      match hexUnit? more with
      | some (low, after) =>
        if 0xDC00 ≤ low ∧ low ≤ 0xDFFF then
          return (Char.ofNat (0x10000 + (high - 0xD800) * 0x400 + (low - 0xDC00)), after)
        else return (scalar high, rest)
      | none => return (scalar high, rest)
    | _ => return (scalar high, rest)
  else return (scalar high, rest)

/-- The character that a one-letter escape names. -/
def shortEscape? (c : Char) : Option Char :=
  match c with
  | '"' => some '"'
  | '\\' => some '\\'
  | '/' => some '/'
  | 'b' => some '\x08'
  | 'f' => some '\x0c'
  | 'n' => some '\n'
  | 'r' => some '\r'
  | 't' => some '\t'
  | _ => none

/-- The rest of a string whose opening quote has been read. -/
def string? : Nat → List Char → List Char → Option (String × List Char)
  | 0, _, _ => none
  | _, _, [] => none
  | fuel + 1, seen, c :: rest =>
    if c = '"' then some (String.ofList seen.reverse, rest)
    else if c = '\\' then
      match rest with
      | 'u' :: more =>
        match unicodeEscape? more with
        | some (d, after) => string? fuel (d :: seen) after
        | none => none
      | e :: more =>
        match shortEscape? e with
        | some d => string? fuel (d :: seen) more
        | none => none
      | [] => none
    else if c.toNat < 0x20 then none
    else string? fuel (c :: seen) rest

/-- The digits at the start of a text and the text after them. -/
def spanDigits (cs : List Char) : List Char × List Char :=
  (cs.takeWhile Decimal.isDigit, cs.dropWhile Decimal.isDigit)

/-- The digits after a point, if there is a point with a digit after it. -/
def fraction (cs : List Char) : Option (List Char) × List Char :=
  match cs with
  | '.' :: rest =>
    let (ds, after) := spanDigits rest
    if ds.isEmpty then (none, cs) else (some ds, after)
  | _ => (none, cs)

/-- An exponent, if there is one with a digit. -/
def exponent (cs : List Char) : Option Int × List Char :=
  match cs with
  | e :: rest =>
    if e = 'e' ∨ e = 'E' then
      let (negative, body) := match rest with
        | '-' :: more => (true, more)
        | '+' :: more => (false, more)
        | _ => (false, rest)
      let (ds, after) := spanDigits body
      if ds.isEmpty then (none, cs)
      else
        let n : Int := Decimal.ofDigits ds
        (some (if negative then -n else n), after)
    else (none, cs)
  | [] => (none, cs)

/-- A number without its sign, and the text after it. -/
def number? (negative : Bool) (cs : List Char) : Option (Value × List Char) :=
  let (whole, rest) := spanDigits cs
  let (whole, rest) := match whole with
    | '0' :: more => (['0'], more ++ rest)
    | _ => (whole, rest)
  if whole.isEmpty then none
  else
    let (frac, rest) := fraction rest
    let (exp, rest) := exponent rest
    match frac, exp with
    | none, none =>
      if Decimal.limit < whole.length then none
      else
        let n : Int := Decimal.ofDigits whole
        some (.int (if negative then -n else n), rest)
    | _, _ =>
      let ds := frac.getD []
      some (.float (Binary64.ofDecimal negative (Decimal.ofDigits (whole ++ ds))
        (exp.getD 0 - ds.length)), rest)

/-- The text after a word at its start. -/
def afterWord? (word : String) (cs : List Char) : Option (List Char) :=
  if word.toList.isPrefixOf cs then some (cs.drop word.length) else none

/-- What was found, or a fault in the form of the text. -/
def wellFormed {α : Type} : Option α → Except Fault α
  | some a => .ok a
  | none => .error .malformed

mutual

/-- The value at the start of a text and the text after it, where as many arrays and objects as
there are levels can lie within each other. -/
def value : Nat → Nat → List Char → Except Fault (Value × List Char)
  | 0, _, _ => .error .malformed
  | fuel + 1, levels, cs =>
    match cs, levels with
    | '"' :: rest, _ =>
      wellFormed ((string? fuel [] rest).map fun (s, after) => (.str s, after))
    | '[' :: _, 0 => .error .tooDeep
    | '[' :: rest, levels + 1 =>
      match skipSpaces rest with
      | ']' :: after => .ok (.list [], after)
      | more => items fuel levels [] more
    | '\x7b' :: _, 0 => .error .tooDeep
    | '\x7b' :: rest, levels + 1 =>
      match skipSpaces rest with
      | '\x7d' :: after => .ok (.map [], after)
      | more => entries fuel levels [] more
    | '-' :: rest, _ =>
      match afterWord? "Infinity" rest with
      | some after => .ok (.float (.infinite true), after)
      | none => wellFormed (number? true rest)
    | _, _ =>
      match afterWord? "null" cs, afterWord? "true" cs, afterWord? "false" cs with
      | some after, _, _ => .ok (.null, after)
      | _, some after, _ => .ok (.bool true, after)
      | _, _, some after => .ok (.bool false, after)
      | none, none, none =>
        match afterWord? "NaN" cs, afterWord? "Infinity" cs with
        | some after, _ => .ok (.float .nan, after)
        | _, some after => .ok (.float (.infinite false), after)
        | none, none => wellFormed (number? false cs)

/-- The items of a list from the first one on. -/
def items : Nat → Nat → List Value → List Char → Except Fault (Value × List Char)
  | 0, _, _, _ => .error .malformed
  | fuel + 1, levels, seen, cs => do
    let (v, rest) ← value fuel levels (skipSpaces cs)
    match skipSpaces rest with
    | ',' :: more => items fuel levels (v :: seen) more
    | ']' :: after => return (.list (v :: seen).reverse, after)
    | _ => throw .malformed

/-- The entries of an object from the first one on. -/
def entries : Nat → Nat → Entries → List Char → Except Fault (Value × List Char)
  | 0, _, _, _ => .error .malformed
  | fuel + 1, levels, seen, cs =>
    match skipSpaces cs with
    | '"' :: rest => do
      let (key, rest) ← wellFormed (string? fuel [] rest)
      match skipSpaces rest with
      | ':' :: rest =>
        let (v, rest) ← value fuel levels (skipSpaces rest)
        let seen := Entries.insert (.str key) v seen
        match skipSpaces rest with
        | ',' :: more => entries fuel levels seen more
        | '\x7d' :: after => return (.map seen, after)
        | _ => throw .malformed
      | _ => throw .malformed
    | _ => .error .malformed

end

/-- The value of a JSON text, if it is one. -/
def read (levels : Nat) (text : String) : Except Fault Value := do
  let cs := text.toList
  let (v, rest) ← value (2 * cs.length + 2) levels (skipSpaces cs)
  if (skipSpaces rest).isEmpty then return v else throw .malformed

end Enclosure.Json
