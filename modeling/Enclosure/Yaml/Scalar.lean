import Enclosure.Number.Numeral
import Enclosure.Text.Base64
import Enclosure.Text.LowerCase
import Enclosure.Yaml.Scalar.Plain

/-!
# The values of scalars

A scalar as a value of its type. The type is that of its tag or of its form, so a text under a tag
need not have the form of the type, and then the scalar is at fault.
-/

set_option autoImplicit false

namespace Enclosure.Yaml.Scalar

/-- A text without its underscores. -/
def withoutBars (cs : List Char) : List Char :=
  cs.filter (· ≠ '_')

/-- The truth value of a word in any case. -/
def bool (cs : List Char) : Except ScalarFault Bool :=
  let word := LowerCase.lower (String.ofList cs)
  if word = "yes" ∨ word = "true" ∨ word = "on" then .ok true
  else if word = "no" ∨ word = "false" ∨ word = "off" then .ok false
  else .error (.truthValue word)

/-- An integer in a base. -/
def digits (base : Nat) (cs : List Char) : Except ScalarFault Int :=
  match Digit.integer base (String.ofList cs) with
  | .ok i => .ok i
  | .error .form => .error (.integer base (String.ofList cs))
  | .error (.tooLong count) => .error (.longInteger count)

/-- Parts that count sixtieths, the last one by ones. -/
def sixtieths (parts : List Int) : Int :=
  parts.foldl (fun n part => 60 * n + part) 0

/-- An integer without its sign: in base two, sixteen or eight by its start, or decimal, also in
parts that count sixtieths. -/
def natural (cs : List Char) : Except ScalarFault Int :=
  match cs with
  | [] => .error .noDigits
  | ['0'] => .ok 0
  | '0' :: 'b' :: rest => digits 2 rest
  | '0' :: 'x' :: rest => digits 16 rest
  | '0' :: _ => digits 8 cs
  | _ => if cs.contains ':' then sixtieths <$> (Plain.parts cs).mapM (digits 10) else digits 10 cs

/-- An integer. -/
def int (cs : List Char) : Except ScalarFault Int :=
  let cs := withoutBars cs
  match natural (Plain.unsigned cs) with
  | .ok n => .ok (if cs.head? = some '-' then -n else n)
  | .error e => .error e

/-- A floating-point number in decimal or by a word. -/
def decimal (cs : List Char) : Except ScalarFault Binary64 :=
  match Numeral.read? cs with
  | some x => .ok x
  | none => .error (.float (String.ofList cs))

/-- The sum of floating-point parts from the last one on, each counting sixty times the one
after it, as long as what it counts for is a number itself. -/
def sumSixtieths : Int → Binary64 → List Binary64 → Except ScalarFault Binary64
  | _, sum, [] => .ok sum
  | base, sum, part :: rest =>
    match Binary64.ofInt base with
    | .infinite _ => .error .largeFloat
    | factor => sumSixtieths (60 * base) (sum.add (part.mul factor)) rest

/-- The word for what is not a number. -/
def notNumberWord : List Char :=
  ".nan".toList

/-- A floating-point number without its sign. -/
def magnitude (cs : List Char) : Except ScalarFault Binary64 :=
  if cs = ".inf".toList then .ok (.infinite false)
  else if cs = notNumberWord then .ok .nan
  else if cs.contains ':' then do
    let parts ← (Plain.parts cs).mapM decimal
    sumSixtieths 1 (.zero false) parts.reverse
  else decimal cs

/-- The text of a floating-point number as it is read: without underscores and in lower case. -/
def floatText (cs : List Char) : List Char :=
  (LowerCase.lower (String.ofList (withoutBars cs))).toList

/-- A floating-point number. -/
def float (cs : List Char) : Except ScalarFault Binary64 :=
  let cs := floatText cs
  if cs.isEmpty then .error .noDigits
  else
    match magnitude (Plain.unsigned cs) with
    | .ok x => .ok (if cs.head? = some '-' then x.neg else x)
    | .error e => .error e

/-- Whether a floating-point number is written by the word for what is not a number. -/
def isNotNumberWord (cs : List Char) : Bool :=
  Plain.unsigned (floatText cs) == notNumberWord

/-- A date, with a time if there is one. -/
def timestamp (cs : List Char) : Except ScalarFault Value :=
  match WrittenDate.read? (Plain.withoutLineEnd cs) with
  | some w => w.value.mapError .date
  | none => .error .notDate

/-- Bytes in base 64. -/
def binary (cs : List Char) : Except Fault Value :=
  if cs.all fun c => c.toNat < 0x80 then
    match Base64.decode? cs with
    | some bytes => .ok (.bytes bytes)
    | none => .error .malformed
  else .error .malformed

/-- A scalar's value of a type. The types of collections have no scalars. -/
def value (tag : Tag) (cs : List Char) : Except Fault Value :=
  match tag with
  | .null => .ok .null
  | .bool => ((bool cs).map Value.bool).mapError .scalar
  | .int => ((int cs).map Value.int).mapError .scalar
  | .float => ((float cs).map Value.float).mapError .scalar
  | .timestamp => (timestamp cs).mapError .scalar
  | .binary => binary cs
  | .str => .ok (.str (String.ofList cs))
  | _ => .error .malformed

end Enclosure.Yaml.Scalar
