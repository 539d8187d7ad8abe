/-!
# Faults of YAML documents

Bytes may not be text, a document may be malformed, or a scalar in it may not be a value of its
type. The last kind is kept apart, with what was found, because it is not a fault of the document's
form. Reading goes from each node to those within it, and there is an end to how far it can go.
-/

set_option autoImplicit false

namespace Enclosure.Yaml

/-- What is wrong with the parts of a date. -/
inductive DateFault
  | year (n : Nat)
  | month
  | day
  | hour
  | minute
  | second
  | offset (seconds : Int)
deriving DecidableEq

/-- A scalar that is not a value of its type. -/
inductive ScalarFault
  /-- An escape names a code beyond the last code point. -/
  | codePoint (code : Nat)
  /-- A text is not an integer in a base. -/
  | integer (base : Nat) (text : String)
  /-- An integer has more decimal digits than are read. -/
  | longInteger (count : Nat)
  /-- An integer without any digit. -/
  | noDigits
  /-- A text is not a floating-point number. -/
  | float (text : String)
  /-- A part of a floating-point number counts for more than there are such numbers. -/
  | largeFloat
  /-- A text is not a truth value. -/
  | truthValue (text : String)
  /-- A text does not have the form of a date. -/
  | notDate
  /-- A date is not written as a scalar. -/
  | collectedDate
  /-- A date does not exist. -/
  | date (cause : DateFault)
deriving DecidableEq

/-- Why a document has no value. -/
inductive Fault
  /-- Its bytes are not UTF-8. -/
  | notText
  /-- Its form is wrong. -/
  | malformed
  /-- A scalar in it has no value. -/
  | scalar (cause : ScalarFault)
  /-- Its nodes lie within each other more often than reading can go from one to the next. -/
  | tooDeep
deriving DecidableEq

/-- Go from a node to those within it: of the frames that were left, those that are left then. -/
def descend (cost frames : Nat) : Except Fault Nat :=
  if frames < cost then .error .tooDeep else .ok (frames - cost)

/-- Want a condition to hold. -/
def require (condition : Bool) : Except Fault Unit :=
  if condition then .ok () else .error .malformed

end Enclosure.Yaml
