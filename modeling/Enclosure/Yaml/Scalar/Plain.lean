import Enclosure.Yaml.Node
import Enclosure.Yaml.Scalar.Clock

/-!
# The types of plain scalars

A scalar without quotes and without a tag has a type by the form of its text: the words for null and
the truth values, integers in four bases and in minutes and seconds, floating-point numbers, which
need a point, and dates. Every other text is a text.
-/

set_option autoImplicit false

namespace Enclosure.Yaml.Plain

/-- Whether a text is one of the words for nothing. -/
def isNull (cs : List Char) : Bool :=
  (["~", "null", "Null", "NULL", ""].map String.toList).contains cs

/-- The words for truth values. -/
def truthWords : List String :=
  ["yes", "Yes", "YES", "no", "No", "NO", "true", "True", "TRUE", "false", "False", "FALSE",
    "on", "On", "ON", "off", "Off", "OFF"]

/-- Whether a text is one of the words for truth values. -/
def isTruthWord (cs : List Char) : Bool :=
  (truthWords.map String.toList).contains cs

/-- A text without its sign. -/
def unsigned : List Char → List Char
  | [] => []
  | c :: rest => if c = '+' ∨ c = '-' then rest else c :: rest

/-- Whether a character is a decimal digit or an underscore. -/
def isDigitOrBar (c : Char) : Bool :=
  Decimal.isDigit c || c == '_'

/-- Whether a character is a hexadecimal digit or an underscore. -/
def isHexOrBar (c : Char) : Bool :=
  isDigitOrBar c || ('a' ≤ c && c ≤ 'f') || ('A' ≤ c && c ≤ 'F')

/-- Whether a text is not empty and passes a test throughout. -/
def isRun (test : Char → Bool) (cs : List Char) : Bool :=
  !cs.isEmpty && cs.all test

/-- Whether a text is a digit, then digits and underscores. -/
def isNumeral (cs : List Char) : Bool :=
  cs.head?.any Decimal.isDigit && cs.all isDigitOrBar

/-- The parts of a text between its colons. -/
def parts (cs : List Char) : List (List Char) :=
  cs.foldr
    (fun c parts =>
      match parts with
      | [] => [[c]]
      | part :: rest => if c = ':' then [] :: part :: rest else (c :: part) :: rest)
    [[]]

/-- Whether a text is a number below sixty, with one or two digits. -/
def isSixtieth : List Char → Bool
  | [a] => Decimal.isDigit a
  | [a, b] => '0' ≤ a && a ≤ '5' && Decimal.isDigit b
  | _ => false

/-- Whether a text is a numeral, then numbers below sixty after colons. -/
def isSexagesimal (cs : List Char) : Bool :=
  match parts cs with
  | first :: second :: rest => isNumeral first && (second :: rest).all isSixtieth
  | _ => false

/-- Whether a text without a sign is an integer. -/
def isNatural (cs : List Char) : Bool :=
  match cs with
  | '0' :: 'b' :: rest => isRun (fun c => c == '0' || c == '1' || c == '_') rest
  | '0' :: 'x' :: rest => isRun isHexOrBar rest
  | '0' :: rest => rest.all fun c => ('0' ≤ c && c ≤ '7') || c == '_'
  | cs => isNumeral cs || isSexagesimal cs

/-- Whether a text is an integer. -/
def isInt (cs : List Char) : Bool :=
  isNatural (unsigned cs)

/-- Whether a text is empty or an exponent with a sign. -/
def isExponent : List Char → Bool
  | [] => true
  | [_] => false
  | e :: sign :: rest =>
    (e == 'e' || e == 'E') && (sign == '+' || sign == '-') && isRun Decimal.isDigit rest

/-- Whether a text is digits and underscores, then perhaps an exponent. -/
def isFraction (cs : List Char) : Bool :=
  isExponent (cs.dropWhile isDigitOrBar)

/-- Whether a text without a sign is a floating-point number with digits before its point. -/
def isPointed (cs : List Char) : Bool :=
  let whole := cs.takeWhile (· ≠ '.')
  match cs.dropWhile (· ≠ '.') with
  | [] => false
  | _ :: rest =>
    (isNumeral whole && isFraction rest) || (isSexagesimal whole && rest.all isDigitOrBar)

/-- Whether a text without a sign is a word for infinity. -/
def isInfinity (cs : List Char) : Bool :=
  ([".inf", ".Inf", ".INF"].map String.toList).contains cs

/-- Whether a text is a word for what is not a number. -/
def isNotNumber (cs : List Char) : Bool :=
  ([".nan", ".NaN", ".NAN"].map String.toList).contains cs

/-- Whether a text is a floating-point number that starts with its point. -/
def isBarePoint : List Char → Bool
  | '.' :: d :: rest => Decimal.isDigit d && isFraction rest
  | _ => false

/-- Whether a text is a floating-point number. -/
def isFloat (cs : List Char) : Bool :=
  isPointed (unsigned cs) || isInfinity (unsigned cs) || isNotNumber cs || isBarePoint cs

/-- Whether a text is a date: by itself it has two digits for the month and the day. -/
def isDate (cs : List Char) : Bool :=
  match WrittenDate.read? cs with
  | some w => w.time.isSome || cs.length = 10
  | none => false

/-- A text without a line end after it. -/
def withoutLineEnd (cs : List Char) : List Char :=
  if cs.length ≥ 2 ∧ cs.getLast? = some '\n' then cs.dropLast else cs

/-- The type that the form of a text gives it. -/
def tagOfLine (cs : List Char) : Tag :=
  if isNull cs then .null
  else if isTruthWord cs then .bool
  else if isInt cs then .int
  else if isFloat cs then .float
  else if isDate cs then .timestamp
  else if cs = ['<', '<'] then .merge
  else if cs = ['='] then .default
  else if cs = ['!'] ∨ cs = ['&'] ∨ cs = ['*'] then .unknown
  else .str

/-- The type of a scalar whose text decides it; a line end after the text does not count. -/
def tag (cs : List Char) : Tag :=
  tagOfLine (withoutLineEnd cs)

end Enclosure.Yaml.Plain
