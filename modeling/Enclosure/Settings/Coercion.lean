import Enclosure.Settings.Issue
import Enclosure.Text.Blank
import Enclosure.Text.Decimal
import Enclosure.Text.Utf8

/-!
# Values in the place of others

A setting is a text, a truth value, an integer or a list, and a value of another type may be taken
for one of these. How that is done is left open; what is wanted of it is that a value of the right
type is taken as it is, and that mappings are refused, all of them for the same reason. The lax way
is the one in use: it goes by what a number or a text plainly denotes.
-/

set_option autoImplicit false

namespace Enclosure

/-- How values are taken for texts, truth values, integers and lists. -/
structure Coercion where
  text : Value → Except IssueKind String
  truth : Value → Except IssueKind Bool
  integer : Value → Except IssueKind Int
  items : Value → Except IssueKind (List Value)
  text_str (s : String) : text (.str s) = .ok s
  truth_bool (b : Bool) : truth (.bool b) = .ok b
  integer_int (i : Int) : integer (.int i) = .ok i
  items_list (vs : List Value) : items (.list vs) = .ok vs
  text_mapping : ∃ kind, ∀ v : Value, v.IsMapping → text v = .error kind
  truth_mapping : ∃ kind, ∀ v : Value, v.IsMapping → truth v = .error kind
  integer_mapping : ∃ kind, ∀ v : Value, v.IsMapping → integer v = .error kind
  items_mapping : ∃ kind, ∀ v : Value, v.IsMapping → items v = .error kind

namespace Lax

/-- The text of a value that is a text or bytes: none for another value, and no text in it for bytes
that are not UTF-8. -/
def words? : Value → Option (Option String)
  | .str s => some (some s)
  | .bytes bs => some ((Utf8.decodeStrict? bs).map String.ofList)
  | _ => none

/-- The text that a value stands for. -/
def text (v : Value) : Except IssueKind String :=
  match words? v with
  | some (some s) => .ok s
  | some none => .error .undecodableText
  | none => .error .notText

/-- The words for the two truth values, in lower case. -/
def truthWords : List (String × Bool) :=
  [("0", false), ("off", false), ("f", false), ("false", false), ("n", false), ("no", false),
    ("1", true), ("on", true), ("t", true), ("true", true), ("y", true), ("yes", true)]

/-- The truth value that an integer stands for. -/
def truthOfInt? (i : Int) : Option Bool :=
  if i = 0 then some false else if i = 1 then some true else none

/-- The truth value that a word stands for, in any letter case. -/
def truthOfWord? (s : String) : Option Bool :=
  let folded := String.ofList (s.toList.map Char.toLower)
  (truthWords.find? fun w => w.1 = folded).map Prod.snd

/-- What was found, or that a value does not plainly denote anything. -/
def orElse {α : Type} (found : Option α) (kind : IssueKind) : Except IssueKind α :=
  match found with
  | some a => .ok a
  | none => .error kind

/-- Two to the power 63, the bound within which numbers are looked at as integers. -/
def integerBound : Int :=
  9223372036854775808

/-- The integer that a floating-point number within the bound equals, if it equals one. -/
def whole? (x : Binary64) : Option Int :=
  x.toInt?.filter fun i => -integerBound < i && i < integerBound

/-- The truth value that a value stands for. -/
def truth : Value → Except IssueKind Bool
  | .bool b => .ok b
  | .int i =>
    if -integerBound ≤ i ∧ i < integerBound then orElse (truthOfInt? i) .unclearTruthValue
    else .error .notTruthValue
  | .float x =>
    match whole? x with
    | some i => orElse (truthOfInt? i) .unclearTruthValue
    | none => .error .notTruthValue
  | v =>
    match words? v with
    | some (some s) => orElse (truthOfWord? s) .unclearTruthValue
    | some none => .error .unclearTruthValue
    | none => .error .notTruthValue

/-- The integer that a text denotes without anything to be cleared away: a minus sign for a negative
one, then digits without leading zeros. -/
def plainInteger (cs : List Char) : Except IssueKind Int :=
  let (negative, body) := match cs with
    | '-' :: rest => (true, rest)
    | cs => (false, cs)
  let ds := body.takeWhile Decimal.isDigit
  let rest := body.dropWhile Decimal.isDigit
  if ds.isEmpty || (ds.head? = some '0' && 1 < ds.length) then .error .unclearInteger
  else if Decimal.limit < cs.length - rest.length then .error .largeInteger
  else if !rest.isEmpty then .error .unclearInteger
  else
    let n : Int := Decimal.ofDigits ds
    .ok (if negative then -n else n)

/-- Whether a number without leading zeros may start with a character. -/
def startsNumber (c : Char) : Bool :=
  c == '-' || ('1' ≤ c && c ≤ '9')

/-- What is left of a number after some of its leading zeros, the last character of which is given.
Underscores between them count as zeros, and one zero stays before a point. -/
def afterZeros? (last : Char) : List Char → Option (List Char)
  | [] => some [last]
  | c :: rest =>
    if c = '0' ∨ c = '_' then afterZeros? c rest
    else if c = '.' then some (last :: c :: rest)
    else if startsNumber c then some (c :: rest)
    else none

/-- A number without its leading zeros. -/
def withoutZeros? : List Char → Option (List Char)
  | [] => none
  | c :: rest =>
    if c = '0' then afterZeros? c rest
    else if startsNumber c then some (c :: rest)
    else none

/-- A number without a point and zeros at its end. -/
def withoutFraction (cs : List Char) : List Char :=
  match cs.dropWhile (· ≠ '.') with
  | [] => cs
  | _ :: zeros =>
    if !zeros.isEmpty && zeros.all (· = '0') then cs.takeWhile (· ≠ '.') else cs

/-- Whether two underscores stand side by side. -/
def hasDoubleBar : List Char → Bool
  | '_' :: '_' :: _ => true
  | _ :: rest => hasDoubleBar rest
  | [] => false

/-- A number without its underscores, unless they stand in a wrong place. -/
def withoutBars (cs : List Char) : List Char :=
  if cs.head? = some '_' ∨ cs.getLast? = some '_' ∨ hasDoubleBar cs then cs
  else cs.filter (· ≠ '_')

/-- A text without a plus sign, leading zeros, underscores and zeros after a point. A second sign is
only allowed after a zero. -/
def cleared? (cs : List Char) : Option (List Char) := do
  let body ← match cs with
    | '+' :: '-' :: _ => none
    | '+' :: rest => some rest
    | cs => some cs
  let (negative, body) ← match body with
    | '-' :: '-' :: _ => none
    | '-' :: rest => some (true, rest)
    | body => some (false, body)
  let body ← withoutZeros? body
  let body := withoutBars (withoutFraction body)
  return if negative then '-' :: body else body

/-- The integer that a text plainly denotes. -/
def integerOfText (s : String) : Except IssueKind Int :=
  let cs := Blank.trimWhile Blank.isWhiteSpace s.toList
  match plainInteger cs, cleared? cs with
  | .error .unclearInteger, some cs => plainInteger cs
  | result, _ => result

/-- The integer that a value stands for. -/
def integer : Value → Except IssueKind Int
  | .int i => .ok i
  | .bool b => .ok (if b then 1 else 0)
  | .float x =>
    match whole? x, x with
    | some i, _ => .ok i
    | none, .finite .. =>
      if x.toInt?.isSome then .error .largeInteger else .error .fractionalNumber
    | none, _ => .error .infiniteNumber
  | v =>
    match words? v with
    | some (some s) => integerOfText s
    | some none => .error .unclearInteger
    | none => .error .notInteger

/-- The items of a value that counts as a list; a set does too. -/
def items (v : Value) : Except IssueKind (List Value) :=
  match v.opened with
  | .list vs => .ok vs
  | .set vs => .ok vs
  | _ => .error .notList

/-- A mapping is no text, no truth value, no number and no list. -/
theorem refuse_mapping {v : Value} (h : v.IsMapping) :
    text v = .error .notText ∧ truth v = .error .notTruthValue ∧
      integer v = .error .notInteger ∧ items v = .error .notList := by
  obtain ⟨entries, hopened⟩ := h
  have hitems : items v = .error .notList := by rw [items, hopened]
  cases v with
  | map _ => exact ⟨rfl, rfl, rfl, hitems⟩
  | knot _ _ => exact ⟨rfl, rfl, rfl, hitems⟩
  | _ => cases hopened

end Lax

/-- Numbers and texts are taken for truth values and for integers where they plainly denote one,
bytes for texts where they are UTF-8, and sets for lists. -/
def Coercion.lax : Coercion where
  text := Lax.text
  truth := Lax.truth
  integer := Lax.integer
  items := Lax.items
  text_str _ := rfl
  truth_bool _ := rfl
  integer_int _ := rfl
  items_list _ := rfl
  text_mapping := ⟨_, fun _ h => (Lax.refuse_mapping h).1⟩
  truth_mapping := ⟨_, fun _ h => (Lax.refuse_mapping h).2.1⟩
  integer_mapping := ⟨_, fun _ h => (Lax.refuse_mapping h).2.2.1⟩
  items_mapping := ⟨_, fun _ h => (Lax.refuse_mapping h).2.2.2⟩

end Enclosure
