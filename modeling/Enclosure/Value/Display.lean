import Enclosure.Number.Shortest
import Enclosure.Text.Quoted
import Enclosure.Value

/-!
# Values as text

How a value is shown in messages and log lines. A text by itself is shown as it is, and inside a
list or a mapping between quotes; the constants are `None`, `True` and `False`. A collection that
lies within itself is shown there by dots.
-/

set_option autoImplicit false

namespace Enclosure

/-- A number with leading zeros up to a width. -/
def Decimal.padded (width n : Nat) : List Char :=
  let ds := Decimal.digits n
  List.replicate (width - ds.length) '0' ++ ds

namespace Date

/-- A day is written as year, month and day between hyphens. -/
def chars (d : Date) : List Char :=
  Decimal.padded 4 d.year ++ '-' :: Decimal.padded 2 d.month ++ '-' :: Decimal.padded 2 d.day

/-- The numbers of a day, separated by commas. -/
def fields (d : Date) : List Char :=
  Decimal.digits d.year ++ ", ".toList ++ Decimal.digits d.month ++ ", ".toList
    ++ Decimal.digits d.day

end Date

namespace Timestamp

/-- An offset is written as a sign, hours and minutes. -/
def offsetChars (seconds : Int) : List Char :=
  let minutes := seconds.natAbs / 60
  (if seconds < 0 then '-' else '+') :: Decimal.padded 2 (minutes / 60)
    ++ ':' :: Decimal.padded 2 (minutes % 60)

/-- A moment is written as its day, a separator and its time; the microseconds only if there are
any, and the offset only if it is known. -/
def chars (separator : Char) (t : Timestamp) : List Char :=
  t.date.chars ++ separator :: Decimal.padded 2 t.hour ++ ':' :: Decimal.padded 2 t.minute
    ++ ':' :: Decimal.padded 2 t.second
    ++ (if t.microsecond = 0 then [] else '.' :: Decimal.padded 6 t.microsecond)
    ++ (match t.offset with
      | none => []
      | some s => offsetChars s)

/-- A span of time as days and seconds, the seconds never negative. -/
def spanChars (seconds : Int) : List Char :=
  let days := seconds / 86400
  let rest := seconds % 86400
  let dayPart := if days = 0 then [] else "days=".toList ++ Decimal.intChars days
  let restPart := if rest = 0 then [] else "seconds=".toList ++ Decimal.intChars rest
  let comma := if days = 0 ∨ rest = 0 then [] else ", ".toList
  let body := dayPart ++ comma ++ restPart
  "datetime.timedelta(".toList ++ (if body.isEmpty then ['0'] else body) ++ [')']

/-- An offset among the arguments of a moment. -/
def zoneChars (seconds : Int) : List Char :=
  if seconds = 0 then "datetime.timezone.utc".toList
  else "datetime.timezone(".toList ++ spanChars seconds ++ [')']

/-- A moment inside a list or a mapping; seconds and microseconds only as far as there are any. -/
def callChars (t : Timestamp) : List Char :=
  let time := ", ".toList ++ Decimal.digits t.hour ++ ", ".toList ++ Decimal.digits t.minute
  let seconds :=
    if t.second = 0 ∧ t.microsecond = 0 then [] else ", ".toList ++ Decimal.digits t.second
  let micros := if t.microsecond = 0 then [] else ", ".toList ++ Decimal.digits t.microsecond
  let zone := match t.offset with
    | none => []
    | some s => ", tzinfo=".toList ++ zoneChars s
  "datetime.datetime(".toList ++ t.date.fields ++ time ++ seconds ++ micros ++ zone ++ [')']

end Timestamp

namespace Value

/-- How a collection is shown inside of itself. -/
def ellipsis : Value → List Char
  | .list _ => "[...]".toList
  | .map _ => "\x7b...\x7d".toList
  | _ => "(...)".toList

/-- The collections around a value that lie within themselves, and how each is shown there. -/
abbrev Surroundings :=
  List (Label × List Char)

/-- How the collection with a label is shown, if it is around a value. -/
def Surroundings.find? (around : Surroundings) (label : Label) : Option (List Char) :=
  (List.find? (fun a => a.1 = label) around).map Prod.snd

mutual

/-- A value inside a list or a mapping, given the collections around it. -/
def nestedIn (around : Surroundings) : Value → List Char
  | .null => "None".toList
  | .bool b => if b then "True".toList else "False".toList
  | .int i => Decimal.intChars i
  | .float x => Shortest.chars "inf".toList "nan".toList x
  | .str s => Quoted.chars s.toList
  | .date d => "datetime.date(".toList ++ d.fields ++ [')']
  | .timestamp t => t.callChars
  | .bytes bs => Quoted.bytes bs
  | .list items => '[' :: nestedItems around items ++ [']']
  | .map entries => '\x7b' :: nestedEntries around entries ++ ['\x7d']
  | .set members =>
    if members.isEmpty then "set()".toList else '\x7b' :: nestedItems around members ++ ['\x7d']
  | .pair first second =>
    '(' :: nestedIn around first ++ ',' :: ' ' :: nestedIn around second ++ [')']
  | .knot label body =>
    match around.find? label with
    | some text => text
    | none => nestedIn ((label, ellipsis body) :: around) body
  | .again label => (around.find? label).getD "...".toList

/-- Values, separated by commas. -/
def nestedItems (around : Surroundings) : List Value → List Char
  | [] => []
  | [v] => nestedIn around v
  | v :: w :: rest => nestedIn around v ++ ',' :: ' ' :: nestedItems around (w :: rest)

/-- The entries of a mapping, separated by commas. -/
def nestedEntries (around : Surroundings) : List (Value × Value) → List Char
  | [] => []
  | [(k, v)] => nestedIn around k ++ ':' :: ' ' :: nestedIn around v
  | (k, v) :: e :: rest =>
    nestedIn around k ++ ':' :: ' ' :: nestedIn around v ++ ',' :: ' ' ::
      nestedEntries around (e :: rest)

end

/-- A value inside a list or a mapping. -/
def nested (v : Value) : List Char :=
  nestedIn [] v

/-- A value as it is shown inside a list, a mapping or a log line. -/
def nestedText (v : Value) : String :=
  String.ofList (nested v)

/-- A value as it is shown by itself. -/
def text : Value → String
  | .str s => s
  | .date d => String.ofList d.chars
  | .timestamp t => String.ofList (t.chars ' ')
  | v => nestedText v

/-- Why a value cannot be shown. -/
inductive WritingFault
  /-- It holds an integer with more digits than are written. -/
  | tooLong
  /-- More values lie within each other in it than can be gone through. -/
  | tooDeep
deriving DecidableEq

mutual

/-- The first thing that keeps a value inside another one from being shown, where as many values as
there are levels can be shown within each other. The members of a set are shown as a list of its
own, and an offset other than zero as a span of time. -/
def nestedFault? : Nat → Value → Option WritingFault
  | 0, _ => some .tooDeep
  | _ + 1, .int i => if Nat.pow 10 Decimal.limit ≤ i.natAbs then some .tooLong else none
  | levels + 1, .list items => itemsFault? levels items
  | levels + 1, .map entries => entriesFault? levels entries
  | levels + 1, .set members =>
    match members, levels with
    | [], _ => none
    | _, 0 => some .tooDeep
    | members, levels + 1 => itemsFault? levels members
  | levels + 1, .pair first second => (nestedFault? levels first).or (nestedFault? levels second)
  | levels + 1, .timestamp t =>
    match t.offset with
    | none => none
    | some seconds => if levels < (if seconds = 0 then 1 else 2) then some .tooDeep else none
  | levels + 1, .knot _ body => nestedFault? (levels + 1) body
  | _ + 1, _ => none

/-- The first thing that keeps one of several values from being shown. -/
def itemsFault? : Nat → List Value → Option WritingFault
  | _, [] => none
  | levels, v :: rest => (nestedFault? levels v).or (itemsFault? levels rest)

/-- The first thing that keeps one of several entries from being shown. -/
def entriesFault? : Nat → List (Value × Value) → Option WritingFault
  | _, [] => none
  | levels, (k, v) :: rest =>
    ((nestedFault? levels k).or (nestedFault? levels v)).or (entriesFault? levels rest)

end

/-- What keeps a value from being shown by itself. -/
def textFault? (levels : Nat) : Value → Option WritingFault
  | .str _ => none
  | .date _ | .timestamp _ => if levels = 0 then some .tooDeep else none
  | v => nestedFault? levels v

end Value

end Enclosure
