import Enclosure.Text.Decimal
import Enclosure.Value
import Enclosure.Yaml.Fault

/-!
# Dates and times in scalars

A date is written as year, month and day, and a time may follow it: hour, minute and second, with a
fraction and an offset from universal time if they are known. That a text has this form does not
mean that the day exists.
-/

set_option autoImplicit false

namespace Enclosure.Yaml

/-- A time of day as it is written. -/
structure WrittenTime where
  hour : Nat
  minute : Nat
  second : Nat
  /-- The microseconds; further digits of a fraction do not count. -/
  microsecond : Nat
  /-- The offset in seconds, if one is written. -/
  offset : Option Int
deriving DecidableEq

/-- A date as it is written, with the time after it if there is one. -/
structure WrittenDate where
  date : Date
  time : Option WrittenTime
deriving DecidableEq

namespace WrittenDate

/-- The number that the next digits denote, at least `least` and at most `most` of them. -/
def number? (least most : Nat) (cs : List Char) : Option (Nat × List Char) :=
  let ds := (cs.take most).takeWhile Decimal.isDigit
  if ds.length < least then none else some (Decimal.ofDigits ds, cs.drop ds.length)

/-- What comes after a character, if that character comes next. -/
def after? (c : Char) : List Char → Option (List Char)
  | [] => none
  | d :: rest => if d = c then some rest else none

/-- Whether a character is a blank. -/
def isBlank (c : Char) : Bool :=
  c == ' ' || c == '\t'

/-- The date at the start of a text. -/
def day? (cs : List Char) : Option (Date × List Char) := do
  let (year, cs) ← number? 4 4 cs
  let cs ← after? '-' cs
  let (month, cs) ← number? 1 2 cs
  let cs ← after? '-' cs
  let (day, cs) ← number? 1 2 cs
  return (⟨year, month, day⟩, cs)

/-- What stands between a date and a time: one letter, or blanks. -/
def gap? (cs : List Char) : Option (List Char) :=
  match cs with
  | 'T' :: rest => some rest
  | 't' :: rest => some rest
  | cs => if cs.head?.any isBlank then some (cs.dropWhile isBlank) else none

/-- The microseconds of a fraction after the point, or none without a point. -/
def fraction (cs : List Char) : Nat × List Char :=
  match cs with
  | '.' :: rest =>
    let ds := rest.takeWhile Decimal.isDigit
    (Decimal.ofDigits ((ds ++ List.replicate 6 '0').take 6), rest.dropWhile Decimal.isDigit)
  | cs => (0, cs)

/-- The minutes of an offset after a colon, or none without a colon. -/
def offsetMinutes? (cs : List Char) : Option (Nat × List Char) :=
  match cs with
  | ':' :: rest => number? 2 2 rest
  | cs => some (0, cs)

/-- An offset that takes the whole rest of a text. -/
def offset? (cs : List Char) : Option (Option Int) :=
  match cs.dropWhile isBlank with
  | [] => if cs.isEmpty then some none else none
  | ['Z'] => some (some 0)
  | sign :: rest =>
    if sign = '+' ∨ sign = '-' then do
      let (hours, rest) ← number? 1 2 rest
      let (minutes, rest) ← offsetMinutes? rest
      let seconds : Int := 3600 * hours + 60 * minutes
      if rest.isEmpty then some (some (if sign = '-' then -seconds else seconds)) else none
    else none

/-- A time that takes the whole rest of a text. -/
def time? (cs : List Char) : Option WrittenTime := do
  let (hour, cs) ← number? 1 2 cs
  let cs ← after? ':' cs
  let (minute, cs) ← number? 2 2 cs
  let cs ← after? ':' cs
  let (second, cs) ← number? 2 2 cs
  let (microsecond, cs) := fraction cs
  let offset ← offset? cs
  return ⟨hour, minute, second, microsecond, offset⟩

/-- The date, and the time if there is one, that a text gives. -/
def read? (cs : List Char) : Option WrittenDate := do
  let (date, rest) ← day? cs
  if rest.isEmpty then return ⟨date, none⟩
  else
    let rest ← gap? rest
    let time ← time? rest
    return ⟨date, some time⟩

/-- The number of days of a month. -/
def daysIn (year month : Nat) : Nat :=
  if month = 2 then
    if year % 4 = 0 ∧ (year % 100 ≠ 0 ∨ year % 400 = 0) then 29 else 28
  else if month ∈ [4, 6, 9, 11] then 30
  else 31

/-- A day, if it exists. -/
def checkDay (d : Date) : Except DateFault Date :=
  if d.year = 0 then .error (.year d.year)
  else if d.month = 0 ∨ 12 < d.month then .error .month
  else if d.day = 0 ∨ daysIn d.year d.month < d.day then .error .day
  else .ok d

/-- The seconds of a day; an offset is less than that. -/
def daySeconds : Nat := 86400

/-- What is wrong with a time, if something is. -/
def checkTime (t : WrittenTime) : Except DateFault WrittenTime :=
  if 23 < t.hour then .error .hour
  else if 59 < t.minute then .error .minute
  else if 59 < t.second then .error .second
  else .ok t

/-- An offset, if it is less than a day. -/
def checkOffset (offset : Option Int) : Except DateFault (Option Int) :=
  match offset with
  | some s => if daySeconds ≤ s.natAbs then .error (.offset s) else .ok (some s)
  | none => .ok none

/-- The value of a date as written, if the moment exists. -/
def value (w : WrittenDate) : Except DateFault Value :=
  match w.time with
  | none => return .date (← checkDay w.date)
  | some t => do
    let offset ← checkOffset t.offset
    let d ← checkDay w.date
    let t ← checkTime t
    return .timestamp ⟨d, t.hour, t.minute, t.second, t.microsecond, offset⟩

end WrittenDate

end Enclosure.Yaml
