import Enclosure.Value.Display

/-!
# The time of log lines

The moment that a count of seconds since the start of the year 1970 denotes, in universal time.
-/

set_option autoImplicit false

namespace Enclosure

/-- The seconds of a day. -/
def Clock.daySeconds : Nat := 86400

/-- The day that a count of days since the first of March of the year 0 denotes. Years that start in
March have their leap day at the end, and 400 of them make an era of always the same length. -/
def Date.ofMarchDays (days : Nat) : Date :=
  let era := days / 146097
  let inEra := days % 146097
  let year := (inEra - inEra / 1460 + inEra / 36524 - inEra / 146096) / 365
  let inYear := inEra - (365 * year + year / 4 - year / 100)
  let month := (5 * inYear + 2) / 153
  let day := inYear - (153 * month + 2) / 5 + 1
  if month < 10 then ⟨400 * era + year, month + 3, day⟩ else ⟨400 * era + year + 1, month - 9, day⟩

/-- The days from the first of March of the year 0 to the start of the year 1970. -/
def Clock.epochDays : Nat := 719468

/-- The moment that a count of seconds since the start of the year 1970 denotes. -/
def Timestamp.ofSeconds (seconds : Nat) : Timestamp :=
  let inDay := seconds % Clock.daySeconds
  ⟨.ofMarchDays (seconds / Clock.daySeconds + Clock.epochDays), inDay / 3600, inDay / 60 % 60,
    inDay % 60, 0, none⟩

/-- The time as log lines show it. -/
def Clock.text (seconds : Nat) : String :=
  String.ofList ((Timestamp.ofSeconds seconds).chars ' ')

end Enclosure
