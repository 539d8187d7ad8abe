import Enclosure.Journal.Line

/-!
# What a journal leaves to others

Which outputs get an entry is decided by the journal. What comes before that and after it is not: a
filter may drop entries that are too slight, and something must write an entry as a line. A journal
goes by whatever it is given for this, as long as the filter drops exactly the entries that are less
severe than what it asks for.
-/

set_option autoImplicit false

namespace Enclosure

/-- A filter for entries, and the ways in which they are written as lines. -/
structure LogBackend where
  /-- Whether the filter lets an entry through, by the severity that it asks for and that of the
  entry. -/
  passes : Severity → Severity → Bool
  /-- The line of an entry before the journal has been set up, or what keeps it from being shown. -/
  first : Entries → Except Value String
  /-- The line of an entry in a format; none when the format has no way to show it. -/
  text? : LogFormat → Entries → Option String
  /-- The filter lets through what is at least as severe as it asks for. -/
  passes_iff : ∀ least s : Severity, passes least s = true ↔ least.rank ≤ s.rank

namespace LogBackend

/-- The fields that are not shown before the journal has been set up. -/
def hiddenAtFirst : List String :=
  ["stack_info"]

/-- The fields that an output does not show. -/
def hidden : List String :=
  ["_record", "_from_structlog"]

/-- Lines as JSON or for people; at first, for people in columns. -/
def standard : LogBackend where
  passes least s := decide (least.rank ≤ s.rank)
  first fields :=
    match LogLine.misplaced? fields with
    | some v => .error v
    | none => .ok (LogLine.console .columns (LogLine.without hiddenAtFirst fields))
  text? format fields := LogLine.text? format (LogLine.without hidden fields)
  passes_iff _ _ := decide_eq_true_iff

end LogBackend

end Enclosure
