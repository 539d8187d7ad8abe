import Enclosure.Journal.Record
import Enclosure.Json.Writer
import Enclosure.Settings.Schema

/-!
# Log lines

How an entry of the log is written: as JSON, or for people to read, with the time, the severity and
the event in front of the other fields, which come in the order of their names.
-/

set_option autoImplicit false

namespace Enclosure

/-- The widths to which the severity and the event are filled up with blanks. -/
structure LineLayout where
  severityWidth : Nat
  eventWidth : Nat

namespace LineLayout

/-- Nothing is filled up. -/
def compact : LineLayout := ⟨0, 0⟩

/-- Severities and events stand below each other. -/
def columns : LineLayout := ⟨9, 30⟩

end LineLayout

namespace LogLine

/-- A text filled up with blanks to a width. -/
def padded (width : Nat) (text : String) : String :=
  text ++ String.ofList (List.replicate (width - text.length) ' ')

/-- Whether a text must stand between quotes to be told from what is around it. -/
def needsQuotes (s : String) : Bool :=
  s.toList.any fun c => " \t=\r\n\"'".toList.contains c

/-- The value of a field. -/
def valueText : Value → String
  | .str s => if needsQuotes s then Quoted.text s else s
  | v => v.nestedText

/-- A field with its name. -/
def pair (field : Value × Value) : String :=
  field.1.text ++ "=" ++ valueText field.2

/-- The fields with a place of their own, in order, and how each is shown. A field without a name
comes first. -/
def columns (layout : LineLayout) : List (String × (Value → String)) := [
  ("", fun v => pair (.str "", v)),
  ("timestamp", Value.text),
  ("level", fun v => "[" ++ padded layout.severityWidth v.text ++ "]"),
  ("event", fun v => padded layout.eventWidth v.text),
  ("logger", fun v => "[" ++ v.text ++ "]"),
  ("logger_name", fun v => "[" ++ v.text ++ "]")]

/-- The fields that stand below the line, or nowhere. -/
def belowNames : List String :=
  ["stack", "exception", "exc_info"]

/-- Whether a field is shown with its name. -/
def isPair (field : Value × Value) : Bool :=
  let name := field.1.text
  !belowNames.contains name && !(columns .compact).any fun c => c.1 = name

/-- The fields that are shown with their names, in the order of these. -/
def pairs (fields : Entries) : List String :=
  ((fields.filter isPair).mergeSort fun a b => a.1.text ≤ b.1.text).map pair

/-- A text without blanks at its end. -/
def trimEnd (text : String) : String :=
  String.ofList (text.toList.reverse.dropWhile (· = ' ')).reverse

/-- The line itself. -/
def head (layout : LineLayout) (fields : Entries) : String :=
  let shown := (columns layout).filterMap fun c => (Entries.field? fields c.1).map c.2
  trimEnd (" ".intercalate ((shown ++ pairs fields).filter (· ≠ "")))

/-- The value of a field that is set and not null. -/
def present? (fields : Entries) (name : String) : Option Value :=
  (Entries.field? fields name).filter fun v => !v.isNull

/-- What stands below the line: the place where the entry was made and the exception that it is
about, with a rule between them. The rule is also there when an exception was asked for. -/
def below (fields : Entries) : String :=
  let rule := "\n\n" ++ String.ofList (List.replicate 79 '=') ++ "\n"
  let exception := present? fields "exception"
  let asked := (Entries.field? fields "exc_info").any fun v => !v.isEmpty
  let stack := (present? fields "stack").elim "" fun s =>
    "\n" ++ s.text ++ if asked || exception.isSome then rule else ""
  stack ++ exception.elim "" fun e => "\n" ++ e.text

/-- What is to stand below the line and is not a text, if something is. -/
def misplaced? (fields : Entries) : Option Value :=
  ["stack", "exception"].findSome? fun name => (present? fields name).filter fun v => !v.isText

/-- An entry for people to read. -/
def console (layout : LineLayout) (fields : Entries) : String :=
  head layout fields ++ below fields

/-- Fields without some of them. -/
def without (names : List String) (fields : Entries) : Entries :=
  fields.filter fun e => !names.contains e.1.text

/-- An entry in a format; none when the format has no way to show it. -/
def text? (format : LogFormat) (fields : Entries) : Option String :=
  match format with
  | .json => some (Json.write (.map fields))
  | .console => if (misplaced? fields).isSome then none else some (console .compact fields)

end LogLine

end Enclosure
