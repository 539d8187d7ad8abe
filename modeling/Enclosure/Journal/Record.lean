import Enclosure.Event

/-!
# Log records

What one entry of the log says: named fields in order, of which the event, its severity and the time
are always set last. A field that is set again keeps its place.
-/

set_option autoImplicit false

namespace Enclosure

/-- One entry of the log. -/
structure LogRecord where
  severity : Severity
  fields : Entries
  /-- The message, if the entry comes from outside the program and says nothing else. -/
  message : Option String

namespace LogRecord

/-- The severity and the time set in some fields. -/
def stamped (fields : Entries) (severity : Severity) (time : String) : Entries :=
  Entries.insert (.str "timestamp") (.str time)
    (Entries.insert (.str "level") (.str severity.label) fields)

/-- Fields with the event set, if there is one. -/
def withEvent (event : Value) (fields : Entries) : Entries :=
  match event with
  | .null => fields
  | event => Entries.insert (.str "event") event fields

/-- Why the fields of an entry cannot be logged. -/
inductive FieldFault
  /-- A field that was set before has the name of the journal itself. -/
  | boundName (name : String)
  /-- A field has the name of a part of the entry; the entry may be too slight to be logged. -/
  | partName (name : String) (slight : Bool)
  /-- A field has the name of the way in which the entry is logged. -/
  | wayName (name : String)
  /-- What is to stand below a line is not a text. -/
  | notText (value : Value)

/-- The names of the parts of an entry that are not fields. -/
def partNames : List String :=
  ["self", "event"]

/-- The first of some fields that has one of some names. -/
def firstNamed? (names : List String) (fields : Entries) : Option String :=
  fields.findSome? fun e => names.find? fun n => e.1.identity = (Value.str n).identity

/-- What is wrong with the names of the fields of an entry, if something is. -/
def nameFault? (slight : Bool) (bound fields : Entries) : Option FieldFault :=
  ((firstNamed? ["self"] bound).map .boundName).or
    (((firstNamed? partNames fields).map fun n => .partName n slight).or
      (if slight then none else (firstNamed? ["method_name"] fields).map .wayName))

/-- An entry of the program itself: fields that were set before, further fields, and the event. -/
def own (bound fields : Entries) (event : Value) (severity : Severity) (time : String) :
    LogRecord :=
  let fields := fields.foldl (fun seen e => Entries.insert e.1 e.2 seen) bound
  ⟨severity, stamped (withEvent event fields) severity time, none⟩

/-- An entry from outside the program. -/
def foreign (message : String) (severity : Severity) (time : String) : LogRecord :=
  ⟨severity, stamped [(.str "event", .str message)] severity time, some message⟩

/-- The entry that an event of the program makes. -/
def ofEvent (e : Event) (time : String) : LogRecord :=
  own [] (e.fields.map fun f => (.str f.1, f.2)) (.str e.name) e.severity time

end LogRecord

end Enclosure
