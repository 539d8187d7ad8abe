import Enclosure.CursorRange
import Enclosure.Fault
import Enclosure.Value

/-!
# Events

What resolving a cursor reports about itself. Nothing that goes wrong on the way stops the
resolution; it is reported as an event instead, most often with the code of the fault as its reason.
A traced result carries, next to its value, what was done on the way: the events reported and the
texts that a parser was asked to parse.
-/

set_option autoImplicit false

namespace Enclosure

/-- How severe an event is. -/
inductive Severity
  | debug
  | info
  | warning
  | error
  | critical
deriving DecidableEq

namespace Severity

/-- All severities, least severe first. -/
def all : List Severity :=
  [.debug, .info, .warning, .error, .critical]

/-- The rank of a severity. -/
def rank : Severity → Nat
  | .debug => 10
  | .info => 20
  | .warning => 30
  | .error => 40
  | .critical => 50

/-- The word for a severity in a log line. -/
def label : Severity → String
  | .debug => "debug"
  | .info => "info"
  | .warning => "warning"
  | .error => "error"
  | .critical => "critical"

/-- The word for a severity in a setting. -/
def setting : Severity → String
  | .debug => "DEBUG"
  | .info => "INFO"
  | .warning => "WARNING"
  | .error => "ERROR"
  | .critical => "CRITICAL"

end Severity

/-- A part of a declaration that its node may lack. -/
inductive DeclarationField
  | declarationKind
  | name
deriving DecidableEq

/-- The word for a part of a declaration. -/
def DeclarationField.text : DeclarationField → String
  | .declarationKind => "declaration_kind"
  | .name => "name"

/-- An event of resolving a cursor. -/
inductive Event
  /-- A document is in a language that no reader knows. -/
  | noReader (path : String) (language : Option String)
  /-- A document is larger than the limit. -/
  | fileTooLarge (path : String) (size : Nat)
  /-- A document could not be read. -/
  | readFailed (path : String)
  /-- A parser has no grammar, or gave up. -/
  | parserUnavailable (language : String) (cause : ParseError)
  /-- A tree with syntax errors was not accepted. -/
  | treeRejected (language : String) (errorCount : Nat)
  /-- A reader got no tree. -/
  | noTree
  /-- No scope-bearing node contains the cursor. -/
  | scopeNotFound (range : CursorRange)
  /-- A declaration lacks a part. -/
  | fieldMissing (nodeKind : String) (field : DeclarationField) (range : CursorRange)
  /-- A span stops after the last line. -/
  | spanOutOfBounds (endLine : Int) (lineCount : Nat)
  /-- A command has resolved a cursor. -/
  | resolved (path : String) (range : CursorRange) (top : Bool)

namespace Event

/-- The name of an event. -/
def name : Event → String
  | .noReader .. => "scope.parse_unavailable"
  | .fileTooLarge .. => "scope.file_too_large"
  | .readFailed .. => "scope.read_failed"
  | .parserUnavailable .. => "syntax.parse_unavailable"
  | .treeRejected .. => "syntax.tree_rejected"
  | .noTree => "scope.parse_unavailable"
  | .scopeNotFound .. => "scope.not_found"
  | .fieldMissing .. => "scope.field_missing"
  | .spanOutOfBounds .. => "scope.span_out_of_bounds"
  | .resolved .. => "cli.resolved"

/-- How severe an event is. -/
def severity : Event → Severity
  | .readFailed .. => .warning
  | _ => .debug

/-- The code that an event gives as its reason. -/
def reason? : Event → Option ErrorCode
  | .noReader .. => some .parseUnavailable
  | .parserUnavailable _ cause => some cause.report.code
  | .treeRejected .. => some .parseUnavailable
  | .noTree => some .parseUnavailable
  | .scopeNotFound .. => some .scopeNotFound
  | .fieldMissing .. => some .fieldMissing
  | .spanOutOfBounds .. => some .spanOutOfBounds
  | .fileTooLarge .. | .readFailed .. | .resolved .. => none

/-- What an event says besides its reason. -/
def details : Event → List (String × Value)
  | .noReader path language =>
    [("path", .str path), ("language", (language.map Value.str).getD .null)]
  | .fileTooLarge path size => [("path", .str path), ("size", .int size)]
  | .readFailed path => [("path", .str path), ("exc_info", .bool true)]
  | .parserUnavailable language cause =>
    [("language", .str language), ("detail", .str cause.report.message)]
  | .treeRejected language errorCount =>
    [("language", .str language), ("error_count", .int errorCount)]
  | .noTree => []
  | .scopeNotFound range => [("range", .str range.text)]
  | .fieldMissing nodeKind field range =>
    [("node_kind", .str nodeKind), ("field", .str field.text), ("range", .str range.text)]
  | .spanOutOfBounds endLine lineCount =>
    [("end_line", .int endLine), ("line_count", .int lineCount)]
  | .resolved path range top =>
    [("path", .str path), ("range", .str range.text), ("top", .bool top)]

/-- The fields of an event: its reason, if it gives one, and what else it says. -/
def fields (e : Event) : List (String × Value) :=
  match e.reason? with
  | some code => ("reason", .str code.name) :: e.details
  | none => e.details

end Event

/-- Something done on the way to a result. -/
inductive Act
  /-- An event was reported. -/
  | report (event : Event)
  /-- A parser was asked to parse a text. -/
  | parse (text : String)

namespace Act

/-- The event that an act reports. -/
def event? : Act → Option Event
  | .report e => some e
  | .parse _ => none

/-- The text that an act asks to parse. -/
def parsed? : Act → Option String
  | .report _ => none
  | .parse text => some text

end Act

/-- A value with what was done on the way to it. -/
structure Traced (α : Type) where
  value : α
  acts : List Act

namespace Traced

/-- The events reported, in order. -/
def events {α : Type} (t : Traced α) : List Event :=
  t.acts.filterMap Act.event?

/-- The texts that were to be parsed, in order. -/
def parses {α : Type} (t : Traced α) : List String :=
  t.acts.filterMap Act.parsed?

/-- Report an event. -/
def report (event : Event) : Traced Unit :=
  ⟨(), [.report event]⟩

/-- Report an event if a condition holds. -/
def reportIf (condition : Prop) [Decidable condition] (event : Event) : Traced Unit :=
  ⟨(), if condition then [.report event] else []⟩

/-- Ask for a text to be parsed. -/
def ask (text : String) : Traced Unit :=
  ⟨(), [.parse text]⟩

instance : Monad Traced where
  pure a := ⟨a, []⟩
  bind t f := ⟨(f t.value).value, t.acts ++ (f t.value).acts⟩

/-- A value without acts is itself. -/
@[simp] theorem value_pure {α : Type} (a : α) : (pure a : Traced α).value = a := rfl

/-- A value by itself makes no acts. -/
@[simp] theorem acts_pure {α : Type} (a : α) : (pure a : Traced α).acts = [] := rfl

/-- The value of two steps in a row is that of the second. -/
@[simp] theorem value_bind {α β : Type} (t : Traced α) (f : α → Traced β) :
    (t >>= f).value = (f t.value).value := rfl

/-- The acts of two steps in a row are those of the first and then those of the second. -/
@[simp] theorem acts_bind {α β : Type} (t : Traced α) (f : α → Traced β) :
    (t >>= f).acts = t.acts ++ (f t.value).acts := rfl

end Traced

end Enclosure
