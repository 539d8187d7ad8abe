import Enclosure.Text.Quoted
import Enclosure.Value
import Enclosure.Value.Display

/-!
# Faults

What can go wrong, as causes. Every fault that is shown to a user has a numbered code: the 2000s are
about configuration, the 3000s about resolving a cursor. A fault is shown as a report with its code,
a message and the details that the message was made from.
-/

set_option autoImplicit false

namespace Enclosure

/-- The codes of faults. -/
inductive ErrorCode
  | configUnreadable
  | configInvalidValue
  | configFileNotFound
  | parseUnavailable
  | scopeNotFound
  | fieldMissing
  | spanOutOfBounds
deriving DecidableEq

namespace ErrorCode

/-- All codes, by number. -/
def all : List ErrorCode :=
  [.configUnreadable, .configInvalidValue, .configFileNotFound, .parseUnavailable, .scopeNotFound,
    .fieldMissing, .spanOutOfBounds]

/-- The number of a code. -/
def number : ErrorCode → Nat
  | .configUnreadable => 2001
  | .configInvalidValue => 2002
  | .configFileNotFound => 2004
  | .parseUnavailable => 3001
  | .scopeNotFound => 3002
  | .fieldMissing => 3003
  | .spanOutOfBounds => 3004

/-- The name of a code. -/
def name : ErrorCode → String
  | .configUnreadable => "CONFIG_PARSE_ERROR"
  | .configInvalidValue => "CONFIG_INVALID_VALUE"
  | .configFileNotFound => "CONFIG_FILE_NOT_FOUND"
  | .parseUnavailable => "PARSE_UNAVAILABLE"
  | .scopeNotFound => "SCOPE_NOT_FOUND"
  | .fieldMissing => "FIELD_MISSING"
  | .spanOutOfBounds => "SPAN_OUT_OF_BOUNDS"

/-- Whether a code is about resolving a cursor. -/
def isResolve (c : ErrorCode) : Bool :=
  3000 ≤ c.number && c.number < 4000

/-- Why a code could not be looked up. -/
inductive LookupError
  | unknownNumber (n : Int)
  | unknownName (name : String)
deriving DecidableEq

/-- The message about a code that does not exist. -/
def LookupError.message : LookupError → String
  | .unknownNumber n => Decimal.text n ++ " is not a valid ErrorCode"
  | .unknownName name => Quoted.text name

/-- The code with a number. -/
def ofNumber (n : Int) : Except LookupError ErrorCode :=
  match all.find? fun c => (c.number : Int) = n with
  | some c => .ok c
  | none => .error (.unknownNumber n)

/-- The code with a name. -/
def ofName (name : String) : Except LookupError ErrorCode :=
  match all.find? fun c => c.name = name with
  | some c => .ok c
  | none => .error (.unknownName name)

end ErrorCode

/-- A fault as it is shown: its code, its message and its details in order. -/
structure Report where
  code : ErrorCode
  message : String
  details : List (String × Value)

namespace Report

/-- A report on one line: the number and the name of its code, then its message. -/
def text (r : Report) : String :=
  "[" ++ Decimal.text r.code.number ++ "] " ++ r.code.name ++ ": " ++ r.message

/-- A report as a mapping. -/
def toValue (r : Report) : Value :=
  .object [("code", .int r.code.number), ("error", .str r.code.name), ("message", .str r.message),
    ("details", .object r.details)]

end Report

/-- What can be wrong with the configuration. -/
inductive ConfigError
  /-- A file is not readable as configuration. -/
  | unreadable (path reason : String)
  /-- A setting has a value that it does not accept. -/
  | invalidValue (field : String) (value : Value) (reason : String)
  /-- The file that was asked for does not exist. -/
  | fileNotFound (path : String)

namespace ConfigError

/-- The report of a fault in the configuration. -/
def report : ConfigError → Report
  | .unreadable path reason =>
    ⟨.configUnreadable, "Failed to parse config at " ++ path ++ ": " ++ reason,
      [("path", .str path), ("reason", .str reason)]⟩
  | .invalidValue field value reason =>
    ⟨.configInvalidValue, "Invalid value for '" ++ field ++ "': " ++ reason,
      [("field", .str field), ("value", .str value.text), ("reason", .str reason)]⟩
  | .fileNotFound path =>
    ⟨.configFileNotFound, "Config file not found: " ++ path, [("path", .str path)]⟩

end ConfigError

/-- Why no syntax tree could be produced. -/
inductive ParseError
  /-- There is no grammar for a language; the package that would bring it may be known. -/
  | grammarUnavailable (language : String) (package : Option String)
  /-- The parser gave up on a text. -/
  | parserFailed (language reason : String)
deriving DecidableEq

namespace ParseError

/-- The report of a failure to parse. A package is named only if its name is not empty. -/
def report : ParseError → Report
  | .grammarUnavailable language package =>
    let named := package.filter (· ≠ "")
    ⟨.parseUnavailable,
      "Language not available: " ++ language
        ++ named.elim "" fun p => " (install " ++ p ++ ")",
      ("language", .str language) :: (named.map fun p => ("package", Value.str p)).toList⟩
  | .parserFailed language reason =>
    ⟨.parseUnavailable, "Failed to parse " ++ language ++ " source: " ++ reason,
      [("language", .str language), ("reason", .str reason)]⟩

end ParseError

end Enclosure
