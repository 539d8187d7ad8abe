import Enclosure.Value

/-!
# Issues with settings

Checking a value against what a setting accepts gives the setting, or the list of all issues found,
in the order of the settings, or it is broken off. An issue says what is wrong, where, and with
which value.
-/

set_option autoImplicit false

namespace Enclosure

/-- What is wrong with a value. -/
inductive IssueKind
  /-- A group of settings is not a mapping. -/
  | notGroup (group : String)
  /-- A word is not one of those accepted. -/
  | notWord (words : List String)
  | notText
  /-- Bytes that are to be a text are not UTF-8. -/
  | undecodableText
  | notList
  | notTruthValue
  /-- A text or a number is not one of those that stand for a truth value. -/
  | unclearTruthValue
  | notInteger
  /-- A text does not denote an integer. -/
  | unclearInteger
  /-- A text or a number denotes an integer that is too large to be read. -/
  | largeInteger
  | fractionalNumber
  | infiniteNumber
  /-- A limit is not positive. -/
  | notPositive (limit : Int)
  /-- A log file is not given by an absolute path. -/
  | relativeDestination (text : String)
  /-- The character zero is in the name of a user whose home directory is wanted. -/
  | zeroCharacter
  /-- There is no such setting. -/
  | unknownSetting
deriving DecidableEq

namespace IssueKind

/-- Words between quotes, the last one after `or`. -/
def wordList : List String → String
  | [] => ""
  | [w] => "'" ++ w ++ "'"
  | [v, w] => "'" ++ v ++ "' or '" ++ w ++ "'"
  | v :: w :: x :: rest => "'" ++ v ++ "', " ++ wordList (w :: x :: rest)

/-- The short name of what is wrong. -/
def code : IssueKind → String
  | .notGroup _ => "model_type"
  | .notWord _ => "literal_error"
  | .notText => "string_type"
  | .undecodableText => "string_unicode"
  | .notList => "list_type"
  | .notTruthValue => "bool_type"
  | .unclearTruthValue => "bool_parsing"
  | .notInteger => "int_type"
  | .unclearInteger => "int_parsing"
  | .largeInteger => "int_parsing_size"
  | .fractionalNumber => "int_from_float"
  | .infiniteNumber => "finite_number"
  | .notPositive _ => "value_error"
  | .relativeDestination _ => "value_error"
  | .zeroCharacter => "value_error"
  | .unknownSetting => "extra_forbidden"

/-- The message about what is wrong. -/
def message : IssueKind → String
  | .notGroup group => "Input should be a valid dictionary or instance of " ++ group
  | .notWord words => "Input should be " ++ wordList words
  | .notText => "Input should be a valid string"
  | .undecodableText =>
    "Input should be a valid string, unable to parse raw data as a unicode string"
  | .notList => "Input should be a valid list"
  | .notTruthValue => "Input should be a valid boolean"
  | .unclearTruthValue => "Input should be a valid boolean, unable to interpret input"
  | .notInteger => "Input should be a valid integer"
  | .unclearInteger => "Input should be a valid integer, unable to parse string as an integer"
  | .largeInteger => "Unable to parse input string as an integer, exceeded maximum size"
  | .fractionalNumber => "Input should be a valid integer, got a number with a fractional part"
  | .infiniteNumber => "Input should be a finite number"
  | .notPositive limit =>
    "Value error, max_file_size_kb must be positive, got " ++ Decimal.text limit
  | .relativeDestination text =>
    "Value error, File destination must be absolute path: " ++ text
  | .zeroCharacter => "Value error, embedded null byte"
  | .unknownSetting => "Extra inputs are not permitted"

end IssueKind

/-- A step on the way to a setting: the name of a member or the number of an item. -/
inductive SettingStep
  | member (name : String)
  | item (index : Nat)
deriving DecidableEq

/-- The text of a step. -/
def SettingStep.text : SettingStep → String
  | .member name => name
  | .item index => Decimal.text index

/-- Something wrong with a setting: what, where, and the value found there. -/
structure Issue where
  kind : IssueKind
  place : List SettingStep
  input : Value

/-- The place of an issue, its steps joined by dots. -/
def Issue.placeText (i : Issue) : String :=
  ".".intercalate (i.place.map SettingStep.text)

/-- An issue with a value that lies one step further down. -/
def Issue.under (step : SettingStep) (i : Issue) : Issue :=
  { i with place := step :: i.place }

/-- The message when a path names a home directory that does not exist. -/
def homelessMessage : String :=
  "Could not determine home directory."

/-- What checking a value comes to. -/
inductive Checked (α : Type)
  /-- The value is accepted. -/
  | accepted (a : α)
  /-- The value has at least one issue. -/
  | rejected (first : Issue) (others : List Issue)
  /-- The check was broken off, because a path names a home directory that does not exist. -/
  | homeless

namespace Checked

variable {α β : Type}

/-- An issue with the value itself. -/
def issue (kind : IssueKind) (input : Value) : Checked α :=
  .rejected ⟨kind, [], input⟩ []

/-- A check that comes to issues, if there are any, and to a value otherwise. -/
def ofIssues (a : α) : List Issue → Checked α
  | [] => .accepted a
  | first :: others => .rejected first others

/-- What an accepted value is turned into. -/
def map (f : α → β) : Checked α → Checked β
  | .accepted a => .accepted (f a)
  | .rejected first others => .rejected first others
  | .homeless => .homeless

/-- A further check of an accepted value. -/
def andThen (c : Checked α) (f : α → Checked β) : Checked β :=
  match c with
  | .accepted a => f a
  | .rejected first others => .rejected first others
  | .homeless => .homeless

/-- Two checks side by side: both values, or the issues of both, those of the first one in front. A
check that was broken off breaks off both. -/
def both (c : Checked (α → β)) (d : Checked α) : Checked β :=
  match c, d with
  | .homeless, _ => .homeless
  | _, .homeless => .homeless
  | .accepted f, .accepted a => .accepted (f a)
  | .accepted _, .rejected first others => .rejected first others
  | .rejected first others, .accepted _ => .rejected first others
  | .rejected first others, .rejected next more => .rejected first (others ++ next :: more)

/-- A check of a value that lies one step further down. -/
def under (step : SettingStep) : Checked α → Checked α
  | .accepted a => .accepted a
  | .rejected first others => .rejected (first.under step) (others.map (Issue.under step))
  | .homeless => .homeless

end Checked

end Enclosure
