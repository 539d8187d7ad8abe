import Enclosure.Command.Usage
import Enclosure.CursorRange
import Enclosure.Files
import Enclosure.Number.Positive
import Enclosure.Text.Digit

/-!
# Requests to resolve a cursor

What the arguments of the command ask for. The arguments are looked at in the order in which they
were given, and the first one that does not fit counts.
-/

set_option autoImplicit false

namespace Enclosure

/-- What is to be resolved, and how the answer is to be written. Lines and columns are counted from
one, as editors show them. -/
structure ResolveRequest where
  path : String
  line : Positive
  column : Positive
  endLine : Option Positive
  endColumn : Option Positive
  config : Option String
  json : Bool

namespace ResolveRequest

/-- Where the selection was started. -/
def anchor (r : ResolveRequest) : Position :=
  ⟨r.line.index, r.column.index⟩

/-- Where the selection was ended. -/
def head (r : ResolveRequest) : Position :=
  ⟨(r.endLine.getD r.line).index, (r.endColumn.getD r.column).index⟩

/-- The range of the selection. -/
def range (r : ResolveRequest) : CursorRange :=
  .ofSelection r.anchor r.head

end ResolveRequest

/-- What lies at a path as it is written. A path that ends with a slash or with a single dot names a
directory or nothing. -/
def Files.lookupText (files : Files) (text : String) : Except LookupFailure FileEntry :=
  let pieces := FilePath.pieces text.toList
  let bare := pieces.getLast?.any FilePath.counts
  match files.lookup (.ofText text) with
  | .ok .directory => if text = "" then .error .missing else .ok .directory
  | .ok (.file content) => if bare then .ok (.file content) else .error .throughFile
  | .error e => .error e

/-- Why arguments make no request. -/
inductive RequestFault
  /-- An argument does not fit. -/
  | usage (fault : UsageFault)
  /-- A path holds the character that ends texts in a file system. -/
  | zeroInPath
deriving DecidableEq

/-- Arguments for resolving a cursor. -/
abbrev ResolveArguments :=
  Arguments ResolveOption

namespace ResolveArguments

/-- The coordinate that a text gives. -/
def coordinateOf (o : ResolveOption) (text : String) : Except UsageFault Positive :=
  match Digit.integer 10 text with
  | .error _ => .error (.notInteger o text)
  | .ok i =>
    match Positive.ofInt? i with
    | some n => .ok n
    | none => .error (.outOfRange o i)

/-- A coordinate, if it was given. -/
def coordinate (a : ResolveArguments) (o : ResolveOption) : Except UsageFault (Option Positive) :=
  match a.value? o with
  | none => .ok none
  | some text => (coordinateOf o text).map some

/-- The line, which must be given. -/
def line (a : ResolveArguments) : Except UsageFault Positive := do
  match ← a.coordinate .line with
  | some c => return c
  | none => throw (.missingOption .line)

/-- The path, which must be given and name a file. -/
def path (files : Files) (a : ResolveArguments) : Except RequestFault String :=
  match a.positional with
  | [] => .error (.usage .missingPath)
  | text :: _ =>
    match files.lookupText text with
    | .error (.invalid .zeroCharacter) => .error .zeroInPath
    | .error _ => .error (.usage (.noFile .path text))
    | .ok .directory => .error (.usage (.directory .path text))
    | .ok (.file _) => .ok text

/-- The configuration file, if one was given; it must not be a directory. -/
def config (files : Files) (a : ResolveArguments) : Except RequestFault (Option String) :=
  match a.value? .config with
  | none => .ok none
  | some text =>
    match files.lookupText text with
    | .error (.invalid .zeroCharacter) => .error .zeroInPath
    | .ok .directory => .error (.usage (.directory (.option .config) text))
    | _ => .ok (some text)

/-- What is wrong with an argument, if something is. -/
def faultOf {ε α : Type} : Except ε α → Option ε
  | .ok _ => none
  | .error e => some e

/-- What is wrong with the argument for a parameter. -/
def fault? (files : Files) (a : ResolveArguments) : Parameter → Option RequestFault
  | .path => faultOf (a.path files)
  | .option .line => (faultOf a.line).map .usage
  | .option .config => faultOf (a.config files)
  | .option .json => none
  | .option .help => none
  | .option o => (faultOf (a.coordinate o)).map .usage

/-- The parameters in the order in which they are looked at: the options given, the path, and the
options not given. -/
def order (a : ResolveArguments) : List Parameter :=
  let others := ResolveOption.specs.map fun s => Parameter.option s.key
  (a.keys.map Parameter.option ++ .path :: others).eraseDups

/-- What arguments ask for. -/
def request (files : Files) (a : ResolveArguments) : Except RequestFault ResolveRequest := do
  match a.order.findSome? (a.fault? files) with
  | some fault => throw fault
  | none =>
    if 1 < a.positional.length then throw (.usage (.extraArguments a.positional.tail))
    return {
      path := ← a.path files
      line := ← a.line.mapError .usage
      column := (← (a.coordinate .column).mapError .usage).getD .one
      endLine := ← (a.coordinate .endLine).mapError .usage
      endColumn := ← (a.coordinate .endColumn).mapError .usage
      config := ← a.config files
      json := a.has .json }

end ResolveArguments

end Enclosure
