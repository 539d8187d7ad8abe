import Enclosure.Json.Reader
import Enclosure.Text.LowerCase
import Enclosure.Value.Merge

/-!
# Settings in the environment

An environment variable sets a group of settings as JSON, or one setting of a group as a text. How
variables are named can be chosen; unless something else is chosen, two underscores separate the
parts of a name, and its letter case does not matter. Of two variables with the same name the later
one counts. JSON is only read, and only merged with single settings, as long as its parts do not lie
within each other too often.
-/

set_option autoImplicit false

namespace Enclosure

/-- Environment variables, in the order in which they were set. -/
abbrev Environment :=
  List (String × String)

/-- A group of settings that variables may set. -/
structure VariableGroup where
  name : String
  members : List String
  /-- The members whose variables hold JSON. -/
  jsonMembers : List String

namespace VariableGroup

/-- The settings of the log. -/
def logging : VariableGroup :=
  ⟨"logging", ["level", "outputs"], ["outputs"]⟩

/-- The settings of resolving cursors. -/
def resolver : VariableGroup :=
  ⟨"resolver", ["language", "note_separator", "accept_partial_trees", "max_file_size_kb"], []⟩

/-- All groups, in order. -/
def all : List VariableGroup :=
  [logging, resolver]

end VariableGroup

/-- How environment variables that set something are named and read. -/
structure VariableNaming where
  /-- What their names start with. -/
  start : String
  /-- What separates the parts of a name; if it is empty, names have no parts. -/
  separator : String
  /-- How many times the rest of a name after the group is separated at most; any number of times
  if there is no limit. -/
  limit : Option Nat
  isCaseSensitive : Bool
  /-- Whether an empty variable counts as one that is not set. -/
  ignoresEmpty : Bool
  /-- The text that stands for null, if there is one. -/
  nullText : Option String

namespace VariableNaming

/-- How variables are named unless something else is chosen. -/
def default : VariableNaming :=
  ⟨"CODESCOPE__", "__", none, false, false, none⟩

/-- A name in the letter case in which names are compared. -/
def fold (naming : VariableNaming) (name : String) : String :=
  if naming.isCaseSensitive then name else LowerCase.lower name

/-- The name of the variable for a whole group. -/
def groupVariable (naming : VariableNaming) (g : VariableGroup) : String :=
  naming.fold (naming.start ++ g.name)

/-- The pieces of a text between separators, at most `limit` of which count. The first `skipped`
characters are the rest of a separator. -/
def pieces (separator : List Char) : Option Nat → Nat → List Char → List (List Char)
  | _, _, [] => [[]]
  | limit, skipped + 1, _ :: rest => pieces separator limit skipped rest
  | limit, 0, c :: rest =>
    if limit ≠ some 0 ∧ separator.isPrefixOf (c :: rest) then
      [] :: pieces separator (limit.map (· - 1)) (separator.length - 1) rest
    else
      match pieces separator limit 0 rest with
      | [] => [[c]]
      | piece :: more => (c :: piece) :: more

/-- The way to the setting that a variable sets in a group, if it sets one. -/
def path? (naming : VariableNaming) (g : VariableGroup) (name : String) : Option (List String) :=
  let start := (naming.groupVariable g ++ naming.separator).toList
  if naming.separator ≠ "" ∧ start.isPrefixOf name.toList then
    let rest := name.toList.drop start.length
    some ((pieces naming.separator.toList naming.limit 0 rest).map String.ofList)
  else none

end VariableNaming

namespace Environment

/-- Set a variable; one that is set already keeps its place. -/
def put (name value : String) : Environment → Environment
  | [] => [(name, value)]
  | (n, v) :: rest => if n = name then (n, value) :: rest else (n, v) :: put name value rest

/-- The variables that count, with their names as they are compared. -/
def folded (naming : VariableNaming) (env : Environment) : Environment :=
  let counting := env.filter fun v => !(naming.ignoresEmpty && v.2.isEmpty)
  counting.foldl (fun seen v => put (naming.fold v.1) v.2 seen) []

/-- The value of a variable. -/
def value? (env : Environment) (name : String) : Option String :=
  (env.find? fun v => v.1 = name).map Prod.snd

/-- Change what lies at the end of a way through mappings, making those that are not there. What is
no mapping stands in the way and stays. -/
def assign (change : Option Value → Value) : List String → Entries → Entries
  | [], entries => entries
  | [last], entries => Entries.alter (.str last) change entries
  | key :: next :: rest, entries =>
    let enter : Option Value → Value
      | none => .map (assign change (next :: rest) [])
      | some (.map inner) => .map (assign change (next :: rest) inner)
      | some other => other
    Entries.alter (.str key) enter entries

/-- Null in the place of nothing and of an empty mapping; other values stay. -/
def weakNull : Option Value → Value
  | none => .null
  | some (.map []) => .null
  | some v => v

/-- What a variable makes of what lies at the end of a way: it puts a value there, JSON for some
members, unless it is empty, and a text otherwise. -/
def changeAt (levels : Nat) (naming : VariableNaming) (g : VariableGroup) (path : List String)
    (text : String) : Except Json.Fault (Option Value → Value) :=
  let readsJson := path.length = 1 && path.any g.jsonMembers.contains && !text.isEmpty
  if readsJson then (Json.read levels text).map fun v _ => v
  else if naming.nullText = some text then .ok weakNull
  else .ok fun _ => .str text

/-- Take in one variable, if it sets a member of a group. -/
def addMember (levels : Nat) (naming : VariableNaming) (g : VariableGroup) (entries : Entries)
    (v : String × String) : Except Json.Fault Entries :=
  match naming.path? g v.1 with
  | none => .ok entries
  | some path =>
    (changeAt levels naming g path v.2).map fun change => assign change path entries

/-- The settings that variables set one by one. -/
def members (levels : Nat) (naming : VariableNaming) (g : VariableGroup) (env : Environment) :
    Except Json.Fault Entries :=
  env.foldlM (addMember levels naming g) []

/-- The name of a member that a key denotes in any letter case, or the key itself. -/
def memberName (g : VariableGroup) (key : Value) : Value :=
  match key with
  | .str s => .str ((g.members.find? fun m => m = LowerCase.lower s).getD s)
  | key => key

/-- Entries under the names of the members, where letter case does not matter. -/
def renamed (naming : VariableNaming) (g : VariableGroup) (entries : Entries) : Entries :=
  if naming.isCaseSensitive then entries
  else Entries.ofPairs (entries.map fun e => (memberName g e.1, e.2))

/-- What single variables set in a group, merged into the value that a variable gives for the whole
group. A group that is no mapping takes no members, and null counts as no value. -/
def withMembers (levels : Nat) (naming : VariableNaming) (g : VariableGroup) (env : Environment) :
    Value → Except Json.Fault (Option Value)
  | .null => .ok none
  | .map entries => do
    let es ← members levels naming g env
    match Entries.merge? levels entries es with
    | some merged => return some (.map (renamed naming g merged))
    | none => throw .tooDeep
  | v => .ok (some v)

/-- What variables with folded names set in a group: no fault and no value when they set nothing. -/
def groupValue (levels : Nat) (naming : VariableNaming) (g : VariableGroup) (env : Environment) :
    Except Json.Fault (Option Value) :=
  match env.value? (naming.groupVariable g) with
  | none => do
    let es ← members levels naming g env
    return if es.isEmpty then none else some (.map (renamed naming g es))
  | some text =>
    if naming.nullText = some text then .ok (some .null)
    else do withMembers levels naming g env (← Json.read levels text)

end Environment

/-- Why the environment cannot be read. -/
inductive VariableFault
  /-- A variable does not hold JSON where a group of settings needs it. -/
  | misstated (group : String)
  /-- What a variable holds lies within itself too often. -/
  | tooDeep
deriving DecidableEq

/-- The fault of the environment that a fault in the JSON of a group is. -/
def VariableFault.ofJson (group : String) : Json.Fault → VariableFault
  | .malformed => .misstated group
  | .tooDeep => .tooDeep

namespace Environment

/-- What variables set in some groups, or what is wrong with the first group at fault. -/
def groupValues (levels : Nat) (naming : VariableNaming) (env : Environment) :
    List VariableGroup → Except VariableFault Entries
  | [] => .ok []
  | g :: rest => do
    let v ← (groupValue levels naming g env).mapError (.ofJson g.name)
    let entries ← groupValues levels naming env rest
    return (v.map fun v => (Value.str g.name, v)).toList ++ entries

/-- What the environment sets. -/
def entries (levels : Nat) (naming : VariableNaming) (env : Environment) :
    Except VariableFault Entries :=
  groupValues levels naming (env.folded naming) VariableGroup.all

end Environment

end Enclosure
