import Enclosure.Number.Binary64

/-!
# Values

The values that configuration files, environment variables and log records carry: scalars and
collections. A mapping keeps its entries in the order in which their keys came, and two keys are the
same key when they denote the same thing: `1`, `true` and `1.0` are one key. A collection may lie
within itself; it then has a label, which stands in its place there.
-/

set_option autoImplicit false

namespace Enclosure

/-- A day of the calendar. -/
structure Date where
  year : Nat
  month : Nat
  day : Nat
deriving DecidableEq

/-- A moment: a day, the time of day to the microsecond, and the offset from universal time in
seconds if one is known. -/
structure Timestamp where
  date : Date
  hour : Nat
  minute : Nat
  second : Nat
  microsecond : Nat
  offset : Option Int
deriving DecidableEq

/-- The number of days from the first of March of the year 0 to a day. Years that start in March
have their leap day at the end. -/
def Date.marchDays (d : Date) : Nat :=
  let year := if d.month < 3 then d.year - 1 else d.year
  let month := (d.month + 9) % 12
  365 * year + year / 4 - year / 100 + year / 400 + (153 * month + 2) / 5 + d.day - 1

/-- The microseconds in universal time from the first of March of the year 0 to a moment with an
offset. -/
def Timestamp.instant (t : Timestamp) (offset : Int) : Int :=
  let seconds : Int := 86400 * t.date.marchDays + 3600 * t.hour + 60 * t.minute + t.second
  1000000 * (seconds - offset) + t.microsecond

/-- What tells apart the collections that lie within themselves: the number of a collection, and of
a part of it. -/
structure Label where
  collection : Nat
  part : Nat
deriving DecidableEq

/-- A value of a configuration file, an environment variable or a log record. -/
inductive Value
  | null
  | bool (b : Bool)
  | int (i : Int)
  | float (x : Binary64)
  | str (s : String)
  | date (d : Date)
  | timestamp (t : Timestamp)
  | bytes (bs : List UInt8)
  | list (items : List Value)
  | map (entries : List (Value × Value))
  /-- A set, in the order in which its members came. -/
  | set (members : List Value)
  | pair (first second : Value)
  /-- A collection that lies within itself. -/
  | knot (label : Label) (body : Value)
  /-- The collection with a label, inside of it. -/
  | again (label : Label)

/-- The entries of a mapping, in the order in which their keys came. -/
abbrev Entries :=
  List (Value × Value)

/-- What a key denotes. Truth values and whole floating-point numbers denote integers, and times
with an offset denote instants; collections denote nothing and are no keys. -/
inductive KeyIdentity
  | null
  | int (i : Int)
  | float (x : Binary64)
  | str (s : String)
  | date (d : Date)
  | timestamp (t : Timestamp)
  | instant (microseconds : Int)
  | bytes (bs : List UInt8)
  | compound
deriving DecidableEq

namespace Value

/-- What a value denotes as a key. -/
def identity : Value → KeyIdentity
  | .null => .null
  | .bool b => .int (if b then 1 else 0)
  | .int i => .int i
  | .float x =>
    match x.toInt? with
    | some i => .int i
    | none => .float x
  | .str s => .str s
  | .date d => .date d
  | .timestamp t =>
    match t.offset with
    | some offset => .instant (t.instant offset)
    | none => .timestamp t
  | .bytes bs => .bytes bs
  | .list _ | .map _ | .set _ | .pair .. | .knot .. | .again _ => .compound

/-- Whether a value may be a key. -/
def isKey (v : Value) : Bool :=
  v.identity != .compound

/-- Whether a value counts as nothing: null, false, zero, or empty. -/
def isEmpty : Value → Bool
  | .null => true
  | .bool b => !b
  | .int i => i == 0
  | .float x => x.isZero
  | .str s => s.isEmpty
  | .date _ => false
  | .timestamp _ => false
  | .bytes bs => bs.isEmpty
  | .list items => items.isEmpty
  | .map entries => entries.isEmpty
  | .set members => members.isEmpty
  | .pair .. | .knot .. | .again _ => false

/-- Whether a value is null. -/
def isNull : Value → Bool
  | .null => true
  | _ => false

/-- Whether a value is the floating-point value that is not a number. -/
def isNotNumber : Value → Bool
  | .float .nan => true
  | _ => false

/-- Whether a value is a text. -/
def isText : Value → Bool
  | .str _ => true
  | _ => false

mutual

/-- A value with another one in the place of a label. -/
def fill (label : Label) (whole : Value) : Value → Value
  | .again l => if l = label then whole else .again l
  | .knot l body => if l = label then .knot l body else .knot l (fill label whole body)
  | .list items => .list (fillItems label whole items)
  | .map entries => .map (fillEntries label whole entries)
  | .pair first second => .pair (fill label whole first) (fill label whole second)
  | v => v

/-- Values with another one in the place of a label. -/
def fillItems (label : Label) (whole : Value) : List Value → List Value
  | [] => []
  | v :: rest => fill label whole v :: fillItems label whole rest

/-- Entries whose values have another one in the place of a label. -/
def fillEntries (label : Label) (whole : Value) : List (Value × Value) → List (Value × Value)
  | [] => []
  | (k, v) :: rest => (k, fill label whole v) :: fillEntries label whole rest

end

/-- A value whose outermost collection can be looked at: one that lies within itself is put there
as a whole. -/
def opened : Value → Value
  | .knot label body => fill label (.knot label body) body
  | v => v

/-- Whether a value is a mapping. -/
def IsMapping (v : Value) : Prop :=
  ∃ entries, v.opened = .map entries

instance (v : Value) : Decidable v.IsMapping :=
  match h : v.opened with
  | .map entries => isTrue ⟨entries, h⟩
  | .null | .bool _ | .int _ | .float _ | .str _ | .date _ | .timestamp _ | .bytes _ | .list _
  | .set _ | .pair _ _ | .knot _ _ | .again _ => isFalse fun ⟨_, hmap⟩ => by
    rw [h] at hmap
    cases hmap

/-- A mapping is one as it is. -/
theorem isMapping_map (entries : List (Value × Value)) : (Value.map entries).IsMapping :=
  ⟨entries, rfl⟩

/-- A mapping with text keys. -/
def object (fields : List (String × Value)) : Value :=
  .map (fields.map fun f => (.str f.1, f.2))

end Value

namespace Entries

/-- The value under a key. -/
def get? (key : Value) : Entries → Option Value
  | [] => none
  | (k, v) :: rest => if k.identity = key.identity then some v else get? key rest

/-- The value under a text key. -/
def field? (entries : Entries) (name : String) : Option Value :=
  get? (.str name) entries

/-- Change the value under a key, or put one under it after all others. A key that is there stays
as it is. -/
def alter (key : Value) (change : Option Value → Value) : Entries → Entries
  | [] => [(key, change none)]
  | (k, v) :: rest =>
    if k.identity = key.identity then (k, change (some v)) :: rest
    else (k, v) :: alter key change rest

/-- Put a value under a key. -/
def insert (key value : Value) (entries : Entries) : Entries :=
  alter key (fun _ => value) entries

/-- Put values under keys, one after the other. -/
def insertAll (pairs : List (Value × Value)) (entries : Entries) : Entries :=
  pairs.foldl (fun entries p => insert p.1 p.2 entries) entries

/-- The entries that a list of pairs gives, a later pair replacing the value of an earlier one. -/
def ofPairs (pairs : List (Value × Value)) : Entries :=
  insertAll pairs []

/-- The keys, in order. -/
def keys (entries : Entries) : List Value :=
  entries.map Prod.fst

end Entries

end Enclosure
