import Enclosure.FilePath
import Enclosure.Text.Utf8

/-!
# Files

A snapshot of a file system: directories and files by where they lie, with a working directory from
which relative paths start. A path is followed part by part, so that two dots and parts below a file
mean what they mean in a file system.
-/

set_option autoImplicit false

namespace Enclosure

/-- What lies at a place of a file system. -/
inductive FileEntry
  | directory
  | file (content : List UInt8)

/-- The size that a file system reports: of a file its length, of a directory one block. -/
def FileEntry.size : FileEntry → Nat
  | .directory => 4096
  | .file content => content.length

/-- The way from the root of a file system to a place in it. -/
abbrev Location :=
  List (List Char)

/-- A snapshot of a file system. -/
structure Files where
  entries : List (Location × FileEntry)
  working : Location

/-- What is wrong with a path by itself, whatever lies in the file system. -/
inductive PathFault
  /-- It holds the character that ends texts in a file system. -/
  | zeroCharacter
  /-- It is longer than paths may be, or a name in it is longer than names may be. -/
  | tooLong
deriving DecidableEq

/-- Why there is nothing at a path. -/
inductive LookupFailure
  /-- Nothing lies there. -/
  | missing
  /-- The path leads through a file. -/
  | throughFile
  /-- Nothing can lie there. -/
  | invalid (fault : PathFault)
deriving DecidableEq

namespace FilePath

/-- Whether a name is longer than names may be. -/
def isLongName (name : List Char) : Bool :=
  255 < Utf8.byteCount name

/-- Whether a path holds the character that ends texts in a file system. -/
def hasZero (p : FilePath) : Bool :=
  p.parts.any fun part => part.contains '\x00'

/-- What is wrong with a path as a whole, if something is. -/
def fault? (p : FilePath) : Option PathFault :=
  if p.hasZero then some .zeroCharacter
  else if 4095 < Utf8.byteCount p.chars then some .tooLong
  else none

end FilePath

namespace Files

/-- What lies at a location. The root is always a directory. -/
def entry? (f : Files) (l : Location) : Option FileEntry :=
  if l = [] then some .directory
  else (f.entries.find? fun e => e.1 = l).map Prod.snd

/-- Follow the parts of a path from a location. A name is only looked at in a directory. -/
def follow (f : Files) (here : Location) : List (List Char) → Except LookupFailure Location
  | [] => .ok here
  | part :: rest =>
    match f.entry? here with
    | none => .error .missing
    | some (.file _) => .error .throughFile
    | some .directory =>
      if part = ['.', '.'] then follow f here.dropLast rest
      else if FilePath.isLongName part then .error (.invalid .tooLong)
      else follow f (here ++ [part]) rest

/-- Where following a path starts. -/
def startOf (f : Files) (p : FilePath) : Location :=
  if p.isAbsolute then [] else f.working

/-- What lies at a path. -/
def lookup (f : Files) (p : FilePath) : Except LookupFailure FileEntry :=
  match p.fault? with
  | some fault => .error (.invalid fault)
  | none =>
    match f.follow (f.startOf p) p.parts with
    | .error e => .error e
    | .ok l =>
      match f.entry? l with
      | some e => .ok e
      | none => .error .missing

/-- Put something at a location, in place of what lies there. -/
def put (f : Files) (l : Location) (e : FileEntry) : Files :=
  { f with entries := (l, e) :: f.entries.filter fun x => x.1 ≠ l }

/-- Why a directory could not be made. -/
inductive DirectoryFailure
  /-- A file lies where the directory would be. -/
  | occupied
  /-- The path leads through a file. -/
  | throughFile
  /-- There can be no such directory. -/
  | invalid (fault : PathFault)
deriving DecidableEq

/-- Make the directories along a path from a location on, as far as they are not there. -/
def makeAlong (f : Files) (here : Location) :
    List (List Char) → Except DirectoryFailure (Files × Location)
  | [] => .ok (f, here)
  | part :: rest =>
    if part = ['.', '.'] then makeAlong f here.dropLast rest
    else if FilePath.isLongName part then .error (.invalid .tooLong)
    else
      let next := here ++ [part]
      match f.entry? next with
      | some .directory => makeAlong f next rest
      | some (.file _) => .error (if rest.isEmpty then .occupied else .throughFile)
      | none => makeAlong (f.put next .directory) next rest

/-- Make a directory and the ones above it. -/
def makeDirectories (f : Files) (p : FilePath) : Except DirectoryFailure (Files × Location) :=
  match p.fault? with
  | some fault => .error (.invalid fault)
  | none => f.makeAlong (f.startOf p) p.parts

end Files

end Enclosure
