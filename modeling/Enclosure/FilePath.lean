/-!
# Paths

A path is kept in normal form: how it is rooted, and its parts without empty ones and single dots.
Two dots stay, since what they mean depends on the file system. Exactly two slashes in front are a
root of their own; any other number counts as one.
-/

set_option autoImplicit false

namespace Enclosure

/-- How a path is rooted. -/
inductive PathRoot
  | relative
  | single
  | double
deriving DecidableEq

/-- The text of a root. -/
def PathRoot.chars : PathRoot → List Char
  | .relative => []
  | .single => ['/']
  | .double => ['/', '/']

/-- A path in normal form. -/
structure FilePath where
  root : PathRoot
  parts : List (List Char)
deriving DecidableEq

namespace FilePath

/-- The pieces of a text between slashes. -/
def pieces (cs : List Char) : List (List Char) :=
  cs.foldr (fun c ps =>
    if c = '/' then [] :: ps
    else
      match ps with
      | [] => [[c]]
      | p :: rest => (c :: p) :: rest) [[]]

/-- Whether a piece of a path counts: an empty one and a single dot do not. -/
def counts (piece : List Char) : Bool :=
  piece ≠ [] ∧ piece ≠ ['.']

/-- The root that a text starts with. -/
def rootOf : List Char → PathRoot
  | '/' :: '/' :: '/' :: _ => .single
  | '/' :: '/' :: _ => .double
  | '/' :: _ => .single
  | _ => .relative

/-- The path of a list of characters. -/
def ofChars (cs : List Char) : FilePath :=
  ⟨rootOf cs, (pieces cs).filter counts⟩

/-- The path of a text. -/
def ofText (text : String) : FilePath :=
  ofChars text.toList

/-- The characters of a path; an empty relative path is a single dot. -/
def chars (p : FilePath) : List Char :=
  match p.root, p.parts with
  | .relative, [] => ['.']
  | root, parts => root.chars ++ ['/'].intercalate parts

/-- The text of a path. -/
def text (p : FilePath) : String :=
  String.ofList p.chars

/-- Whether a path starts at a root. -/
def isAbsolute (p : FilePath) : Bool :=
  p.root ≠ .relative

/-- A path that continues another one; an absolute path stands for itself. -/
def join (p q : FilePath) : FilePath :=
  if q.isAbsolute then q else ⟨p.root, p.parts ++ q.parts⟩

/-- The path without its last part. -/
def parent (p : FilePath) : FilePath :=
  ⟨p.root, p.parts.dropLast⟩

/-- The last part of a path. -/
def name (p : FilePath) : List Char :=
  p.parts.getLast?.getD []

/-- The part of a name from its last dot on, none when that dot is the first or the last character
of the name. -/
def suffixOf (name : List Char) : List Char :=
  let tail := (name.reverse.takeWhile (· ≠ '.')).reverse
  let dot := name.length - tail.length
  if 1 < dot ∧ tail ≠ [] then '.' :: tail else []

/-- The suffix of the last part of a path. -/
def suffix (p : FilePath) : List Char :=
  suffixOf p.name

end FilePath

/-- Where the home directories of users are: of the user who is running the program, and of others
by their names. -/
structure Homes where
  own : String
  others : List (String × String)

/-- Why the home directory of a user is not found. -/
inductive HomeFault
  /-- There is no user of the name, or what is given as the home starts with a tilde itself. -/
  | unknown
  /-- The character zero is in the name of the user. -/
  | zeroCharacter
deriving DecidableEq

namespace Homes

/-- The text that is given for the home of a user; an empty name stands for the user who is running
the program. -/
def find (homes : Homes) (user : List Char) : Except HomeFault String :=
  if user = [] then .ok homes.own
  else if user.contains '\x00' then .error .zeroCharacter
  else
    match homes.others.find? fun h => h.1 = String.ofList user with
    | some h => .ok h.2
    | none => .error .unknown

/-- The home directory of a user. Slashes at the end of its text do not count; if nothing else is in
it, it is the root. -/
def directory (homes : Homes) (user : List Char) : Except HomeFault FilePath := do
  let cs := ((← homes.find user).toList.reverse.dropWhile (· = '/')).reverse
  if cs.head? = some '~' then throw .unknown
  else return if cs = [] then ⟨.single, []⟩ else .ofChars cs

end Homes

namespace FilePath

/-- A path with a home directory in the place of a first part that starts with a tilde. -/
def expand (homes : Homes) (p : FilePath) : Except HomeFault FilePath :=
  match p.root, p.parts with
  | .relative, ('~' :: user) :: rest => do
    let base ← homes.directory user
    return ⟨base.root, base.parts ++ rest⟩
  | _, _ => .ok p

end FilePath

end Enclosure
