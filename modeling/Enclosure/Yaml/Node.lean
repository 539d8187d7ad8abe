/-!
# Nodes of YAML documents

The content of a document before its scalars are read as values: scalars as text, sequences and
mappings, each with the type that its tag gives it. Nodes are known by their numbers, because an
alias makes one node stand in several places, even within itself.
-/

set_option autoImplicit false

namespace Enclosure.Yaml

/-- The type of a node. -/
inductive Tag
  | null
  | bool
  | int
  | float
  | timestamp
  | binary
  | str
  | seq
  | map
  /-- A set, written as a mapping whose values do not count. -/
  | set
  /-- Pairs in order, written as a sequence of mappings of one entry. -/
  | omap
  /-- Pairs in order, of which some may have the same first part. -/
  | pairs
  /-- The key under which mappings are merged into the present one. -/
  | merge
  /-- The key under which a mapping keeps the scalar that it stands for. -/
  | default
  /-- A type that has no values here. -/
  | unknown
deriving DecidableEq

namespace Tag

/-- The types by their names. -/
def names : List (String × Tag) := [
  ("null", .null), ("bool", .bool), ("int", .int), ("float", .float), ("timestamp", .timestamp),
  ("binary", .binary), ("str", .str), ("seq", .seq), ("map", .map), ("set", .set),
  ("omap", .omap), ("pairs", .pairs), ("merge", .merge), ("value", .default)]

/-- What the full names of the types start with. -/
def space : List Char :=
  "tag:yaml.org,2002:".toList

/-- Whether there are scalars of a type. -/
def hasScalars : Tag → Bool
  | .null | .bool | .int | .float | .timestamp | .binary | .str => true
  | _ => false

/-- The type that a full tag names. -/
def ofText (tag : List Char) : Tag :=
  ((names.find? fun n => space ++ n.1.toList = tag).map Prod.snd).getD .unknown

end Tag

/-- What a node holds. The nodes below it are given by their numbers. -/
inductive Content
  | scalar (text : List Char)
  | sequence (items : List Nat)
  | mapping (entries : List (Nat × Nat))

/-- A node of a document. -/
structure Node where
  tag : Tag
  content : Content

namespace Node

/-- The node that stands where nothing is written. -/
def absent : Node :=
  ⟨.null, .scalar []⟩

end Node

/-- The nodes of a document by their numbers. -/
structure Graph where
  nodes : Array Node

namespace Graph

/-- No nodes. -/
def empty : Graph :=
  ⟨#[]⟩

/-- The number that the next node gets. -/
def size (g : Graph) : Nat :=
  g.nodes.size

/-- The node with a number. -/
def node (g : Graph) (n : Nat) : Node :=
  g.nodes.getD n .absent

/-- The type of the node with a number. -/
def tag (g : Graph) (n : Nat) : Tag :=
  (g.node n).tag

/-- What the node with a number holds. -/
def content (g : Graph) (n : Nat) : Content :=
  (g.node n).content

/-- The entries of a mapping; other nodes have none. -/
def entries (g : Graph) (n : Nat) : List (Nat × Nat) :=
  match g.content n with
  | .mapping entries => entries
  | _ => []

/-- The nodes with one more. -/
def push (g : Graph) (node : Node) : Graph :=
  ⟨g.nodes.push node⟩

/-- The nodes with another content of the node with a number. -/
def setContent (g : Graph) (n : Nat) (content : Content) : Graph :=
  ⟨g.nodes.modify n fun node => { node with content := content }⟩

/-- The nodes with another type of the node with a number. -/
def setTag (g : Graph) (n : Nat) (tag : Tag) : Graph :=
  ⟨g.nodes.modify n fun node => { node with tag := tag }⟩

end Graph

end Enclosure.Yaml
