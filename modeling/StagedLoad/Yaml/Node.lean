import StagedLoad.Yaml.Token

/-!
# Nodes

A document before its scalars have values.  Every node has a tag, which says what its value is to
be, and a number, by which the nodes around it refer to it.  An alias is the number of the node that
it stands for, so that a node can be inside itself.
-/

namespace StagedLoad.Yaml

/-- What the value of a node is to be. -/
inductive Tag where
  | null
  | bool
  | int
  | float
  | binary
  | timestamp
  | text
  | list
  | map
  /-- A map that stands for its keys. -/
  | set
  /-- A list of maps with one entry each, which stand for pairs. -/
  | pairs
  /-- The key under which other maps are taken in. -/
  | merge
  /-- The key of the value of a map that is used as a scalar. -/
  | value
  /-- A tag that has no meaning here. -/
  | other
deriving DecidableEq, Repr, Inhabited

/-- What the tags of the language begin with. -/
def tagSpace : String := "tag:yaml.org,2002:"

/-- The tags of the language, each with the end of its address. -/
def tagNames : List (String × Tag) :=
  [("null", .null), ("bool", .bool), ("int", .int), ("float", .float), ("binary", .binary),
    ("timestamp", .timestamp), ("str", .text), ("seq", .list), ("map", .map), ("set", .set),
    ("omap", .pairs), ("pairs", .pairs), ("merge", .merge), ("value", .value)]

/-- The tag with the address. -/
def Tag.ofAddress (address : String) : Tag :=
  match tagNames.find? fun (name, _) => tagSpace ++ name == address with
  | some (_, tag) => tag
  | none => .other

/-- What the values with a tag are. -/
inductive Tag.Kind where
  | scalar
  | collection
  /-- There are no such values. -/
  | none
deriving DecidableEq, Repr

/-- What the values with the tag are. -/
def Tag.kind : Tag → Tag.Kind
  | list => .collection
  | map => .collection
  | set => .collection
  | pairs => .collection
  | merge => .none
  | value => .none
  | other => .none
  | _ => .scalar

/-- A node.  The nodes inside of it are given by their numbers. -/
inductive Node where
  | scalar (tag : Tag) (text : Text)
  | sequence (tag : Tag) (items : List Nat)
  | mapping (tag : Tag) (entries : List (Nat × Nat))
deriving DecidableEq, Inhabited

namespace Node

/-- The tag of the node. -/
def tag : Node → Tag
  | scalar t _ => t
  | sequence t _ => t
  | mapping t _ => t

/-- The node with another tag. -/
def withTag (t : Tag) : Node → Node
  | scalar _ text => scalar t text
  | sequence _ items => sequence t items
  | mapping _ entries => mapping t entries

/-- The numbers of the nodes inside of the node. -/
def parts : Node → List Nat
  | scalar _ _ => []
  | sequence _ items => items
  | mapping _ entries => entries.flatMap fun (k, v) => [k, v]

end Node

/-- The nodes of a document by their numbers, one of which is the outermost node. -/
structure Graph where
  nodes : Array Node
  root : Nat
deriving DecidableEq

end StagedLoad.Yaml
