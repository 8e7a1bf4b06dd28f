import Allowlist.Yaml.Token

/-! # Nodes of YAML

The tree of a YAML document. An anchor gives a node a slot by which aliases name it: the slot is
the number of names that are known when the anchor is set, and the last node of a slot is what its
aliases stand for, wherever they are. -/

namespace Allowlist.Yaml

/-- A node of a document. -/
inductive Node
  | scalar (tag : Option String) (style : Style) (text : String)
  | sequence (items : List Node)
  | mapping (entries : List (Node × Node))
  | alias (slot : Nat)
  deriving Inhabited, Repr

namespace Node

/-- A scalar of which nothing is written. -/
def empty : Node := .scalar none .plain ""

mutual

/-- The number of scalars, aliases, and starts and ends of collections. -/
def size : Node → Nat
  | .scalar _ _ _ => 1
  | .alias _ => 1
  | .sequence items => itemsSize items + 2
  | .mapping entries => entriesSize entries + 2

def itemsSize : List Node → Nat
  | [] => 0
  | v :: rest => size v + itemsSize rest

def entriesSize : List (Node × Node) → Nat
  | [] => 0
  | (k, v) :: rest => size k + size v + entriesSize rest

end

end Node

/-- A document: its node, if anything is written, and the nodes that aliases stand for. -/
structure Document where
  root : Option Node
  targets : List (Nat × Node)

end Allowlist.Yaml
