import CallForest.Forest.Grove
import CallForest.Graph.Basic

/-! # Forests

The branching that a call graph is drawn as: a forest whose nodes are numbered in preorder. Each
node is a copy of a function and has at most one parent, so each call path is a branch of its own.

* `BranchNode`, `Forest`: numbered nodes and the forest of a region.
* `Grove.number`, `Forest.ofGrove`: the numbering, which turns an ordered list of trees into a
  forest.
* `Forest.applyAttributes`: gives every copy the attributes of its function.
* `Forest.pathTo?`, `Forest.copiesOf`, `Forest.edges`, `Forest.edgeCount`: the views. -/

namespace CallForest

/-- A node of a forest: a copy of a function. -/
structure BranchNode where
  /-- The number of the node, its position in the forest. -/
  id : Nat
  /-- The function that the node is a copy of. -/
  source : String
  /-- The node above, unless this one is a root. -/
  parent : Option Nat
  /-- The nodes right below, first to last. -/
  children : List Nat
  /-- The distance from the root of its tree. -/
  depth : Nat
  /-- How the copy is drawn. -/
  attributes : Attributes
  deriving DecidableEq, Repr

/-- The **forest** that the call graph of a region expands into. -/
structure Forest where
  /-- The region that the forest is drawn for. -/
  region : String
  /-- The nodes, by number. -/
  nodes : List BranchNode
  /-- The numbers of the roots, first to last. -/
  roots : List Nat
  deriving DecidableEq, Repr

/-! ## Numbering -/

namespace Grove

/-- The numbers of the roots, when the first tree is numbered from `start`. -/
def starts (start : Nat) : Grove → List Nat
  | bare => []
  | plant _ below next => start :: next.starts (start + 1 + below.size)

/-- The nodes in preorder, numbered from `start`, as the children of `parent` at a given depth. Each
node is drawn plainly. -/
def number (start : Nat) (parent : Option Nat) (depth : Nat) : Grove → List BranchNode
  | bare => []
  | plant source below next =>
    ⟨start, source, parent, below.starts (start + 1), depth, .plain source⟩ ::
      (below.number (start + 1) (some start) (depth + 1) ++
        next.number (start + 1 + below.size) parent depth)

end Grove

namespace Forest

/-- The forest without nodes. -/
def empty (region : String) : Forest := ⟨region, [], []⟩

/-- The forest of an ordered list of trees, numbered from zero. -/
def ofGrove (region : String) (grove : Grove) : Forest :=
  ⟨region, grove.number 0 none 0, grove.starts 0⟩

/-! ## Views -/

/-- The number of nodes. -/
def size (forest : Forest) : Nat := forest.nodes.length

/-- Whether there is no node. -/
def isEmpty (forest : Forest) : Bool := forest.nodes.isEmpty

/-- The number of nodes that have a parent. -/
def edgeCount (forest : Forest) : Nat := forest.nodes.countP (·.parent.isSome)

/-- Pairs of a node and its child, by node and then by child. -/
def edges (forest : Forest) : List (Nat × Nat) :=
  forest.nodes.flatMap fun node => node.children.map fun child => (node.id, child)

/-- The number of copies of a function. -/
def copiesOf (forest : Forest) (id : String) : Nat := forest.nodes.countP (·.source = id)

/-- The functions from a root down to a node, root first. A chain of parents counts only as far as
every parent stands before its child, as the numbering has it; `none` when the chain does not lead
to a root that way, in particular when the node does not exist. -/
def pathTo? (forest : Forest) (id : Nat) : Option (List String) :=
  match forest.nodes[id]? with
  | none => none
  | some node =>
    match node.parent with
    | none => some [node.source]
    | some parent =>
      if parent < id then (forest.pathTo? parent).map (· ++ [node.source]) else none
termination_by id

/-! ## Attributes -/

/-- Gives every copy the attributes of its function in a call graph. A copy of a function that has
no node there keeps its own. -/
def applyAttributes (forest : Forest) (graph : CallGraph) : Forest :=
  { forest with nodes := forest.nodes.map fun node =>
      match graph.node? node.source with
      | some function => { node with attributes := function.attributes }
      | none => node }

end Forest

end CallForest
