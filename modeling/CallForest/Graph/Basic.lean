import CallForest.Graph.Attributes

/-! # Call graphs

The directed call graph of one region. Nodes are named by function ids and keep their order of
insertion, and so do the callees of a node; an edge is stored at most once. Every operation
therefore has one answer, and every traversal is reproducible.

* `CallGraph`: a region and its nodes in order of insertion.
* `CallGraph.ensureNode`, `CallGraph.setAttributes`, `CallGraph.addEdge`: the three operations.
* `CallGraph.node?`, `CallGraph.hasEdge`, `CallGraph.edges`, `CallGraph.roots`: the views.
* `GraphStep`, `CallGraph.ofHistory`: an operation as a value, and the graph that a history of
  operations leaves. -/

namespace CallForest

/-- A node of a call graph. -/
structure FunctionNode where
  /-- The function that the node stands for. -/
  id : String
  /-- How the function is drawn. -/
  attributes : Attributes
  /-- The functions it calls, in order of insertion. -/
  callees : List String
  deriving DecidableEq, Repr

/-- The **call graph** of one region. -/
structure CallGraph where
  /-- The region that the graph is drawn for. -/
  region : String
  /-- The nodes in order of insertion. -/
  nodes : List FunctionNode
  deriving DecidableEq, Repr

namespace CallGraph

/-- The graph of a region before anything is drawn. -/
def empty (region : String) : CallGraph := ⟨region, []⟩

/-! ## Views -/

/-- The ids of the nodes, in order of insertion. -/
def ids (graph : CallGraph) : List String := graph.nodes.map (·.id)

/-- The node of a function, if it has one. -/
def node? (graph : CallGraph) (id : String) : Option FunctionNode :=
  graph.nodes.find? (·.id = id)

/-- The position of a function's node, if it has one. -/
def index? (graph : CallGraph) (id : String) : Option Nat :=
  graph.nodes.findIdx? (·.id = id)

/-- The number of nodes. -/
def size (graph : CallGraph) : Nat := graph.nodes.length

/-- Whether nothing has been drawn. -/
def isEmpty (graph : CallGraph) : Bool := graph.nodes.isEmpty

/-- The functions that a function calls; none for a function without a node. -/
def callees (graph : CallGraph) (id : String) : List String :=
  ((graph.node? id).map (·.callees)).getD []

/-- Whether one function is drawn as calling another. -/
def hasEdge (graph : CallGraph) (caller callee : String) : Bool :=
  (graph.callees caller).contains callee

/-- All edges as pairs of caller and callee: by caller in order of insertion, then by callee. -/
def edges (graph : CallGraph) : List (String × String) :=
  graph.nodes.flatMap fun node => node.callees.map fun callee => (node.id, callee)

/-- The number of edges. -/
def edgeCount (graph : CallGraph) : Nat := graph.edges.length

/-- How many edges lead to a function. -/
def inDegree (graph : CallGraph) (id : String) : Nat :=
  graph.edges.countP (·.2 = id)

/-- The nodes that no edge leads to, in order of insertion. -/
def roots (graph : CallGraph) : List FunctionNode :=
  graph.nodes.filter fun node => graph.inDegree node.id = 0

/-! ## Operations -/

/-- Makes sure that a function has a node, a plain one if it is new. -/
def ensureNode (graph : CallGraph) (id : String) : CallGraph :=
  match graph.index? id with
  | some _ => graph
  | none => { graph with nodes := graph.nodes ++ [⟨id, .plain id, []⟩] }

/-- Changes the node of a function, which is inserted first if it is new. -/
def modifyNode (graph : CallGraph) (id : String) (change : FunctionNode → FunctionNode) :
    CallGraph :=
  let graph := graph.ensureNode id
  { graph with nodes := graph.nodes.map fun node => if node.id = id then change node else node }

/-- Gives a function attributes, and a node if it is new. Edges stay as they are. -/
def setAttributes (graph : CallGraph) (id : String) (attributes : Attributes) : CallGraph :=
  graph.modifyNode id fun node => { node with attributes }

/-- Draws a call, and both functions if they are new. A call that is drawn already is not drawn
again. -/
def addEdge (graph : CallGraph) (caller callee : String) : CallGraph :=
  ((graph.ensureNode caller).ensureNode callee).modifyNode caller fun node =>
    if node.callees.contains callee then node
    else { node with callees := node.callees ++ [callee] }

/-! ## Histories -/

end CallGraph

/-- An operation on a call graph. -/
inductive GraphStep where
  /-- Make sure that a function has a node. -/
  | ensureNode (id : String)
  /-- Give a function attributes. -/
  | setAttributes (id : String) (attributes : Attributes)
  /-- Draw a call. -/
  | addEdge (caller callee : String)
  deriving DecidableEq, Repr

namespace CallGraph

/-- Performs one operation. -/
def perform (graph : CallGraph) : GraphStep → CallGraph
  | .ensureNode id => graph.ensureNode id
  | .setAttributes id attributes => graph.setAttributes id attributes
  | .addEdge caller callee => graph.addEdge caller callee

/-- The graph that a history of operations, first to last, leaves of a region. -/
def ofHistory (region : String) (history : List GraphStep) : CallGraph :=
  history.foldl perform (empty region)

end CallGraph

end CallForest
