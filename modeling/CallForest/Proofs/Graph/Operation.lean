import CallForest.Proofs.Graph.WellFormed

/-! # What operations do to a call graph

Every operation on a call graph is described by what it does to two views: the ids of the nodes, and
the node of each function, where a function without a node counts as drawn plainly and calling
nothing.

* `CallGraph.nodeFor`: the node of a function, or the one that it would be inserted with.
* `CallGraph.ids_setAttributes`, `CallGraph.ids_addEdge`: new functions come last, in the order in
  which they are mentioned first.
* `CallGraph.nodeFor_setAttributes`, `CallGraph.nodeFor_addEdge`: an operation changes one node. -/

namespace CallForest

/-- One more element of a list is kept when it is its first mention. -/
theorem eraseDups_concat (elements : List String) (element : String) :
    (elements ++ [element]).eraseDups =
      if element ∈ elements then elements.eraseDups else elements.eraseDups ++ [element] := by
  rw [List.eraseDups_append, List.removeAll]
  split <;> simp_all [List.eraseDups_cons]

namespace CallGraph

/-- The node of a function, or the one that it would be inserted with. -/
def nodeFor (graph : CallGraph) (id : String) : FunctionNode :=
  (graph.node? id).getD ⟨id, .plain id, []⟩

variable {graph : CallGraph} {id other : String} {mentioned : List String}

/-- What a function calls stands in its node. -/
theorem callees_eq_nodeFor (graph : CallGraph) (id : String) :
    graph.callees id = (graph.nodeFor id).callees := by
  rw [callees, nodeFor]
  cases graph.node? id <;> rfl

/-- In a well-formed graph the node of a function is the one that is found for it. -/
theorem WellFormed.nodeFor_of_mem (hgraph : graph.WellFormed) {node : FunctionNode}
    (hnode : node ∈ graph.nodes) : graph.nodeFor node.id = node := by
  rw [nodeFor, hgraph.node?_of_mem hnode, Option.getD_some]

/-! ### Regions -/

/-- Asking for a node keeps the region. -/
@[simp] theorem region_ensureNode : (graph.ensureNode id).region = graph.region := by
  rw [ensureNode]
  split <;> rfl

/-- Changing a node keeps the region. -/
@[simp] theorem region_modifyNode (change : FunctionNode → FunctionNode) :
    (graph.modifyNode id change).region = graph.region :=
  region_ensureNode

/-- Drawing a call keeps the region. -/
@[simp] theorem region_addEdge {caller callee : String} :
    (graph.addEdge caller callee).region = graph.region := by
  rw [addEdge, region_modifyNode, region_ensureNode, region_ensureNode]

/-- Steps that keep the region keep it all the way. -/
theorem region_foldl {α : Type} {step : CallGraph → α → CallGraph}
    (hstep : ∀ graph element, (step graph element).region = graph.region) (graph : CallGraph)
    (elements : List α) : (elements.foldl step graph).region = graph.region := by
  induction elements generalizing graph with
  | nil => rfl
  | cons element elements ih => rw [List.foldl_cons, ih, hstep]

/-! ### Ids -/

/-- A function that is asked for is mentioned. -/
theorem ids_ensureNode (hids : graph.ids = mentioned.eraseDups) :
    (graph.ensureNode id).ids = (mentioned ++ [id]).eraseDups := by
  have hmem : id ∈ graph.ids ↔ id ∈ mentioned := by rw [hids, List.mem_eraseDups]
  rw [eraseDups_concat]
  split
  · rename_i hold
    rw [ensureNode_of_mem (hmem.2 hold), hids]
  · rename_i hnew
    rw [ensureNode_of_not_mem (fun hold => hnew (hmem.1 hold)), ← hids, ids, List.map_append]
    rfl

/-- A function that is given attributes is mentioned. -/
theorem ids_setAttributes (hids : graph.ids = mentioned.eraseDups) (attributes : Attributes) :
    (graph.setAttributes id attributes).ids = (mentioned ++ [id]).eraseDups := by
  rw [← ids_ensureNode hids]
  exact ids_modifyNode fun _ => rfl

/-- A call mentions its caller, and then its callee. -/
theorem ids_addEdge {caller callee : String} (hids : graph.ids = mentioned.eraseDups) :
    (graph.addEdge caller callee).ids = (mentioned ++ [caller, callee]).eraseDups := by
  have hensured : ((graph.ensureNode caller).ensureNode callee).ids =
      (mentioned ++ [caller, callee]).eraseDups := by
    rw [ids_ensureNode (ids_ensureNode hids), List.append_assoc, List.singleton_append]
  rw [addEdge, ids_modifyNode (fun _ => by split <;> rfl), ensureNode_of_mem, hensured]
  rw [hensured, List.mem_eraseDups]
  simp

/-! ### Nodes -/

/-- A function that is asked for gets the node that it counted as having. -/
theorem node?_ensureNode_self : (graph.ensureNode id).node? id = some (graph.nodeFor id) := by
  by_cases hid : id ∈ graph.ids
  · obtain ⟨node, hnode⟩ := exists_node?_of_mem_ids hid
    rw [ensureNode_of_mem hid, nodeFor, hnode, Option.getD_some]
  · have hnone : graph.node? id = none := by
      rw [node?, List.find?_eq_none]
      exact fun node hnode hsame => hid (mem_ids_iff.2 ⟨node, hnode, by simpa using hsame⟩)
    have hnodes : graph.nodes.find? (fun node => node.id = id) = none := hnone
    rw [ensureNode_of_not_mem hid, nodeFor, hnone, node?, List.find?_append, hnodes]
    simp

/-- No other function gets a node. -/
theorem node?_ensureNode_of_ne (hne : other ≠ id) :
    (graph.ensureNode id).node? other = graph.node? other := by
  by_cases hid : id ∈ graph.ids
  · rw [ensureNode_of_mem hid]
  · rw [ensureNode_of_not_mem hid, node?, List.find?_append]
    simp [node?, hne.symm]

/-- Asking for a node changes none. -/
@[simp] theorem nodeFor_ensureNode : (graph.ensureNode id).nodeFor other = graph.nodeFor other := by
  by_cases hsame : other = id
  · rw [hsame, nodeFor, node?_ensureNode_self, Option.getD_some]
  · rw [nodeFor, node?_ensureNode_of_ne hsame, ← nodeFor]

/-- A change of one node leaves the others as they are. -/
theorem nodeFor_modifyNode {change : FunctionNode → FunctionNode}
    (hkeeps : ∀ node, (change node).id = node.id) :
    (graph.modifyNode id change).nodeFor other =
      if other = id then change (graph.nodeFor id) else graph.nodeFor other := by
  -- The change keeps all ids, so a search finds the same node as before, changed if it is the one.
  have hsearch : (graph.modifyNode id change).node? other =
      ((graph.ensureNode id).node? other).map fun node =>
        if node.id = id then change node else node := by
    rw [node?, modifyNode, List.find?_map]
    congr 2
    funext node
    by_cases hnode : node.id = id <;> simp [hnode, hkeeps]
  rw [nodeFor, hsearch]
  split
  · rename_i hsame
    have hself : (graph.ensureNode id).node? id = some (graph.nodeFor id) := node?_ensureNode_self
    have hid : (graph.nodeFor id).id = id := (mem_nodes_of_node?_eq_some hself).2
    rw [hsame, hself, Option.map_some, Option.getD_some, if_pos hid]
  · rename_i hne
    rw [node?_ensureNode_of_ne hne, nodeFor]
    cases hfound : graph.node? other with
    | none => rfl
    | some node =>
        have hid : node.id ≠ id := (mem_nodes_of_node?_eq_some hfound).2 ▸ hne
        rw [Option.map_some, Option.getD_some, Option.getD_some, if_neg hid]

/-- Giving a function attributes changes nothing else. -/
theorem nodeFor_setAttributes (attributes : Attributes) :
    (graph.setAttributes id attributes).nodeFor other =
      if other = id then { graph.nodeFor id with attributes } else graph.nodeFor other :=
  nodeFor_modifyNode fun _ => rfl

/-- Drawing a call adds a callee to the caller, unless it is there. -/
theorem nodeFor_addEdge {caller callee : String} :
    (graph.addEdge caller callee).nodeFor other =
      if other = caller ∧ callee ∉ graph.callees caller then
        { graph.nodeFor caller with callees := graph.callees caller ++ [callee] }
      else graph.nodeFor other := by
  rw [addEdge, nodeFor_modifyNode fun _ => by split <;> rfl, callees_eq_nodeFor]
  simp only [nodeFor_ensureNode, List.contains_eq_mem, decide_eq_true_eq]
  by_cases hsame : other = caller <;> by_cases hold : callee ∈ (graph.nodeFor caller).callees <;>
    simp [hsame, hold]

end CallGraph

end CallForest
