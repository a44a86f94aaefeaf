import CallForest.Graph.Basic
import Mathlib.Data.List.Nodup

/-! # Well-formed call graphs

What every history of operations leaves behind: no function has two nodes, no call is drawn twice,
and every call leads to a function that has a node. Views that look a function up therefore agree
with views that go through all nodes.

* `CallGraph.WellFormed`: the invariant.
* `CallGraph.WellFormed.ensureNode`, `CallGraph.WellFormed.setAttributes`,
  `CallGraph.WellFormed.addEdge`: every operation keeps it.
* `CallGraph.wellFormed_ofHistory`: it holds of the graph of every history. -/

namespace CallForest

namespace CallGraph

/-- The **invariant** of call graphs: functions have one node each, calls are drawn once, and no
call leads to a function without a node. -/
structure WellFormed (graph : CallGraph) : Prop where
  /-- No function has two nodes. -/
  nodup_ids : graph.ids.Nodup
  /-- No call is drawn twice. -/
  nodup_callees : ∀ node ∈ graph.nodes, node.callees.Nodup
  /-- Every called function has a node. -/
  callee_mem_ids : ∀ node ∈ graph.nodes, ∀ callee ∈ node.callees, callee ∈ graph.ids

variable {graph : CallGraph} {id : String}

/-! ### Views of single functions -/

/-- The ids of the graph are the ids of its nodes. -/
theorem mem_ids_iff : id ∈ graph.ids ↔ ∃ node ∈ graph.nodes, node.id = id := by
  simp [ids]

/-- The node that is found for a function is one of the graph's, and the function's own. -/
theorem mem_nodes_of_node?_eq_some {node : FunctionNode} (hfound : graph.node? id = some node) :
    node ∈ graph.nodes ∧ node.id = id := by
  refine ⟨List.mem_of_find?_eq_some hfound, ?_⟩
  simpa [node?] using List.find?_some hfound

/-- A function has no position exactly when it has no node. -/
theorem index?_eq_none_iff : graph.index? id = none ↔ id ∉ graph.ids := by
  simp [index?, mem_ids_iff, List.findIdx?_eq_none_iff]

/-- A function of the graph is found. -/
theorem exists_node?_of_mem_ids (hid : id ∈ graph.ids) :
    ∃ node, graph.node? id = some node := by
  obtain ⟨node, hnode, rfl⟩ := mem_ids_iff.1 hid
  rw [← Option.isSome_iff_exists, node?, List.find?_isSome]
  exact ⟨node, hnode, by simp⟩

/-- Only functions of the graph call anything. -/
theorem mem_ids_of_mem_callees {callee : String} (hcallee : callee ∈ graph.callees id) :
    id ∈ graph.ids := by
  rw [callees] at hcallee
  cases hfound : graph.node? id with
  | none => simp [hfound] at hcallee
  | some node => exact mem_ids_iff.2 ⟨node, mem_nodes_of_node?_eq_some hfound⟩

namespace WellFormed

/-- In a well-formed graph a node is the one that is found for its function. -/
theorem node?_of_mem (hgraph : graph.WellFormed) {node : FunctionNode}
    (hnode : node ∈ graph.nodes) : graph.node? node.id = some node := by
  -- The search stops at some node of the same id, and ids tell nodes apart.
  obtain ⟨found, hfound⟩ := exists_node?_of_mem_ids (mem_ids_iff.2 ⟨node, hnode, rfl⟩)
  obtain ⟨hmem, hsame⟩ := mem_nodes_of_node?_eq_some hfound
  rw [hfound, List.inj_on_of_nodup_map hgraph.nodup_ids hmem hnode hsame]

/-- The callees of a node are what its function calls. -/
theorem callees_of_mem (hgraph : graph.WellFormed) {node : FunctionNode}
    (hnode : node ∈ graph.nodes) : graph.callees node.id = node.callees := by
  simp [callees, hgraph.node?_of_mem hnode]

/-- Every function that is called has a node. -/
theorem mem_ids_of_callee (hgraph : graph.WellFormed) {callee : String}
    (hcallee : callee ∈ graph.callees id) : callee ∈ graph.ids := by
  obtain ⟨node, hnode, rfl⟩ := mem_ids_iff.1 (mem_ids_of_mem_callees hcallee)
  rw [hgraph.callees_of_mem hnode] at hcallee
  exact hgraph.callee_mem_ids node hnode callee hcallee

/-- No function calls another twice. -/
theorem nodup_callees_of (hgraph : graph.WellFormed) (id : String) :
    (graph.callees id).Nodup := by
  rw [callees]
  cases hfound : graph.node? id with
  | none => simp
  | some node => exact hgraph.nodup_callees node (mem_nodes_of_node?_eq_some hfound).1

/-- The edges are the calls. -/
theorem mem_edges_iff (hgraph : graph.WellFormed) {caller callee : String} :
    (caller, callee) ∈ graph.edges ↔ callee ∈ graph.callees caller := by
  rw [edges, List.mem_flatMap]
  constructor
  · rintro ⟨node, hnode, hedge⟩
    obtain ⟨other, hother, hsame⟩ := List.mem_map.1 hedge
    obtain ⟨rfl, rfl⟩ := Prod.mk.inj hsame
    rwa [hgraph.callees_of_mem hnode]
  · intro hcallee
    obtain ⟨node, hnode, rfl⟩ := mem_ids_iff.1 (mem_ids_of_mem_callees hcallee)
    rw [hgraph.callees_of_mem hnode] at hcallee
    exact ⟨node, hnode, List.mem_map.2 ⟨callee, hcallee, rfl⟩⟩

/-- The roots are the functions that nobody calls. -/
theorem mem_roots_iff (hgraph : graph.WellFormed) {node : FunctionNode} :
    node ∈ graph.roots ↔ node ∈ graph.nodes ∧ ∀ caller, node.id ∉ graph.callees caller := by
  simp only [roots, List.mem_filter, inDegree, decide_eq_true_eq, List.countP_eq_zero]
  refine and_congr_right fun _ => ⟨fun hnone caller hcall => ?_, fun hnone edge hedge => ?_⟩
  · exact hnone _ (hgraph.mem_edges_iff.2 hcall) rfl
  · intro hsame
    rw [← hsame] at hnone
    exact hnone edge.1 (hgraph.mem_edges_iff.1 hedge)

end WellFormed

/-! ### Operations keep the invariant -/

/-- Asking for the node of a function of the graph changes nothing. -/
theorem ensureNode_of_mem (hid : id ∈ graph.ids) : graph.ensureNode id = graph := by
  rw [ensureNode]
  cases hindex : graph.index? id with
  | none => exact absurd hid (index?_eq_none_iff.1 hindex)
  | some index => rfl

/-- A new function gets a plain node after all others. -/
theorem ensureNode_of_not_mem (hid : id ∉ graph.ids) :
    graph.ensureNode id = { graph with nodes := graph.nodes ++ [⟨id, .plain id, []⟩] } := by
  rw [ensureNode, index?_eq_none_iff.2 hid]

/-- The functions after asking for a node: the old ones, and the one asked for. -/
theorem mem_ids_ensureNode {other : String} :
    other ∈ (graph.ensureNode id).ids ↔ other ∈ graph.ids ∨ other = id := by
  by_cases hid : id ∈ graph.ids
  · rw [ensureNode_of_mem hid]
    exact ⟨Or.inl, fun h => h.elim (fun h => h) fun h => h ▸ hid⟩
  · simp [ensureNode_of_not_mem hid, ids]

/-- Changing a node keeps all ids, if the change keeps the node's own. -/
theorem ids_modifyNode {change : FunctionNode → FunctionNode}
    (hkeeps : ∀ node, (change node).id = node.id) :
    (graph.modifyNode id change).ids = (graph.ensureNode id).ids := by
  rw [modifyNode, ids, ids, List.map_map]
  refine List.map_congr_left fun node _ => ?_
  simp only [Function.comp_apply]
  split
  · exact hkeeps node
  · rfl

namespace WellFormed

/-- The graph without nodes is well-formed. -/
theorem empty (region : String) : (CallGraph.empty region).WellFormed where
  nodup_ids := List.nodup_nil
  nodup_callees := by simp [CallGraph.empty]
  callee_mem_ids := by simp [CallGraph.empty]

/-- A new node calls nothing and has an id of its own. -/
theorem ensureNode (hgraph : graph.WellFormed) (id : String) :
    (graph.ensureNode id).WellFormed := by
  by_cases hid : id ∈ graph.ids
  · rwa [ensureNode_of_mem hid]
  · have hids : ∀ other, other ∈ graph.ids → other ∈ (graph.ensureNode id).ids :=
      fun other hother => mem_ids_ensureNode.2 (Or.inl hother)
    rw [ensureNode_of_not_mem hid] at hids ⊢
    refine ⟨?_, fun node hnode => ?_, fun node hnode callee hcallee => ?_⟩
    -- The new id is different from all others.
    · rw [ids, List.map_append]
      exact hgraph.nodup_ids.append (List.nodup_singleton id) (by simpa [ids] using hid)
    · rcases List.mem_append.1 hnode with hold | hnew
      · exact hgraph.nodup_callees node hold
      · rw [List.mem_singleton.1 hnew]
        exact List.nodup_nil
    · rcases List.mem_append.1 hnode with hold | hnew
      · exact hids callee (hgraph.callee_mem_ids node hold callee hcallee)
      · rw [List.mem_singleton.1 hnew] at hcallee
        exact absurd hcallee List.not_mem_nil

/-- A change of one node keeps the invariant when it keeps the id, draws no call twice, and only
draws calls to functions of the graph. -/
theorem modifyNode (hgraph : graph.WellFormed) (id : String)
    {change : FunctionNode → FunctionNode} (hkeeps : ∀ node, (change node).id = node.id)
    (hnodup : ∀ node, node.callees.Nodup → (change node).callees.Nodup)
    (hcallees : ∀ node, ∀ callee ∈ (change node).callees,
      callee ∈ node.callees ∨ callee ∈ (graph.ensureNode id).ids) :
    (graph.modifyNode id change).WellFormed := by
  have hensured := hgraph.ensureNode id
  refine ⟨?_, ?_, ?_⟩
  · rw [ids_modifyNode hkeeps]
    exact hensured.nodup_ids
  · intro node hnode
    obtain ⟨old, hold, rfl⟩ := List.mem_map.1 hnode
    split
    · exact hnodup old (hensured.nodup_callees old hold)
    · exact hensured.nodup_callees old hold
  · rw [ids_modifyNode hkeeps]
    intro node hnode callee hcallee
    obtain ⟨old, hold, rfl⟩ := List.mem_map.1 hnode
    split at hcallee
    · rcases hcallees old callee hcallee with hdrawn | hnew
      · exact hensured.callee_mem_ids old hold callee hdrawn
      · exact hnew
    · exact hensured.callee_mem_ids old hold callee hcallee

/-- Giving attributes draws no call. -/
theorem setAttributes (hgraph : graph.WellFormed) (id : String) (attributes : Attributes) :
    (graph.setAttributes id attributes).WellFormed :=
  hgraph.modifyNode id (fun _ => rfl) (fun _ hnode => hnode) fun _ _ hcallee => Or.inl hcallee

/-- A call is drawn once, between functions that both have nodes by then. -/
theorem addEdge (hgraph : graph.WellFormed) (caller callee : String) :
    (graph.addEdge caller callee).WellFormed := by
  have hensured := (hgraph.ensureNode caller).ensureNode callee
  refine hensured.modifyNode caller ?_ ?_ ?_
  · intro node
    split <;> rfl
  · intro node hnode
    split
    · exact hnode
    · rename_i hfresh
      refine hnode.append (List.nodup_singleton callee) ?_
      simpa using hfresh
  · intro node other hother
    -- The only call that can be new leads to the callee, which was given a node just before.
    split at hother
    · exact Or.inl hother
    · rcases List.mem_append.1 hother with hold | hnew
      · exact Or.inl hold
      · rw [List.mem_singleton.1 hnew]
        exact Or.inr (mem_ids_ensureNode.2 (Or.inl (mem_ids_ensureNode.2 (Or.inr rfl))))

/-- **One step of a history keeps the invariant.** -/
theorem perform (hgraph : graph.WellFormed) (step : GraphStep) :
    (graph.perform step).WellFormed := by
  cases step with
  | ensureNode id => exact hgraph.ensureNode id
  | setAttributes id attributes => exact hgraph.setAttributes id attributes
  | addEdge caller callee => exact hgraph.addEdge caller callee

/-- A whole history keeps the invariant. -/
theorem foldl_perform (hgraph : graph.WellFormed) (history : List GraphStep) :
    (history.foldl CallGraph.perform graph).WellFormed := by
  induction history generalizing graph with
  | nil => exact hgraph
  | cons step history ih => exact ih (hgraph.perform step)

end WellFormed

/-- **Every history leaves a well-formed graph.** -/
theorem wellFormed_ofHistory (region : String) (history : List GraphStep) :
    (ofHistory region history).WellFormed :=
  (WellFormed.empty region).foldl_perform history

end CallGraph

end CallForest
