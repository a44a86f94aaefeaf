import CallForest.Proofs.Graph.History

/-! # Graphs with an index

A call graph can keep an index beside its nodes: the position at which each function was inserted.
Operations and views then reach a node by its position, and fail if there is none at a position that
the index has. The index of every history is right, so that nothing fails, and the graph beside it
is the one that the history leaves without an index.

* `IndexedGraph`, `IndexedGraph.perform?`: graphs with an index, and operations on them.
* `IndexedGraph.node?`, `IndexedGraph.hasEdge?`: views by way of the index.
* `IndexedGraph.Indexes`, `IndexedGraph.Indexes.perform?`: an index that is right, and that every
  operation keeps it so.
* `CallGraph.ofHistory_eq_history`: the graph of a history. -/

namespace CallForest

/-- A call graph **with an index** of its nodes. -/
structure IndexedGraph extends CallGraph where
  /-- The position at which a function was inserted. -/
  index : Std.HashMap String Nat

namespace IndexedGraph

/-! ### Operations by position -/

/-- The graph of a region before anything is drawn. -/
def empty (region : String) : IndexedGraph := ⟨CallGraph.empty region, ∅⟩

/-- Makes sure that a function has a node, a plain one if it is new, and finds its position. -/
def ensureNode (graph : IndexedGraph) (id : String) : IndexedGraph × Nat :=
  match graph.index[id]? with
  | some position => (graph, position)
  | none =>
    ({ graph with
        nodes := graph.nodes ++ [⟨id, .plain id, []⟩],
        index := graph.index.insert id graph.nodes.length }, graph.nodes.length)

/-- Changes the node at a position, if there is one. -/
def modifyAt? (graph : IndexedGraph) (position : Nat) (change : FunctionNode → FunctionNode) :
    Option IndexedGraph :=
  if position < graph.nodes.length then
    some { graph with nodes := graph.nodes.modify position change }
  else none

/-- Performs one operation, if the positions that it uses are those of nodes. -/
def perform? (graph : IndexedGraph) : GraphStep → Option IndexedGraph
  | .ensureNode id => some (graph.ensureNode id).1
  | .setAttributes id attributes =>
    let (graph, position) := graph.ensureNode id
    graph.modifyAt? position fun node => { node with attributes }
  | .addEdge caller callee =>
    let (graph, position) := graph.ensureNode caller
    let (graph, _) := graph.ensureNode callee
    graph.modifyAt? position fun node =>
      if node.callees.contains callee then node
      else { node with callees := node.callees ++ [callee] }

/-- The graph that a history of operations leaves of a region, if none of them fails. -/
def ofHistory? (region : String) (history : List GraphStep) : Option IndexedGraph :=
  history.foldlM perform? (empty region)

/-! ### Views by position -/

/-- The node of a function, if it has one. There must be a node at every position of the index. -/
def node? (graph : IndexedGraph) (id : String) : Option (Option FunctionNode) :=
  match graph.index[id]? with
  | none => some none
  | some position => graph.nodes[position]?.map some

/-- Whether one function is drawn as calling another, if looking for the node of the caller does not
fail. -/
def hasEdge? (graph : IndexedGraph) (caller callee : String) : Option Bool :=
  (graph.node? caller).map fun node => node.any (·.callees.contains callee)

end IndexedGraph

namespace CallGraph

variable {graph other : CallGraph} {id callee : String} {position : Nat}

/-! ### Positions -/

/-- Positions are those of the ids. -/
theorem index?_eq_findIdx? (graph : CallGraph) (id : String) :
    graph.index? id = graph.ids.findIdx? (· = id) := by
  rw [ids, List.findIdx?_map, index?]
  rfl

/-- A node that is inserted stands behind the others; they stay where they are. -/
theorem index?_ensureNode (graph : CallGraph) (id other : String) :
    (graph.ensureNode id).index? other =
      if other = id ∧ graph.index? id = none then some graph.nodes.length
      else graph.index? other := by
  cases hindex : graph.index? id with
  | some position => simp [ensureNode, hindex]
  | none =>
      rw [ensureNode, hindex, index?, List.findIdx?_append, ← index?]
      by_cases hsame : other = id
      · subst hsame
        simp [hindex]
      · simp [hsame, Ne.symm hsame]

/-- A position that a function has stays. -/
theorem index?_ensureNode_of_eq_some (hposition : graph.index? id = some position)
    (other : String) : (graph.ensureNode other).index? id = some position := by
  rw [index?_ensureNode, if_neg, hposition]
  rintro ⟨rfl, hnone⟩
  simp [hposition] at hnone

/-- The position of a function is that of one of the nodes. -/
theorem lt_length_of_index? (hposition : graph.index? id = some position) :
    position < graph.nodes.length := by
  rw [index?, List.findIdx?_eq_some_iff_getElem] at hposition
  exact hposition.1

/-- A change asks for the node itself, so that it need not be asked for before. -/
theorem modifyNode_ensureNode (graph : CallGraph) (id : String)
    (change : FunctionNode → FunctionNode) :
    (graph.ensureNode id).modifyNode id change = graph.modifyNode id change := by
  rw [modifyNode, ensureNode_of_mem (mem_ids_ensureNode.2 (Or.inr rfl)), modifyNode]

/-- **Changing what is at the position of a function** changes it for that function alone. -/
theorem WellFormed.modify_map {α : Type} (hgraph : graph.WellFormed)
    (hposition : graph.index? id = some position) (view : FunctionNode → α) (change : α → α) :
    (graph.nodes.map view).modify position change =
      graph.nodes.map fun node => if node.id = id then change (view node) else view node := by
  refine List.ext_getElem? fun place => ?_
  rw [List.getElem?_modify, List.getElem?_map, List.getElem?_map]
  cases hnode : graph.nodes[place]? with
  | none => simp
  | some node =>
      -- The function of the node at a place stands at that place, and at no other.
      have hplace : graph.index? node.id = some place := by
        rw [hgraph.index?_eq_some_iff, ids, List.getElem?_map, hnode, Option.map_some]
      have hsame : position = place ↔ node.id = id := by
        constructor
        · rintro rfl
          rw [hgraph.index?_eq_some_iff] at hplace hposition
          exact Option.some.inj (hplace.symm.trans hposition)
        · rintro rfl
          exact Option.some.inj (hposition.symm.trans hplace)
      by_cases hid : node.id = id <;> simp [hsame, hid]

end CallGraph

namespace IndexedGraph

variable {graph : IndexedGraph} {id callee : String} {position : Nat}

/-! ### Indexes that are right -/

/-- The index of a graph is **right**: it has the position of every function, and of no other, and
the graph is well-formed. -/
structure Indexes (graph : IndexedGraph) : Prop where
  /-- The graph is well-formed. -/
  wellFormed : graph.toCallGraph.WellFormed
  /-- The index has the positions of the nodes. -/
  getElem?_eq : ∀ id, graph.index[id]? = graph.toCallGraph.index? id

namespace Indexes

/-- Before anything is drawn there are no entries. -/
theorem empty (region : String) : (IndexedGraph.empty region).Indexes where
  wellFormed := .empty region
  getElem?_eq id := by simp [IndexedGraph.empty, CallGraph.empty, CallGraph.index?]

/-- A function that is asked for gets its node and its entry. -/
theorem ensureNode (hgraph : graph.Indexes) (id : String) :
    (graph.ensureNode id).1.Indexes ∧
      (graph.ensureNode id).1.toCallGraph = graph.toCallGraph.ensureNode id ∧
      (graph.toCallGraph.ensureNode id).index? id = some (graph.ensureNode id).2 := by
  have hsame : (graph.ensureNode id).1.toCallGraph = graph.toCallGraph.ensureNode id := by
    rw [IndexedGraph.ensureNode, CallGraph.ensureNode, hgraph.getElem?_eq]
    cases graph.toCallGraph.index? id <;> rfl
  have hposition : (graph.toCallGraph.ensureNode id).index? id = some (graph.ensureNode id).2 := by
    rw [CallGraph.index?_ensureNode, IndexedGraph.ensureNode, hgraph.getElem?_eq]
    cases graph.toCallGraph.index? id <;> simp
  refine ⟨⟨hsame ▸ hgraph.wellFormed.ensureNode id, fun other => ?_⟩, hsame, hposition⟩
  rw [hsame, CallGraph.index?_ensureNode, IndexedGraph.ensureNode, hgraph.getElem?_eq]
  cases hindex : graph.toCallGraph.index? id with
  | some position => simp [hgraph.getElem?_eq]
  | none =>
      by_cases hother : other = id
      · simp [hother]
      · simp [hother, Ne.symm hother, Std.HashMap.getElem?_insert, hgraph.getElem?_eq]

/-- **A change at the position of a function** does not fail, and is the change of its node. -/
theorem modifyAt? (hgraph : graph.Indexes) (hposition : graph.toCallGraph.index? id = some position)
    {change : FunctionNode → FunctionNode} (hkeeps : ∀ node, (change node).id = node.id)
    (hchanged : (graph.toCallGraph.modifyNode id change).WellFormed) :
    ∃ next, graph.modifyAt? position change = some next ∧ next.Indexes ∧
      next.toCallGraph = graph.toCallGraph.modifyNode id change := by
  have hid : id ∈ graph.ids :=
    List.mem_of_getElem? (hgraph.wellFormed.index?_eq_some_iff.1 hposition)
  have hnodes := hgraph.wellFormed.modify_map hposition (fun node => node) change
  rw [List.map_id'] at hnodes
  have hsame : ({ graph with nodes := graph.nodes.modify position change } :
      IndexedGraph).toCallGraph = graph.toCallGraph.modifyNode id change := by
    rw [CallGraph.modifyNode, CallGraph.ensureNode_of_mem hid]
    simp [hnodes]
  refine ⟨_, if_pos (CallGraph.lt_length_of_index? hposition),
    ⟨hsame ▸ hchanged, fun other => ?_⟩, hsame⟩
  rw [hsame, CallGraph.index?_eq_findIdx?, CallGraph.ids_modifyNode hkeeps,
    CallGraph.ensureNode_of_mem hid, ← CallGraph.index?_eq_findIdx?]
  exact hgraph.getElem?_eq other

/-- **One operation** does not fail, does to the graph what it does without an index, and leaves the
index right. -/
theorem perform? (hgraph : graph.Indexes) (step : GraphStep) :
    ∃ next, graph.perform? step = some next ∧ next.Indexes ∧
      next.toCallGraph = graph.toCallGraph.perform step := by
  cases step with
  | ensureNode id =>
      obtain ⟨hensured, hsame, -⟩ := hgraph.ensureNode id
      exact ⟨_, rfl, hensured, hsame⟩
  | setAttributes id attributes =>
      obtain ⟨hensured, hsame, hposition⟩ := hgraph.ensureNode id
      rw [← hsame] at hposition
      have hchanged := hgraph.wellFormed.setAttributes id attributes
      rw [CallGraph.setAttributes, ← CallGraph.modifyNode_ensureNode, ← hsame] at hchanged
      obtain ⟨next, hnext, hright, hnode⟩ :=
        hensured.modifyAt? hposition (by intro node; rfl) hchanged
      refine ⟨next, hnext, hright, hnode.trans ?_⟩
      rw [hsame, CallGraph.modifyNode_ensureNode]
      rfl
  | addEdge caller callee =>
      obtain ⟨hensured, hsame, hposition⟩ := hgraph.ensureNode caller
      obtain ⟨hboth, hsame', -⟩ := hensured.ensureNode callee
      -- The caller keeps its position when the callee is inserted behind it.
      have hposition' := CallGraph.index?_ensureNode_of_eq_some hposition callee
      rw [← hsame, ← hsame'] at hposition'
      have hchanged := hgraph.wellFormed.addEdge caller callee
      rw [CallGraph.addEdge, ← hsame, ← hsame'] at hchanged
      obtain ⟨next, hnext, hright, hnode⟩ :=
        hboth.modifyAt? hposition' (fun _ => by split <;> rfl) hchanged
      refine ⟨next, hnext, hright, hnode.trans ?_⟩
      rw [hsame', hsame]
      rfl

/-- A whole history does not fail either, and leaves the index right. -/
theorem foldlM_perform? (hgraph : graph.Indexes) (history : List GraphStep) :
    ∃ last, history.foldlM IndexedGraph.perform? graph = some last ∧ last.Indexes ∧
      last.toCallGraph = history.foldl CallGraph.perform graph.toCallGraph := by
  induction history generalizing graph with
  | nil => exact ⟨graph, rfl, hgraph, rfl⟩
  | cons step history ih =>
      obtain ⟨next, hnext, hright, hsame⟩ := hgraph.perform? step
      obtain ⟨last, hlast, hlastRight, hlastSame⟩ := ih hright
      refine ⟨last, ?_, hlastRight, ?_⟩
      · rw [List.foldlM_cons, hnext]
        exact hlast
      · rw [List.foldl_cons, ← hsame, hlastSame]

/-! ### Views -/

/-- **The node of a function** is found at its position. -/
theorem node?_eq (hgraph : graph.Indexes) (id : String) :
    graph.node? id = some (graph.toCallGraph.node? id) := by
  rw [IndexedGraph.node?, hgraph.getElem?_eq, CallGraph.node?,
    List.find?_eq_bind_findIdx?_getElem?, ← CallGraph.index?]
  cases hindex : graph.toCallGraph.index? id with
  | none => rfl
  | some position =>
      have hnode := List.getElem?_eq_getElem (CallGraph.lt_length_of_index? hindex)
      simp [hnode]

/-- So are the calls of a function. -/
theorem hasEdge?_eq (hgraph : graph.Indexes) (caller callee : String) :
    graph.hasEdge? caller callee = some (graph.toCallGraph.hasEdge caller callee) := by
  rw [IndexedGraph.hasEdge?, hgraph.node?_eq, CallGraph.hasEdge, CallGraph.callees]
  cases graph.toCallGraph.node? caller <;> rfl

end Indexes

/-- **The index of every history is right**, and no operation of the history fails. -/
theorem exists_ofHistory?_eq_some (region : String) (history : List GraphStep) :
    ∃ graph, ofHistory? region history = some graph ∧ graph.Indexes ∧
      graph.toCallGraph = CallGraph.ofHistory region history :=
  (Indexes.empty region).foldlM_perform? history

end IndexedGraph

namespace CallGraph

/-- **The graph of a history is what the history says.** Its functions are those that are mentioned,
in the order in which they are mentioned first, and each position that is answered stays. A function
has a node when it is mentioned, namely the one that bears its id; a call is drawn when some
operation draws it. The callees of a function stand in the order in which it calls them first, and
have nodes themselves, and it looks as it was told last. There are as many edges as different calls
are drawn. With an index no operation and no view fails; the graph and its views are the same, and a
position that is answered is the one at which the index has the function from then on. -/
theorem ofHistory_eq_history (region : String) (history : List GraphStep) :
    (ofHistory region history).region = region ∧
      (ofHistory region history).ids = (GraphStep.mentioned history).eraseDups ∧
      (∀ before after id, history = before ++ .ensureNode id :: after →
        (ofHistory region history).ids[(ofHistory region before).place id]? = some id) ∧
      (∀ before after id position, history = before ++ after →
        (ofHistory region before).index? id = some position →
          (ofHistory region history).index? id = some position) ∧
      (∀ id, ((ofHistory region history).node? id).isSome ↔ id ∈ GraphStep.mentioned history) ∧
      (∀ id node, (ofHistory region history).node? id = some node ↔
        node ∈ (ofHistory region history).nodes ∧ node.id = id) ∧
      (∀ caller callee, (ofHistory region history).hasEdge caller callee = true ↔
        .addEdge caller callee ∈ history) ∧
      (∀ node ∈ (ofHistory region history).nodes,
        node.callees = (GraphStep.callees history node.id).eraseDups ∧
          (∀ callee ∈ node.callees, callee ∈ (ofHistory region history).ids) ∧
          node.attributes = GraphStep.lastAttributes history node.id) ∧
      (ofHistory region history).edgeCount = (GraphStep.calls history).toFinset.card ∧
      ∃ graph, IndexedGraph.ofHistory? region history = some graph ∧
        graph.toCallGraph = ofHistory region history ∧
        (∀ id, graph.node? id = some ((ofHistory region history).node? id)) ∧
        (∀ caller callee, graph.hasEdge? caller callee =
          some ((ofHistory region history).hasEdge caller callee)) ∧
        ∀ before after id, history = before ++ .ensureNode id :: after →
          ∃ earlier, IndexedGraph.ofHistory? region before = some earlier ∧
            graph.index[id]? = some (earlier.ensureNode id).2 ∧
            (ofHistory region history).ids[(earlier.ensureNode id).2]? = some id := by
  have hgraph := follows_ofHistory region history
  obtain ⟨graph, hhistory, hright, hsame⟩ := IndexedGraph.exists_ofHistory?_eq_some region history
  refine ⟨?_, hgraph.ids_eq, ?_, ?_, fun _ => hgraph.isSome_node?_iff,
    fun _ _ => hgraph.wellFormed.node?_eq_some_iff, fun caller callee => ?_,
    fun node hnode => ⟨?_, hgraph.wellFormed.callee_mem_ids node hnode, ?_⟩, hgraph.edgeCount_eq,
    graph, hhistory, hsame, fun id => ?_, fun caller callee => ?_, ?_⟩
  · refine region_foldl (fun graph step => ?_) _ _
    cases step with
    | ensureNode => exact region_ensureNode
    | setAttributes => exact region_modifyNode _
    | addEdge => exact region_addEdge
  · rintro before after id rfl
    -- The node is there behind the operation that asks for it, and stays where it is.
    have hplace : (ofHistory region (before ++ [.ensureNode id])).ids[
        (ofHistory region before).place id]? = some id := by
      rw [ofHistory, List.foldl_append]
      exact ids_ensureNode_place
    rw [List.append_cons]
    exact ids_ofHistory_append_of_eq_some hplace
  · rintro before after id position rfl hposition
    exact index?_ofHistory_append hposition
  · rw [hgraph.hasEdge_iff, GraphStep.mem_calls_iff]
  · rw [← hgraph.wellFormed.callees_of_mem hnode, hgraph.callees_eq]
  · rw [← hgraph.attributes_eq, hgraph.wellFormed.nodeFor_of_mem hnode]
  · rw [hright.node?_eq, hsame]
  · rw [hright.hasEdge?_eq, hsame]
  · rintro before after id rfl
    obtain ⟨earlier, hbefore, hearlier, hsame'⟩ :=
      IndexedGraph.exists_ofHistory?_eq_some region before
    -- The position is that of the node behind the operation, and so behind the whole history.
    obtain ⟨-, -, hposition⟩ := hearlier.ensureNode id
    have hstep : earlier.toCallGraph.ensureNode id =
        ofHistory region (before ++ [.ensureNode id]) := by
      rw [hsame', ofHistory, ofHistory, List.foldl_append]
      rfl
    rw [hstep] at hposition
    have hstays : (ofHistory region (before ++ .ensureNode id :: after)).index? id =
        some (earlier.ensureNode id).2 := by
      rw [List.append_cons]
      exact index?_ofHistory_append hposition
    refine ⟨earlier, hbefore, ?_, hgraph.wellFormed.index?_eq_some_iff.1 hstays⟩
    rw [hright.getElem?_eq, hsame, hstays]

end CallGraph

end CallForest
