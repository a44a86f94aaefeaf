import CallForest.Proofs.Graph.Operation
import Mathlib

/-! # What a history says

A history of operations says which functions are mentioned, which calls are drawn and how functions
are to look, without any graph. The graph that it leaves says the same: functions stand in the order
in which they are mentioned first, and keep their positions from then on, callees stand in the order
in which they are called first, and a function looks as it was told last.

* `GraphStep.mentioned`, `GraphStep.calls`, `GraphStep.callees`, `GraphStep.lastAttributes`: what a
  history says.
* `CallGraph.place`: the position that is answered when the node of a function is asked for.
* `CallGraph.Follows`, `CallGraph.Follows.perform`: a graph that says what a history says, and that
  one more operation keeps it so.
* `CallGraph.follows_ofHistory`: the graph of a history follows it.
* `CallGraph.index?_ofHistory_append`: positions stay. -/

namespace CallForest

namespace GraphStep

/-! ### Histories -/

/-- The functions that an operation mentions; a call mentions its caller first. -/
def mentions : GraphStep → List String
  | .ensureNode id => [id]
  | .setAttributes id _ => [id]
  | .addEdge caller callee => [caller, callee]

/-- The call that an operation draws, if it draws one. -/
def call? : GraphStep → Option (String × String)
  | .addEdge caller callee => some (caller, callee)
  | _ => none

/-- The function that an operation gives attributes, with these, if it does so. -/
def attributes? : GraphStep → Option (String × Attributes)
  | .setAttributes id attributes => some (id, attributes)
  | _ => none

/-- The functions that a history mentions, one after the other. -/
def mentioned (history : List GraphStep) : List String := history.flatMap mentions

/-- The calls that a history draws, one after the other. -/
def calls (history : List GraphStep) : List (String × String) := history.filterMap call?

/-- The functions that a history draws as called by a function, one after the other. -/
def callees (history : List GraphStep) (caller : String) : List String :=
  ((calls history).filter (·.1 = caller)).map Prod.snd

/-- The attributes that a history gives a function last; plain ones if it gives none. -/
def lastAttributes (history : List GraphStep) (id : String) : Attributes :=
  (((history.filterMap attributes?).filter (·.1 = id)).getLast?.map Prod.snd).getD (.plain id)

variable {history before after : List GraphStep} {step : GraphStep} {id caller callee : String}

/-- One more operation mentions its functions behind the others. -/
theorem mentioned_concat : mentioned (history ++ [step]) = mentioned history ++ step.mentions := by
  simp [mentioned]

/-- What is mentioned by two histories, one after the other. -/
theorem mentioned_append : mentioned (before ++ after) = mentioned before ++ mentioned after :=
  List.flatMap_append

/-- A call is among those that a history draws when an operation draws it. -/
theorem mem_calls_iff : (caller, callee) ∈ calls history ↔ .addEdge caller callee ∈ history := by
  rw [calls, List.mem_filterMap]
  constructor
  · rintro ⟨step, hstep, hcall⟩
    cases step with
    | addEdge =>
        obtain ⟨rfl, rfl⟩ := Prod.mk.inj (Option.some.inj hcall)
        exact hstep
    | ensureNode | setAttributes => cases hcall
  · exact fun hstep => ⟨_, hstep, rfl⟩

/-- A function is called by another one in a history when the call is drawn. -/
theorem mem_callees_iff : callee ∈ callees history caller ↔ (caller, callee) ∈ calls history := by
  simp [callees]

/-- An operation that draws no call changes no callees. -/
theorem callees_concat_of_none (hstep : step.call? = none) :
    callees (history ++ [step]) caller = callees history caller := by
  simp [callees, calls, hstep]

/-- One more call adds a callee behind those of its caller. -/
theorem callees_concat_addEdge {id : String} :
    callees (history ++ [.addEdge caller callee]) id =
      if caller = id then callees history id ++ [callee] else callees history id := by
  by_cases hsame : caller = id <;> simp [callees, calls, call?, hsame]

/-- An operation that gives no attributes leaves all as they were told. -/
theorem lastAttributes_concat_of_none (hstep : step.attributes? = none) :
    lastAttributes (history ++ [step]) id = lastAttributes history id := by
  simp [lastAttributes, hstep]

/-- What is told last counts. -/
theorem lastAttributes_concat_setAttributes {other : String} {attributes : Attributes} :
    lastAttributes (history ++ [.setAttributes id attributes]) other =
      if id = other then attributes else lastAttributes history other := by
  by_cases hsame : id = other <;> simp [lastAttributes, attributes?, hsame]

end GraphStep

namespace CallGraph

variable {graph : CallGraph} {history before after : List GraphStep} {step : GraphStep}
  {region id : String}

/-! ### Positions -/

/-- The **position that is answered** when the node of a function is asked for: that of its node, or
the next one, where a node is inserted for it. -/
def place (graph : CallGraph) (id : String) : Nat := (graph.index? id).getD graph.size

/-- A function stands at its position. -/
theorem WellFormed.index?_eq_some_iff (hgraph : graph.WellFormed) {position : Nat} :
    graph.index? id = some position ↔ graph.ids[position]? = some id := by
  rw [index?, List.findIdx?_eq_some_iff_getElem, ids, List.getElem?_map, Option.map_eq_some_iff]
  constructor
  · rintro ⟨hlt, hid, -⟩
    exact ⟨graph.nodes[position], List.getElem?_eq_getElem hlt, by simpa using hid⟩
  · rintro ⟨node, hnode, rfl⟩
    obtain ⟨hlt, rfl⟩ := List.getElem?_eq_some_iff.1 hnode
    refine ⟨hlt, by simp, fun other hother => ?_⟩
    -- Ids tell positions apart, so that no earlier node bears the id.
    have hne := List.pairwise_iff_getElem.1 hgraph.nodup_ids other position
      (by simpa [ids] using hother.trans hlt) (by simpa [ids] using hlt) hother
    simpa [ids] using hne

/-- What is answered is the position of the function as soon as it has a node. -/
theorem ids_ensureNode_place : (graph.ensureNode id).ids[graph.place id]? = some id := by
  cases hindex : graph.index? id with
  | some position =>
      have hid : id ∈ graph.ids := by
        by_contra hnot
        rw [index?_eq_none_iff.2 hnot] at hindex
        cases hindex
      obtain ⟨hlt, hsame, -⟩ := List.findIdx?_eq_some_iff_getElem.1 hindex
      rw [ensureNode_of_mem hid, place, hindex, Option.getD_some, ids, List.getElem?_map,
        List.getElem?_eq_getElem hlt]
      simpa using hsame
  | none =>
      rw [ensureNode_of_not_mem (index?_eq_none_iff.1 hindex), place, hindex, Option.getD_none, ids,
        List.map_append, size]
      simp

/-! ### Graphs that follow a history -/

/-- A graph **follows** a history when it says of every function what the history says. -/
structure Follows (history : List GraphStep) (graph : CallGraph) : Prop where
  /-- The graph is well-formed. -/
  wellFormed : graph.WellFormed
  /-- The functions stand in the order in which they are mentioned first. -/
  ids_eq : graph.ids = (GraphStep.mentioned history).eraseDups
  /-- The callees of a function stand in the order in which it calls them first. -/
  callees_eq : ∀ caller, graph.callees caller = (GraphStep.callees history caller).eraseDups
  /-- A function looks as it was told last. -/
  attributes_eq : ∀ id, (graph.nodeFor id).attributes = GraphStep.lastAttributes history id

namespace Follows

/-- The graph without nodes follows the history in which nothing happens. -/
theorem empty (region : String) : Follows [] (.empty region) where
  wellFormed := .empty region
  ids_eq := rfl
  callees_eq _ := rfl
  attributes_eq _ := rfl

/-- Asking for a node mentions its function, and tells nothing else. -/
theorem ensureNode (hgraph : Follows history graph) (id : String) :
    Follows (history ++ [.ensureNode id]) (graph.ensureNode id) where
  wellFormed := hgraph.wellFormed.ensureNode id
  ids_eq := by rw [ids_ensureNode hgraph.ids_eq, GraphStep.mentioned_concat, GraphStep.mentions]
  callees_eq caller := by
    rw [GraphStep.callees_concat_of_none rfl, ← hgraph.callees_eq, callees_eq_nodeFor,
      nodeFor_ensureNode, callees_eq_nodeFor]
  attributes_eq other := by
    rw [GraphStep.lastAttributes_concat_of_none rfl, nodeFor_ensureNode, hgraph.attributes_eq]

/-- Giving a function attributes mentions it, and says how it looks from now on. -/
theorem setAttributes (hgraph : Follows history graph) (id : String) (attributes : Attributes) :
    Follows (history ++ [.setAttributes id attributes]) (graph.setAttributes id attributes) where
  wellFormed := hgraph.wellFormed.setAttributes id attributes
  ids_eq := by
    rw [ids_setAttributes hgraph.ids_eq, GraphStep.mentioned_concat, GraphStep.mentions]
  callees_eq caller := by
    rw [GraphStep.callees_concat_of_none rfl, ← hgraph.callees_eq, callees_eq_nodeFor,
      nodeFor_setAttributes, callees_eq_nodeFor]
    split
    · rename_i hsame
      rw [hsame]
    · rfl
  attributes_eq other := by
    rw [GraphStep.lastAttributes_concat_setAttributes, nodeFor_setAttributes]
    by_cases hsame : other = id
    · rw [if_pos hsame, if_pos hsame.symm]
    · rw [if_neg hsame, if_neg (Ne.symm hsame), hgraph.attributes_eq]

/-- Drawing a call mentions its caller and its callee, and adds the callee unless it is there. -/
theorem addEdge (hgraph : Follows history graph) (caller callee : String) :
    Follows (history ++ [.addEdge caller callee]) (graph.addEdge caller callee) where
  wellFormed := hgraph.wellFormed.addEdge caller callee
  ids_eq := by rw [ids_addEdge hgraph.ids_eq, GraphStep.mentioned_concat, GraphStep.mentions]
  callees_eq id := by
    rw [GraphStep.callees_concat_addEdge, callees_eq_nodeFor, nodeFor_addEdge]
    by_cases hsame : caller = id
    · subst hsame
      have hdrawn : callee ∈ GraphStep.callees history caller ↔ callee ∈ graph.callees caller := by
        rw [hgraph.callees_eq, List.mem_eraseDups]
      rw [if_pos rfl, eraseDups_concat, ← hgraph.callees_eq]
      by_cases hold : callee ∈ graph.callees caller
      · rw [if_neg fun hnew => hnew.2 hold, if_pos (hdrawn.2 hold), callees_eq_nodeFor]
      · rw [if_pos ⟨rfl, hold⟩, if_neg (hold ∘ hdrawn.1)]
    · rw [if_neg fun hnew => hsame hnew.1.symm, if_neg hsame, ← hgraph.callees_eq,
        callees_eq_nodeFor]
  attributes_eq id := by
    rw [GraphStep.lastAttributes_concat_of_none rfl, nodeFor_addEdge, ← hgraph.attributes_eq]
    split
    · rename_i hsame
      rw [hsame.1]
    · rfl

/-- **One more operation** is followed by performing it. -/
theorem perform (hgraph : Follows history graph) (step : GraphStep) :
    Follows (history ++ [step]) (graph.perform step) := by
  cases step with
  | ensureNode id => exact hgraph.ensureNode id
  | setAttributes id attributes => exact hgraph.setAttributes id attributes
  | addEdge caller callee => exact hgraph.addEdge caller callee

end Follows

/-- **The graph of a history follows it.** -/
theorem follows_ofHistory (region : String) (history : List GraphStep) :
    Follows history (ofHistory region history) := by
  -- The induction adds operations at the end, as they are performed first to last.
  induction history using List.reverseRecOn with
  | nil => exact .empty region
  | append_singleton history step ih =>
      rw [ofHistory, List.foldl_append]
      exact ih.perform step

/-! ### Views of the graph of a history -/

/-- What a history does afterwards puts functions behind those that are there. -/
theorem ids_ofHistory_append (region : String) (before after : List GraphStep) :
    ∃ more, (ofHistory region (before ++ after)).ids = (ofHistory region before).ids ++ more := by
  rw [(follows_ofHistory region _).ids_eq, (follows_ofHistory region _).ids_eq,
    GraphStep.mentioned_append, List.eraseDups_append]
  exact ⟨_, rfl⟩

/-- **Positions stay**: where a function stands, it stands whatever happens afterwards. -/
theorem ids_ofHistory_append_of_eq_some {position : Nat}
    (hposition : (ofHistory region before).ids[position]? = some id) :
    (ofHistory region (before ++ after)).ids[position]? = some id := by
  obtain ⟨more, hmore⟩ := ids_ofHistory_append region before after
  rw [hmore, List.getElem?_append_left (List.getElem?_eq_some_iff.1 hposition).1, hposition]

/-- The same of the positions that are looked up. -/
theorem index?_ofHistory_append {position : Nat}
    (hposition : (ofHistory region before).index? id = some position) :
    (ofHistory region (before ++ after)).index? id = some position := by
  rw [(follows_ofHistory region before).wellFormed.index?_eq_some_iff] at hposition
  rw [(follows_ofHistory region _).wellFormed.index?_eq_some_iff]
  exact ids_ofHistory_append_of_eq_some hposition

/-- No edge is listed twice. -/
theorem WellFormed.nodup_edges (hgraph : graph.WellFormed) : graph.edges.Nodup := by
  rw [edges, List.nodup_flatMap]
  refine ⟨fun node hnode => ?_, ?_⟩
  · exact (hgraph.nodup_callees node hnode).map fun _ _ hsame => (Prod.mk.inj hsame).2
  -- Edges of different nodes differ in their callers.
  · refine (List.pairwise_map.1 hgraph.nodup_ids).imp fun {node other} hne edge hedge hother => ?_
    obtain ⟨_, -, rfl⟩ := List.mem_map.1 hedge
    obtain ⟨_, -, hsame⟩ := List.mem_map.1 hother
    exact hne (Prod.mk.inj hsame).1.symm

/-- The graph of a history draws the calls of the history. -/
theorem Follows.hasEdge_iff (hgraph : Follows history graph) {caller callee : String} :
    graph.hasEdge caller callee = true ↔ (caller, callee) ∈ GraphStep.calls history := by
  rw [hasEdge, List.contains_iff_mem, hgraph.callees_eq, List.mem_eraseDups,
    GraphStep.mem_callees_iff]

/-- It has as many edges as different calls are drawn. -/
theorem Follows.edgeCount_eq (hgraph : Follows history graph) :
    graph.edgeCount = (GraphStep.calls history).toFinset.card := by
  rw [edgeCount, ← List.toFinset_card_of_nodup hgraph.wellFormed.nodup_edges]
  congr 1
  ext ⟨caller, callee⟩
  rw [List.mem_toFinset, List.mem_toFinset, hgraph.wellFormed.mem_edges_iff, hgraph.callees_eq,
    List.mem_eraseDups, GraphStep.mem_callees_iff]

/-- The node that is found for a function is the one that bears its id. -/
theorem WellFormed.node?_eq_some_iff (hgraph : graph.WellFormed) {node : FunctionNode} :
    graph.node? id = some node ↔ node ∈ graph.nodes ∧ node.id = id := by
  refine ⟨mem_nodes_of_node?_eq_some, ?_⟩
  rintro ⟨hnode, rfl⟩
  exact hgraph.node?_of_mem hnode

/-- A function has a node as soon as it is mentioned. -/
theorem Follows.isSome_node?_iff (hgraph : Follows history graph) :
    (graph.node? id).isSome ↔ id ∈ GraphStep.mentioned history := by
  rw [← List.mem_eraseDups, ← hgraph.ids_eq]
  refine ⟨fun hsome => ?_, fun hid => Option.isSome_iff_exists.2 (exists_node?_of_mem_ids hid)⟩
  obtain ⟨node, hnode⟩ := Option.isSome_iff_exists.1 hsome
  exact mem_ids_iff.2 ⟨node, mem_nodes_of_node?_eq_some hnode⟩

end CallGraph

end CallForest
