import CallForest.Proofs.Graph.Cycle
import CallForest.Proofs.Graph.Index

/-! # Roots by way of an index

The calls that lead to each function are counted at its position, which fails if the index is wrong.
The index of every history is right, so that nothing fails, and what is counted to zero are the
functions that nobody calls.

* `IndexedGraph.inDegrees?`, `IndexedGraph.roots?`: counts by position, and the roots.
* `IndexedGraph.Indexes.inDegrees?_eq`: what is counted.
* `CallGraph.Uncalled`: the functions that nobody calls.
* `CallGraph.roots_ofHistory`: the roots of every history. -/

namespace CallForest

open Relation

namespace IndexedGraph

/-! ### Counting by position -/

/-- Counts a call at the position of the function that it leads to. There must be an entry for that
function, and a count at its position. -/
def countCall? (graph : IndexedGraph) (counts : List Nat) (callee : String) :
    Option (List Nat) := do
  let position ← graph.index[callee]?
  if position < counts.length then return counts.modify position (· + 1) else none

/-- The number of calls that lead to each node, by position. -/
def inDegrees? (graph : IndexedGraph) : Option (List Nat) :=
  (graph.edges.map Prod.snd).foldlM graph.countCall? (List.replicate graph.nodes.length 0)

/-- The nodes that no call leads to, in order of insertion, if counting does not fail. -/
def roots? (graph : IndexedGraph) : Option (List FunctionNode) := do
  let counts ← graph.inDegrees?
  return ((graph.nodes.zip counts).filter (·.2 = 0)).map Prod.fst

namespace Indexes

variable {graph : IndexedGraph} {callee : String}

/-! ### Counts -/

/-- **One more call** is counted at its function, which has an entry as it has a node. -/
theorem countCall?_eq (hgraph : graph.Indexes) (hcallee : callee ∈ graph.ids)
    (counted : List String) :
    graph.countCall? (graph.nodes.map fun node => counted.count node.id) callee =
      some (graph.nodes.map fun node => (counted ++ [callee]).count node.id) := by
  obtain ⟨position, hposition⟩ : ∃ position, graph.toCallGraph.index? callee = some position := by
    rw [← Option.ne_none_iff_exists']
    exact fun hnone => CallGraph.index?_eq_none_iff.1 hnone hcallee
  have hlt := CallGraph.lt_length_of_index? hposition
  rw [← List.length_map (fun node : FunctionNode => counted.count node.id)] at hlt
  rw [countCall?, hgraph.getElem?_eq, hposition]
  simp only [Option.bind_eq_bind, Option.bind_some, if_pos hlt]
  rw [hgraph.wellFormed.modify_map hposition]
  refine congrArg some (List.map_congr_left fun node _ => ?_)
  by_cases hsame : node.id = callee
  · simp [hsame]
  · simp [hsame, Ne.symm hsame]

/-- Calls are counted one after the other. -/
theorem foldlM_countCall? (hgraph : graph.Indexes) {callees : List String}
    (hcallees : ∀ callee ∈ callees, callee ∈ graph.ids) (counted : List String) :
    callees.foldlM graph.countCall? (graph.nodes.map fun node => counted.count node.id) =
      some (graph.nodes.map fun node => (counted ++ callees).count node.id) := by
  induction callees generalizing counted with
  | nil => simp
  | cons callee callees ih =>
      obtain ⟨hcallee, hrest⟩ := List.forall_mem_cons.1 hcallees
      rw [List.foldlM_cons, hgraph.countCall?_eq hcallee counted]
      simpa using ih hrest (counted ++ [callee])

/-- **Counting does not fail**, and counts at the position of each function how many calls lead to
it. -/
theorem inDegrees?_eq (hgraph : graph.Indexes) :
    graph.inDegrees? = some (graph.nodes.map fun node => graph.inDegree node.id) := by
  have hcallees : ∀ callee ∈ graph.edges.map Prod.snd, callee ∈ graph.ids := by
    intro callee hcallee
    obtain ⟨⟨caller, _⟩, hedge, rfl⟩ := List.mem_map.1 hcallee
    exact hgraph.wellFormed.mem_ids_of_callee (hgraph.wellFormed.mem_edges_iff.1 hedge)
  have hcount := hgraph.foldlM_countCall? hcallees []
  have hzero : (graph.nodes.map fun node => ([] : List String).count node.id) =
      List.replicate graph.nodes.length 0 := by simp
  rw [hzero] at hcount
  rw [inDegrees?, hcount]
  refine congrArg some (List.map_congr_left fun node _ => ?_)
  rw [List.nil_append, List.count, List.countP_map, CallGraph.inDegree]
  exact List.countP_congr fun edge _ => by simp

/-- The nodes whose counts are zero are the roots. -/
theorem roots?_eq (hgraph : graph.Indexes) : graph.roots? = some graph.toCallGraph.roots := by
  rw [roots?, hgraph.inDegrees?_eq, Option.bind_eq_bind, Option.bind_some,
    ← List.map_prod_left_eq_zip]
  simp [List.filter_map, Function.comp_def, CallGraph.roots]

end Indexes

end IndexedGraph

namespace CallGraph

variable {graph : CallGraph} {id : String}

/-! ### Roots -/

/-- **Nobody calls** a function. -/
def Uncalled (graph : CallGraph) (id : String) : Prop :=
  ∀ caller, graph.hasEdge caller id = false

/-- Only functions of the graph call anything, so that it is enough to ask those. -/
theorem uncalled_iff :
    graph.Uncalled id ↔ ∀ caller ∈ graph.ids, graph.hasEdge caller id = false := by
  refine ⟨fun hnone caller _ => hnone caller, fun hnone caller => ?_⟩
  rw [Bool.eq_false_iff]
  intro hedge
  have hcaller := mem_ids_of_mem_callees (calls_iff_hasEdge.2 hedge)
  simp [hnone caller hcaller] at hedge

/-- Whether nobody calls a function is decided by asking all functions. -/
instance (graph : CallGraph) (id : String) : Decidable (graph.Uncalled id) :=
  decidable_of_iff _ uncalled_iff.symm

/-- The roots are the nodes of the functions that nobody calls, in order of insertion. -/
theorem WellFormed.roots_eq_filter (hgraph : graph.WellFormed) :
    graph.roots = graph.nodes.filter fun node => graph.Uncalled node.id := by
  refine List.filter_congr fun node hnode => ?_
  have hroot : node ∈ graph.roots ↔ _ := hgraph.mem_roots_iff
  rw [roots, List.mem_filter, and_iff_right hnode, and_iff_right hnode] at hroot
  rw [decide_eq_decide, ← decide_eq_true_iff (p := graph.inDegree node.id = 0), hroot]
  simp [Uncalled, hasEdge]

/-- **The roots of every history** are found by counting with positions, which no operation of the
history and no call makes fail. They are the nodes of the functions that nobody calls, in order of
insertion. In an acyclic graph with any node there are some, and they reach all functions along
calls. -/
theorem roots_ofHistory (region : String) (history : List GraphStep) :
    (∃ graph, IndexedGraph.ofHistory? region history = some graph ∧
      graph.toCallGraph = ofHistory region history ∧
      graph.roots? = some (ofHistory region history).roots) ∧
    (ofHistory region history).roots = (ofHistory region history).nodes.filter
      (fun node => (ofHistory region history).Uncalled node.id) ∧
    ((ofHistory region history).Acyclic → (ofHistory region history).nodes ≠ [] →
      (ofHistory region history).roots ≠ [] ∧
        ∀ id ∈ (ofHistory region history).ids, ∃ root ∈ (ofHistory region history).roots,
          ReflTransGen (ofHistory region history).Calls root.id id) := by
  have hgraph := wellFormed_ofHistory region history
  refine ⟨?_, hgraph.roots_eq_filter, fun hacyclic hnodes => ?_⟩
  · obtain ⟨graph, hhistory, hright, hsame⟩ :=
      IndexedGraph.exists_ofHistory?_eq_some region history
    have hroots := hright.roots?_eq
    rw [hsame] at hroots
    exact ⟨graph, hhistory, hsame, hroots⟩
  · have hreached : ∀ id ∈ (ofHistory region history).ids,
        ∃ root ∈ (ofHistory region history).roots,
          ReflTransGen (ofHistory region history).Calls root.id id := by
      intro id hid
      obtain ⟨rootId, hroot, hwalk⟩ := hgraph.fromRoot_of_acyclic hacyclic hid
      obtain ⟨root, hmem, rfl⟩ := List.mem_map.1 hroot
      exact ⟨root, hmem, hwalk⟩
    -- Some root reaches the first function, so there is one.
    obtain ⟨node, rest, hcons⟩ := List.exists_cons_of_ne_nil hnodes
    obtain ⟨root, hroot, -⟩ := hreached node.id
      (mem_ids_iff.2 ⟨node, by rw [hcons]; exact List.mem_cons_self, rfl⟩)
    exact ⟨List.ne_nil_of_mem hroot, hreached⟩

/-- Two functions that call a third one, and a function alone. -/
def twoCallers : List GraphStep :=
  [.ensureNode "b", .addEdge "a" "c", .addEdge "b" "c", .ensureNode "d"]

/-- Both callers and the function alone are roots, in the order in which they were inserted. -/
theorem roots_ofHistory_twoCallers :
    (ofHistory "main" twoCallers).Acyclic ∧ (ofHistory "main" twoCallers).nodes ≠ [] ∧
      (ofHistory "main" twoCallers).roots.map (·.id) = ["b", "a", "d"] ∧
      ∀ id ∈ (ofHistory "main" twoCallers).ids, ∃ root ∈ (ofHistory "main" twoCallers).roots,
        ReflTransGen (ofHistory "main" twoCallers).Calls root.id id := by
  have hgraph := wellFormed_ofHistory "main" twoCallers
  have hedges : (ofHistory "main" twoCallers).edges = [("b", "c"), ("a", "c")] := by cbv
  -- What is called calls nothing.
  have hacyclic : (ofHistory "main" twoCallers).Acyclic := by
    intro id hcycle
    obtain ⟨callee, hcall, -⟩ := TransGen.head'_iff.1 hcycle
    obtain ⟨caller, -, hback⟩ := TransGen.tail'_iff.1 hcycle
    rw [Calls, ← hgraph.mem_edges_iff, hedges] at hcall hback
    simp only [List.mem_cons, Prod.mk.injEq, List.not_mem_nil, or_false] at hcall hback
    rcases hback with ⟨-, rfl⟩ | ⟨-, rfl⟩ <;> simp at hcall
  have hnodes : (ofHistory "main" twoCallers).nodes ≠ [] := by
    intro hnil
    rw [edges, hnil] at hedges
    cases hedges
  obtain ⟨-, -, hroots⟩ := roots_ofHistory "main" twoCallers
  exact ⟨hacyclic, hnodes, by cbv, (hroots hacyclic hnodes).2⟩

end CallGraph

end CallForest
