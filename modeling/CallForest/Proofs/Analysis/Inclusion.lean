import CallForest.Proofs.Analysis.Drawing
import CallForest.Proofs.Forest.Attributes
import CallForest.Proofs.Graph.History

/-! # Showing passing cases too

Passing cases are drawn before failing ones. They can change the graph of the failing cases: a
failing function may have been drawn before as a passing one, and a call of a failing function is
left out when a passing function has drawn it the other way round. Still nothing about failing cases
is hidden: functions stay and look the same, and calls at most change their direction.

* `CallGraph.turn`: a call in the direction in which a graph draws it.
* `Records.mem_ids_of_append`, `Records.attributes?_append`, `Records.hasEdge_append`,
  `Records.edgeCount_le_append`: what cases that are drawn before others leave of them.
* `Region.callGraph_includePassing`: the same of passing and failing cases. -/

namespace CallForest

namespace DrawnCase

variable {earlier shown : List DrawnCase}

/-- Calls that are named by cases one behind the other. -/
theorem namedCalls_append (earlier shown : List DrawnCase) :
    namedCalls (earlier ++ shown) = namedCalls earlier ++ namedCalls shown :=
  List.flatMap_append

/-- Functions that are mentioned by cases one behind the other. -/
theorem mentioned_append (earlier shown : List DrawnCase) :
    mentioned (earlier ++ shown) = mentioned earlier ++ mentioned shown :=
  List.flatMap_append

/-- Earlier cases do not count for a function that has a later one. -/
theorem lastAttributes_append {one : DrawnCase} (hone : one ∈ shown) :
    lastAttributes (earlier ++ shown) one.id = lastAttributes shown one.id := by
  have hown : shown.filter (·.id = one.id) ≠ [] :=
    List.ne_nil_of_mem (List.mem_filter.2 ⟨hone, by simp⟩)
  rw [lastAttributes, lastAttributes, List.filter_append, List.getLast?_append_of_ne_nil _ hown]

end DrawnCase

namespace CallGraph

variable {graph : CallGraph} {edge other : String × String}

/-- The edges are the calls that are drawn. -/
theorem WellFormed.mem_edges_iff_hasEdge (hgraph : graph.WellFormed) :
    edge ∈ graph.edges ↔ graph.hasEdge edge.1 edge.2 = true := by
  rw [hasEdge, List.contains_iff_mem]
  exact hgraph.mem_edges_iff

/-- A call in the direction in which a graph draws it: the other way round, unless it is drawn as it
is. -/
def turn (graph : CallGraph) (edge : String × String) : String × String :=
  if graph.hasEdge edge.1 edge.2 then edge else edge.swap

/-- A call that is drawn in some direction is drawn in the one that it is turned to. -/
theorem hasEdge_turn
    (hdrawn : graph.hasEdge edge.1 edge.2 = true ∨ graph.hasEdge edge.2 edge.1 = true) :
    graph.hasEdge (graph.turn edge).1 (graph.turn edge).2 = true := by
  by_cases hedge : graph.hasEdge edge.1 edge.2 = true
  · rwa [turn, if_pos hedge]
  · rw [turn, if_neg hedge]
    exact hdrawn.resolve_left hedge

/-- Calls that are turned to the same one differ at most in their directions. -/
theorem eq_or_eq_swap_of_turn_eq (hsame : graph.turn edge = graph.turn other) :
    edge = other ∨ edge = other.swap := by
  rw [turn, turn] at hsame
  split_ifs at hsame
  · exact .inl hsame
  · exact .inr hsame
  · exact .inr (Prod.swap_eq_iff_eq_swap.1 hsame)
  · exact .inl (Prod.swap_injective hsame)

end CallGraph

namespace Records

variable {earlier shown : List DrawnCase} {graph more : CallGraph} {id caller callee : String}

/-- A case that is recorded has a node, which looks as the last case of its function says. -/
theorem attributes?_eq (hgraph : Records shown graph) {one : DrawnCase} (hone : one ∈ shown) :
    graph.attributes? one.id = some (DrawnCase.lastAttributes shown one.id) := by
  have hid : one.id ∈ graph.ids := by
    rw [hgraph.ids_eq, List.mem_eraseDups]
    exact List.mem_flatMap.2 ⟨one, hone, List.mem_cons_self⟩
  obtain ⟨node, hnode⟩ := CallGraph.exists_node?_of_mem_ids hid
  rw [← hgraph.attributes_eq, CallGraph.attributes?, CallGraph.nodeFor, hnode]
  rfl

/-- The calls that are drawn are those that prevail. -/
theorem hasEdge_iff (hgraph : Records shown graph) :
    graph.hasEdge caller callee = true ↔ Prevails (DrawnCase.namedCalls shown) caller callee := by
  rw [← hgraph.calls.mem_callees_iff, CallGraph.hasEdge, List.contains_iff_mem]

section

variable (hgraph : Records shown graph) (hmore : Records (earlier ++ shown) more)

include hgraph hmore

/-- Every function keeps a node. -/
theorem mem_ids_of_append (hid : id ∈ graph.ids) : id ∈ more.ids := by
  rw [hgraph.ids_eq, List.mem_eraseDups] at hid
  rw [hmore.ids_eq, List.mem_eraseDups, DrawnCase.mentioned_append]
  exact List.mem_append_right _ hid

/-- The functions of the cases look the same. -/
theorem attributes?_append {one : DrawnCase} (hone : one ∈ shown) :
    more.attributes? one.id = graph.attributes? one.id := by
  rw [hmore.attributes?_eq (List.mem_append_right _ hone), hgraph.attributes?_eq hone,
    DrawnCase.lastAttributes_append hone]

/-- **A call stays, or is drawn the other way round**: it is named in either case. -/
theorem hasEdge_append (hedge : graph.hasEdge caller callee = true) :
    more.hasEdge caller callee = true ∨ more.hasEdge callee caller = true := by
  rw [hgraph.hasEdge_iff] at hedge
  rw [hmore.hasEdge_iff, hmore.hasEdge_iff]
  refine Prevails.or_swap ?_
  rw [DrawnCase.namedCalls_append]
  exact List.mem_append_right _ hedge.1

/-- **There are no fewer calls**: no two of them fall together by changing their direction, as calls
between two functions are drawn in one direction only. -/
theorem edgeCount_le_append : graph.edgeCount ≤ more.edgeCount := by
  rw [CallGraph.edgeCount, CallGraph.edgeCount,
    ← List.toFinset_card_of_nodup hgraph.wellFormed.nodup_edges,
    ← List.toFinset_card_of_nodup hmore.wellFormed.nodup_edges]
  refine Finset.card_le_card_of_injOn more.turn ?_ ?_
  · intro edge hedge
    rw [Finset.mem_coe, List.mem_toFinset, hgraph.wellFormed.mem_edges_iff_hasEdge] at hedge
    rw [Finset.mem_coe, List.mem_toFinset, hmore.wellFormed.mem_edges_iff_hasEdge]
    exact CallGraph.hasEdge_turn (hasEdge_append hgraph hmore hedge)
  · intro edge hedge other hother hsame
    rw [Finset.mem_coe, List.mem_toFinset, hgraph.wellFormed.mem_edges_iff_hasEdge,
      hgraph.hasEdge_iff] at hedge hother
    rcases CallGraph.eq_or_eq_swap_of_turn_eq hsame with hpair | rfl
    · exact hpair
    -- A call that is drawn in both directions is a call of a function itself.
    · have hself := hedge.antisymm hother
      exact Prod.ext hself hself.symm

end

end Records

namespace Region

/-- **Showing passing cases hides nothing about failing ones.** Every function stays, the failing
functions look the same, every call is drawn in the same direction or the other one, and there are
no fewer calls. -/
theorem callGraph_includePassing (region : Region) :
    (∀ id ∈ (region.callGraph ⟨false, true⟩).ids, id ∈ (region.callGraph ⟨true, true⟩).ids) ∧
      (∀ shown ∈ region.failing, ∃ attributes,
        (region.callGraph ⟨false, true⟩).attributes? shown.id = some attributes ∧
          (region.callGraph ⟨true, true⟩).attributes? shown.id = some attributes) ∧
      (∀ caller callee, (region.callGraph ⟨false, true⟩).hasEdge caller callee = true →
        (region.callGraph ⟨true, true⟩).hasEdge caller callee = true ∨
          (region.callGraph ⟨true, true⟩).hasEdge callee caller = true) ∧
      (region.callGraph ⟨false, true⟩).edgeCount ≤ (region.callGraph ⟨true, true⟩).edgeCount := by
  have hgraph : Records (region.failing.map FailingCase.drawn)
      (region.callGraph ⟨false, true⟩) := by
    simpa [drawnCases] using region.records_callGraph ⟨false, true⟩
  have hmore : Records (region.passing.map PassingCase.drawn ++
      region.failing.map FailingCase.drawn) (region.callGraph ⟨true, true⟩) := by
    simpa [drawnCases] using region.records_callGraph ⟨true, true⟩
  refine ⟨fun id => Records.mem_ids_of_append hgraph hmore, fun shown hshown => ?_,
    fun caller callee => Records.hasEdge_append hgraph hmore,
    Records.edgeCount_le_append hgraph hmore⟩
  have hdrawn : shown.drawn ∈ region.failing.map FailingCase.drawn := List.mem_map_of_mem hshown
  have hsame := Records.attributes?_append hgraph hmore hdrawn
  have hattributes := hgraph.attributes?_eq hdrawn
  exact ⟨_, hattributes, hsame.trans hattributes⟩

/-- A failing function and a passing one that call each other. -/
def mutualCalls : Region :=
  ⟨"main", none, none, none, [⟨"passing", ["failing"], false, [.null]⟩],
    [⟨"failing", ["passing"], true, false, false⟩]⟩

/-- The call of the failing function is drawn the other way round when the passing one is shown. -/
theorem callGraph_includePassing_mutualCalls :
    (mutualCalls.callGraph ⟨false, true⟩).hasEdge "failing" "passing" = true ∧
      (mutualCalls.callGraph ⟨true, true⟩).hasEdge "failing" "passing" = false ∧
      (mutualCalls.callGraph ⟨true, true⟩).hasEdge "passing" "failing" = true := by
  have hedge : (mutualCalls.callGraph ⟨false, true⟩).hasEdge "failing" "passing" = true := by
    decide
  have hleft : (mutualCalls.callGraph ⟨true, true⟩).hasEdge "failing" "passing" = false := by
    decide
  obtain ⟨-, -, hcalls, -⟩ := callGraph_includePassing mutualCalls
  exact ⟨hedge, hleft, (hcalls _ _ hedge).resolve_left (by simp [hleft])⟩

end Region

end CallForest
