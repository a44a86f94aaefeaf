import CallForest.Proofs.Forest.Expansion
import CallForest.Proofs.Forest.Numbering
import CallForest.Proofs.Graph.Operation
import Mathlib.Data.List.Forall2

/-! # Attributes and topology

How functions are drawn does not matter to the forest of a graph: expansion reads the outline of the
graph, which tells what every function calls and nothing else. Conversely, giving attributes to the
copies of a forest changes nothing else about it. What is given last counts, and a copy of a
function that has no node keeps the attributes it has.

* `CallGraph.outline`, `CallGraph.expand_congr`: graphs of the same outline expand alike.
* `CallGraph.attributes?`, `Forest.nodes_applyAttributes`: how the copies of a function are drawn.
* `CallGraph.expand_setAttributes_applyAttributes`: attributes and topology are independent. -/

namespace CallForest

namespace CallGraph

variable {graph other : CallGraph} {id : String}

/-! ### Outlines -/

/-- The **outline** of a graph: its functions in order, each with what it calls, but not how they
are drawn. -/
def outline (graph : CallGraph) : List (String × List String) :=
  graph.nodes.map fun node => (node.id, node.callees)

/-- The outline lists the functions. -/
theorem ids_eq_outline (graph : CallGraph) : graph.ids = graph.outline.map Prod.fst := by
  rw [outline, List.map_map]
  rfl

/-- The outline tells the edges. -/
theorem edges_eq_outline (graph : CallGraph) :
    graph.edges =
      graph.outline.flatMap fun entry => entry.2.map fun callee => (entry.1, callee) := by
  rw [outline, List.flatMap_map]
  rfl

/-- The outline tells what the function of a node calls. -/
theorem node?_eq_outline (graph : CallGraph) (id : String) :
    (graph.node? id).map (·.callees) = (graph.outline.find? (·.1 = id)).map Prod.snd := by
  rw [node?, outline, List.find?_map, Option.map_map]
  rfl

/-- The roots are the functions that no edge leads to. -/
theorem rootIds_eq_filter (graph : CallGraph) :
    graph.rootIds = graph.ids.filter fun id => graph.inDegree id = 0 := by
  rw [rootIds, roots, ids, List.filter_map]
  rfl

/-- Graphs of the same outline have the same functions. -/
theorem ids_congr (houtline : graph.outline = other.outline) : graph.ids = other.ids := by
  rw [ids_eq_outline, houtline, ← ids_eq_outline]

/-- In graphs of the same outline a function has nodes that call the same, or has none. -/
theorem node?_congr (houtline : graph.outline = other.outline) (id : String) :
    (graph.node? id).map (·.callees) = (other.node? id).map (·.callees) := by
  rw [node?_eq_outline, houtline, ← node?_eq_outline]

/-- A function that has a node in a graph has one that calls the same in every graph of its outline.
-/
theorem exists_node?_congr (houtline : graph.outline = other.outline) {node : FunctionNode}
    (hnode : graph.node? id = some node) :
    ∃ node', other.node? id = some node' ∧ node'.callees = node.callees := by
  simpa [hnode] using (node?_congr houtline id).symm

/-- Graphs of the same outline have the same roots. -/
theorem rootIds_congr (houtline : graph.outline = other.outline) :
    graph.rootIds = other.rootIds := by
  have hedges : graph.edges = other.edges := by
    rw [edges_eq_outline, houtline, ← edges_eq_outline]
  have hdegree : graph.inDegree = other.inDegree := by
    funext id
    rw [inDegree, inDegree, hedges]
  rw [rootIds_eq_filter, rootIds_eq_filter, ids_congr houtline, hdegree]

/-! ### Expansion reads the outline -/

/-- **Graphs of the same outline grow alike**, step by step. -/
theorem grow_congr (houtline : graph.outline = other.outline) (path ids : List String) :
    graph.grow path ids = other.grow path ids := by
  induction path, ids using grow.induct graph with
  | case1 path => rw [grow, grow]
  | case2 path id ids hpath => rw [grow, dif_pos hpath, grow, dif_pos hpath]
  | case3 path id ids hpath hnone ih =>
      have hnone' : other.node? id = none := by simpa [hnone] using (node?_congr houtline id).symm
      rw [grow_of_node?_eq_none hpath hnone, grow_of_node?_eq_none hpath hnone', ih]
  | case4 path id ids hpath node hfound below repeated hrepeated ih =>
      obtain ⟨node', hfound', hsame⟩ := exists_node?_congr houtline hfound
      have hstop : (graph.grow (id :: path) node.callees).repeated = some repeated := hrepeated
      rw [grow_of_node? hpath hfound, grow_of_node? hpath hfound', hsame, ← ih, hstop]
  | case5 path id ids hpath node hfound below hrepeated ihbelow ihnext =>
      obtain ⟨node', hfound', hsame⟩ := exists_node?_congr houtline hfound
      rw [grow_of_node? hpath hfound, grow_of_node? hpath hfound', hsame, ← ihbelow, ihnext]

/-- **Graphs of the same region and outline expand alike**, into a forest or to a cycle. -/
theorem expand_congr (hregion : graph.region = other.region)
    (houtline : graph.outline = other.outline) : graph.expand = other.expand := by
  have hgrowth : graph.growRoots = other.growRoots := by
    rw [growRoots_eq, growRoots_eq, grow_congr houtline, rootIds_congr houtline]
    simp only [uncovered?, ids_congr houtline]
  rw [expand, expand, hgrowth, hregion]

/-- Giving a function of the graph attributes keeps the outline. -/
theorem outline_setAttributes (hid : id ∈ graph.ids) (attributes : Attributes) :
    (graph.setAttributes id attributes).outline = graph.outline := by
  rw [setAttributes, modifyNode, ensureNode_of_mem hid, outline, outline, List.map_map]
  refine List.map_congr_left fun node _ => ?_
  by_cases hsame : node.id = id
  · rw [Function.comp_apply, if_pos hsame]
  · rw [Function.comp_apply, if_neg hsame]

/-- How a function is drawn in a graph, if it has a node there. -/
def attributes? (graph : CallGraph) (id : String) : Option Attributes :=
  (graph.node? id).map (·.attributes)

end CallGraph

namespace Forest

/-! ### Copies and their attributes -/

/-- Giving a forest attributes changes every copy of a function that has a node, and nothing but its
attributes. -/
theorem nodes_applyAttributes (forest : Forest) (graph : CallGraph) :
    (forest.applyAttributes graph).nodes = forest.nodes.map fun node =>
      { node with attributes := (graph.attributes? node.source).getD node.attributes } := by
  rw [applyAttributes]
  refine List.map_congr_left fun node _ => ?_
  rw [CallGraph.attributes?]
  cases graph.node? node.source <;> rfl

/-- Attributes leave the number of nodes alone. -/
@[simp] theorem size_applyAttributes (forest : Forest) (graph : CallGraph) :
    (forest.applyAttributes graph).size = forest.size := by
  rw [size, nodes_applyAttributes, List.length_map, size]

/-- Attributes leave the number of edges alone. -/
@[simp] theorem edgeCount_applyAttributes (forest : Forest) (graph : CallGraph) :
    (forest.applyAttributes graph).edgeCount = forest.edgeCount := by
  rw [edgeCount, nodes_applyAttributes, List.countP_map, edgeCount]
  rfl

/-- Of two graphs that give attributes, the last one counts. -/
theorem nodes_applyAttributes_applyAttributes (forest : Forest) (graph other : CallGraph) :
    ((forest.applyAttributes graph).applyAttributes other).nodes = forest.nodes.map fun node =>
      { node with
        attributes := (other.attributes? node.source).getD
          ((graph.attributes? node.source).getD node.attributes) } := by
  rw [nodes_applyAttributes, nodes_applyAttributes, List.map_map]
  rfl

/-- Giving the same attributes again changes nothing. -/
theorem applyAttributes_applyAttributes (forest : Forest) (graph : CallGraph) :
    (forest.applyAttributes graph).applyAttributes graph = forest.applyAttributes graph := by
  have hnodes : ((forest.applyAttributes graph).applyAttributes graph).nodes =
      (forest.applyAttributes graph).nodes := by
    rw [nodes_applyAttributes_applyAttributes, nodes_applyAttributes]
    refine List.map_congr_left fun node _ => ?_
    cases graph.attributes? node.source <;> rfl
  rw [applyAttributes] at hnodes ⊢
  exact congrArg (Forest.mk forest.region · forest.roots) hnodes

end Forest

namespace CallGraph

/-- The copies of an expanded graph are drawn as the functions of the graph. -/
theorem WellFormed.attributes?_of_mem_applyAttributes {graph : CallGraph}
    (hgraph : graph.WellFormed) {forest : Forest} (hforest : graph.expand = .ok forest)
    {node : BranchNode} (hnode : node ∈ (forest.applyAttributes graph).nodes) :
    graph.attributes? node.source = some node.attributes := by
  obtain ⟨grove, rfl, -, hsources⟩ := hgraph.exists_unfolds_of_expand_eq_ok hforest
  rw [Forest.nodes_applyAttributes] at hnode
  obtain ⟨copy, hcopy, rfl⟩ := List.mem_map.1 hnode
  have hsource : copy.source ∈ grove.sources := by
    rw [← grove.map_source_number 0 none 0]
    exact List.mem_map_of_mem hcopy
  obtain ⟨function, hfound⟩ := exists_node?_of_mem_ids ((hsources _).1 hsource)
  simp [attributes?, hfound]

/-- **Attributes and topology are independent.** Giving a function of a graph attributes changes
nothing about the expansion of the graph. Giving the copies of any forest the attributes of a graph
changes nothing but the attributes of its nodes, and nothing at all when it is repeated; of two
graphs the last one that has a node for the function of a copy counts. So the copies of an expanded
graph are drawn as its functions are. -/
theorem expand_setAttributes_applyAttributes (region : String) (history : List GraphStep) :
    (∀ id ∈ (ofHistory region history).ids, ∀ attributes,
      ((ofHistory region history).setAttributes id attributes).expand =
        (ofHistory region history).expand) ∧
    (∀ (forest : Forest) (graph : CallGraph),
      (forest.applyAttributes graph).region = forest.region ∧
      (forest.applyAttributes graph).roots = forest.roots ∧
      List.Forall₂ (fun node drawn : BranchNode =>
          drawn = { node with attributes := drawn.attributes })
        forest.nodes (forest.applyAttributes graph).nodes) ∧
    (∀ (forest : Forest) (graph : CallGraph),
      (forest.applyAttributes graph).applyAttributes graph = forest.applyAttributes graph) ∧
    (∀ (forest : Forest) (graph other : CallGraph),
      ((forest.applyAttributes graph).applyAttributes other).nodes.map (·.attributes) =
        forest.nodes.map fun node => (other.attributes? node.source).getD
          ((graph.attributes? node.source).getD node.attributes)) ∧
    ∀ forest, (ofHistory region history).expand = .ok forest →
      ∀ node ∈ (forest.applyAttributes (ofHistory region history)).nodes,
        (ofHistory region history).attributes? node.source = some node.attributes := by
  refine ⟨fun id hid attributes => ?_, fun forest graph => ⟨rfl, rfl, ?_⟩,
    Forest.applyAttributes_applyAttributes, fun forest graph other => ?_,
    fun forest hforest node hnode => ?_⟩
  · exact expand_congr (region_modifyNode _) (outline_setAttributes hid attributes)
  · rw [Forest.nodes_applyAttributes, List.forall₂_map_right_iff, List.forall₂_same]
    intro node _
    rfl
  · rw [Forest.nodes_applyAttributes_applyAttributes, List.map_map]
    rfl
  · exact (wellFormed_ofHistory region history).attributes?_of_mem_applyAttributes hforest hnode

/-- A function that is called from two sides, and is drawn as one with a marker. -/
def flaggedLeaf : List GraphStep :=
  [.addEdge "main" "a", .addEdge "main" "b", .addEdge "a" "leaf", .addEdge "b" "leaf",
    .setAttributes "leaf" (.filled "leaf -T" .orange)]

/-- Both copies of the function are drawn so, and drawing it otherwise leaves the expansion as it
is. -/
theorem expand_setAttributes_applyAttributes_flaggedLeaf :
    ((ofHistory "main" flaggedLeaf).setAttributes "leaf" (.plain "leaf")).expand =
        (ofHistory "main" flaggedLeaf).expand ∧
      ∃ forest : Forest, (ofHistory "main" flaggedLeaf).expand = .ok forest ∧
        forest.copiesOf "leaf" = 2 ∧
        ∀ node ∈ (forest.applyAttributes (ofHistory "main" flaggedLeaf)).nodes,
          node.source = "leaf" → node.attributes = .filled "leaf -T" .orange := by
  obtain ⟨hexpand, -, -, -, hdrawn⟩ := expand_setAttributes_applyAttributes "main" flaggedLeaf
  have hforest : (ofHistory "main" flaggedLeaf).expand = .ok (.ofGrove "main" (.plant "main"
      (.plant "a" (.plant "leaf" .bare .bare) (.plant "b" (.plant "leaf" .bare .bare) .bare))
      .bare)) := by cbv
  have hids : (ofHistory "main" flaggedLeaf).ids = ["main", "a", "b", "leaf"] := by cbv
  have hleaf : (ofHistory "main" flaggedLeaf).attributes? "leaf" =
      some (.filled "leaf -T" .orange) := by cbv
  refine ⟨hexpand "leaf" (by simp [hids]) _, _, hforest, by decide, ?_⟩
  intro node hnode hsource
  have hattributes := hdrawn _ hforest node hnode
  rw [hsource, hleaf] at hattributes
  exact (Option.some.inj hattributes).symm

end CallGraph

end CallForest
