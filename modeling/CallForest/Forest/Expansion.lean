import CallForest.Forest.Basic

/-! # Expansion of a call graph

A call graph without cycles expands into a forest: its roots are the functions that nobody calls,
and below each copy of a function stand copies of the functions it calls. A function that is
reachable along several call paths is copied once per path. Only a function that is called again *on
its own path* is a cycle, so functions shared between paths are never refused.

* `CycleError`: the function through which a region's call graph has a cycle.
* `CallGraph.grow`: the trees below a call path, as far as they can be grown.
* `CallGraph.expand`: the forest of a call graph, or its cycle. -/

namespace CallForest

/-- The call graph of a region has a cycle through a function. -/
structure CycleError where
  /-- The region whose call graph has the cycle. -/
  region : String
  /-- A function on the cycle. -/
  id : String
  deriving DecidableEq, Repr

/-- How a cycle is reported. -/
def CycleError.message (error : CycleError) : String :=
  "call graph of region `" ++ error.region ++ "` has a cycle through `" ++ error.id ++ "`"

/-! ## Growing below a path -/

/-- What has been grown below a path: the trees, and the function that stopped the growth by being
called again on its own path. -/
structure Growth where
  /-- The trees, complete unless the growth was stopped. -/
  grove : Grove
  /-- The function that was called again on its own path, if one was. -/
  repeated : Option String
  deriving DecidableEq, Repr

namespace CallGraph

/-- The functions of a graph that are not on a path. -/
def offPath (graph : CallGraph) (path : List String) : List String :=
  graph.ids.filter (· ∉ path)

/-- A path that takes in one more function of the graph leaves fewer functions off it. -/
theorem length_offPath_cons_lt {graph : CallGraph} {path : List String} {id : String}
    {node : FunctionNode} (off_path : id ∉ path) (found : graph.node? id = some node) :
    (graph.offPath (id :: path)).length < (graph.offPath path).length := by
  have mem_ids : id ∈ graph.ids := by
    have mem := List.mem_of_find?_eq_some found
    have same : node.id = id := by simpa [node?] using List.find?_some found
    exact List.mem_map.2 ⟨node, mem, same⟩
  have split : graph.offPath (id :: path) = (graph.offPath path).filter (· ≠ id) := by
    simp only [offPath, List.filter_filter]
    congr 1
    funext other
    by_cases same : other = id <;> simp [same]
  rw [split]
  refine List.length_filter_lt_length_iff_exists.2 ⟨id, ?_, by simp⟩
  exact List.mem_filter.2 ⟨mem_ids, by simpa using off_path⟩

/-- Grows the trees of `ids` below a call path, given with its end first. The growth stops at the
first function that is on its own path already. -/
def grow (graph : CallGraph) (path : List String) : List String → Growth
  | [] => ⟨.bare, none⟩
  | id :: ids =>
    if _ : id ∈ path then ⟨.bare, some id⟩
    else
      match _ : graph.node? id with
      | none => graph.grow path ids
      | some node =>
        let below := graph.grow (id :: path) node.callees
        match below.repeated with
        | some again => ⟨.plant id below.grove .bare, some again⟩
        | none =>
          let after := graph.grow path ids
          ⟨.plant id below.grove after.grove, after.repeated⟩
termination_by ids => ((graph.offPath path).length, ids.length)
decreasing_by
  · exact Prod.Lex.right _ (by simp)
  · exact Prod.Lex.left _ _ (length_offPath_cons_lt (by assumption) (by assumption))
  · exact Prod.Lex.right _ (by simp)

/-! ## The forest of a graph -/

/-- The first function, in order of insertion, that a grove has no copy of. -/
def uncovered? (graph : CallGraph) (grove : Grove) : Option String :=
  let covered := grove.sources
  graph.ids.find? (· ∉ covered)

/-- A function that shows a graph to be cyclic, together with what was grown from its roots. If
nothing is called by nobody, it is the first function; else the one that was called again on its own
path; else the first function that no path from a root reaches. -/
def growRoots (graph : CallGraph) : Growth :=
  match graph.roots with
  | [] => ⟨.bare, graph.ids.head?⟩
  | roots =>
    let growth := graph.grow [] (roots.map (·.id))
    match growth.repeated with
    | some again => ⟨growth.grove, some again⟩
    | none => ⟨growth.grove, graph.uncovered? growth.grove⟩

/-- The **expansion** of a call graph into a forest, or the cycle that prevents it. -/
def expand (graph : CallGraph) : Except CycleError Forest :=
  let growth := graph.growRoots
  match growth.repeated with
  | some id => .error ⟨graph.region, id⟩
  | none => .ok (.ofGrove graph.region growth.grove)

end CallGraph

end CallForest
