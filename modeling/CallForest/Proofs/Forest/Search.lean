import CallForest.Proofs.Forest.Growing
import Mathlib.Data.List.Perm.Subperm

/-! # Expansion in place

A graph can be expanded in place: each function that is visited is put on a path, each function that
it calls is pushed as a new node below it and visited in turn, and in the end it is taken from the
path again. Nothing in this gets smaller before one's eyes: the graph may be cyclic, and there is
one path for all that is going on. Yet visits lie within one another no deeper than there are
functions, because the path is always that from a root down to the function that is visited.

* `CallGraph.Search`, `CallGraph.visit`, `CallGraph.expandInPlace`: what a search changes, visits,
  and the expansion of a graph in place. There is no result where visits lie deeper within one
  another than they may.
* `CallGraph.Search.OnWayDown`: where a search stands while a function is visited.
* `CallGraph.Search.OnWayDown.settles_visitCallees`: what a search does below a function, by what is
  grown there.
* `CallGraph.WellFormed.expandInPlace_eq`: expansion in place is expansion.
* `CallGraph.expandInPlace_ofHistory`: visits come to an end, each of them on its way down. -/

namespace CallForest

namespace CallGraph

/-! ### Searches -/

/-- A **visit** of a function, as it begins. -/
structure Visit where
  /-- The function. -/
  source : String
  /-- The node of its copy. -/
  id : Nat
  /-- The functions on the path. -/
  onPath : Finset String
  /-- The forest so far. -/
  forest : Forest

/-- What happens in a search. -/
inductive SearchEvent where
  /-- A visit begins. -/
  | entered (visit : Visit)
  /-- A visit ends without a cycle, with some functions on the path. -/
  | returned (visit : Visit) (onPath : Finset String)

/-- What a **search** changes. -/
structure Search where
  /-- The forest so far. -/
  forest : Forest
  /-- The functions on the path. -/
  onPath : Finset String
  /-- What has happened so far. -/
  events : List SearchEvent

namespace Search

/-- The visit of a function that begins here. -/
def visit (search : Search) (source : String) (id : Nat) : Visit :=
  ⟨source, id, search.onPath, search.forest⟩

/-- A visit begins: the function is put on the path. -/
def enter (search : Search) (visit : Visit) : Search :=
  { search with
    onPath := insert visit.source search.onPath, events := search.events ++ [.entered visit] }

/-- A visit ends: the function is taken from the path. -/
def leave (search : Search) (visit : Visit) : Search :=
  { search with
    onPath := search.onPath.erase visit.source
    events := search.events ++ [.returned visit (search.onPath.erase visit.source)] }

/-- Pushes a node, below another one if that is given. -/
def push? (search : Search) (source : String) (parent : Option Nat) : Option Search :=
  (search.forest.push? source parent).map fun forest => { search with forest }

end Search

/-- What a search comes to: a cycle, or none, and what has been changed until then. -/
abbrev SearchResult := Except CycleError Unit × Search

/-- Goes on with a search unless it has found a cycle. -/
def SearchResult.andThen (next : Search → Option SearchResult) : SearchResult → Option SearchResult
  | (.ok (), search) => next search
  | (.error error, search) => some (.error error, search)

/-- Visits the functions that are called from a node, unless one of them is on the path. -/
def visitCallees (graph : CallGraph) (visit : FunctionNode → Nat → Search → Option SearchResult)
    (id : Nat) : List String → Search → Option SearchResult
  | [], search => some (.ok (), search)
  | callee :: callees, search =>
    if callee ∈ search.onPath then some (.error ⟨graph.region, callee⟩, search)
    else
      match graph.node? callee with
      | none => visitCallees graph visit id callees search
      | some node => do
        let pushed ← search.push? callee (some id)
        let result ← visit node search.forest.size pushed
        result.andThen (visitCallees graph visit id callees)

/-- **Visits a function** at a node, with some room for visits to lie within one another. -/
def visit (graph : CallGraph) : Nat → FunctionNode → Nat → Search → Option SearchResult
  | 0, _, _, _ => none
  | room + 1, node, id, search => do
    let visit := search.visit node.id id
    let result ← graph.visitCallees (graph.visit room) id node.callees (search.enter visit)
    result.andThen fun search => some (.ok (), search.leave visit)

/-- Visits a function at a new root. -/
def visitRoot (graph : CallGraph) (room : Nat) (node : FunctionNode) (search : Search) :
    Option SearchResult := do
  let pushed ← search.push? node.id none
  let forest := { pushed.forest with roots := pushed.forest.roots ++ [search.forest.size] }
  graph.visit room node search.forest.size { pushed with forest }

/-- Visits functions at new roots, one after the other. -/
def visitRoots (graph : CallGraph) (room : Nat) : List FunctionNode → Search → Option SearchResult
  | [], search => some (.ok (), search)
  | root :: roots, search => do
    let result ← graph.visitRoot room root search
    result.andThen (graph.visitRoots room roots)

/-- The **expansion of a graph in place**, with some room for visits to lie within one another. -/
def expandInPlace (graph : CallGraph) (room : Nat) : Option (Except CycleError Forest) :=
  match graph.nodes with
  | [] => some (.ok (.empty graph.region))
  | first :: _ =>
    match graph.roots with
    | [] => some (.error ⟨graph.region, first.id⟩)
    | roots => do
      let (outcome, search) ← graph.visitRoots room roots ⟨.empty graph.region, ∅, []⟩
      match outcome with
      | .error error => return .error error
      | .ok () =>
        let covered := search.forest.nodes.map (·.source)
        match graph.ids.find? (· ∉ covered) with
        | some id => return .error ⟨graph.region, id⟩
        | none => return .ok search.forest

/-! ### Searches on their way down -/

namespace Visit

/-- A visit **mirrors its way down**: on the path are the functions above its node, from the root
on, and these and its own function are different functions of the graph. -/
def MirrorsWayDown (graph : CallGraph) (visit : Visit) : Prop :=
  ∃ above : List String, visit.forest.pathTo? visit.id = some (above ++ [visit.source]) ∧
    visit.onPath = above.toFinset ∧ (above ++ [visit.source]).Nodup ∧
    ∀ source ∈ above ++ [visit.source], source ∈ graph.ids

end Visit

/-- What happens **as it should**: visits mirror their way down when they begin, and leave the path
as they found it when they end. -/
def SearchEvent.IsSound (graph : CallGraph) : SearchEvent → Prop
  | .entered visit => visit.MirrorsWayDown graph
  | .returned visit onPath => onPath = visit.onPath

variable {graph : CallGraph} {path : List String} {id : Nat} {search : Search}

/-- A search **on its way down**: visiting the functions that are called at a node, with the path to
that node, its end first, behind it. -/
structure Search.OnWayDown (graph : CallGraph) (path : List String) (id : Nat) (search : Search) :
    Prop where
  /-- No function is twice on the path. -/
  nodup : path.Nodup
  /-- The functions on the path are functions of the graph. -/
  mem_ids : ∀ source ∈ path, source ∈ graph.ids
  /-- The path that is kept is the path. -/
  onPath_eq : search.onPath = path.toFinset
  /-- The path leads from a root to the node. -/
  pathTo?_eq : search.forest.pathTo? id = some path.reverse
  /-- The node is there, as deep as the path is long. -/
  exists_node : ∃ node, search.forest.nodes[id]? = some node ∧ node.depth + 1 = path.length

/-- Different functions of a graph are no more than there are. -/
theorem length_le_size (hnodup : path.Nodup) (hids : ∀ source ∈ path, source ∈ graph.ids) :
    path.length ≤ graph.size := by
  have hsubperm := hnodup.subperm hids
  simpa [ids, size] using hsubperm.length_le

/-- A search that has pushed a node below another one. -/
def Search.pushed (search : Search) (id depth : Nat) (source : String) : Search :=
  { search with forest := search.forest.grown id depth (.plant source .bare .bare) }

namespace Search.OnWayDown

/-- The node is there. -/
theorem lt_size (hway : search.OnWayDown graph path id) : id < search.forest.size := by
  obtain ⟨node, hnode, -⟩ := hway.exists_node
  exact (List.getElem?_eq_some_iff.1 hnode).1

/-- A search is on its way down still when trees have grown and the path is as it was. -/
theorem of_grown {later : Search} {other depth : Nat} {grove : Grove}
    (hway : search.OnWayDown graph path id)
    (hforest : later.forest = search.forest.grown other depth grove)
    (hpath : later.onPath = search.onPath) : later.OnWayDown graph path id where
  nodup := hway.nodup
  mem_ids := hway.mem_ids
  onPath_eq := hpath.trans hway.onPath_eq
  pathTo?_eq := by rw [hforest, Forest.pathTo?_grown hway.lt_size, hway.pathTo?_eq]
  exists_node := by
    obtain ⟨node, hnode, hdepth⟩ := hway.exists_node
    obtain ⟨children, hgrown⟩ := Forest.exists_getElem?_grown hnode other depth grove
    exact ⟨{ node with children }, by rw [hforest, hgrown], hdepth⟩

/-- When a function has been entered, its visit had begun right below the path, and **mirrored its
way down**. -/
theorem mirrorsWayDown {source : String} (hpath : search.onPath = path.toFinset)
    (hway : (search.enter (search.visit source id)).OnWayDown graph (source :: path) id) :
    (search.visit source id).MirrorsWayDown graph := by
  have hreverse : (source :: path).reverse = path.reverse ++ [source] := List.reverse_cons
  refine ⟨path.reverse, ?_, ?_, ?_, ?_⟩
  · show search.forest.pathTo? id = some (path.reverse ++ [source])
    rw [← hreverse]
    exact hway.pathTo?_eq
  · rw [List.toFinset_reverse]
    exact hpath
  · show (path.reverse ++ [source]).Nodup
    rw [← hreverse, List.nodup_reverse]
    exact hway.nodup
  · show ∀ other ∈ path.reverse ++ [source], other ∈ graph.ids
    intro other hother
    rw [← hreverse, List.mem_reverse] at hother
    exact hway.mem_ids other hother

/-- A search goes down to a function that is called: it pushes a node for it and enters it. -/
theorem enter_pushed {node : FunctionNode} (hway : search.OnWayDown graph path id)
    (hnode : node ∈ graph.nodes) (hnot : node.id ∉ path) :
    ((search.pushed id path.length node.id).enter
      ((search.pushed id path.length node.id).visit node.id search.forest.size)).OnWayDown graph
        (node.id :: path) search.forest.size where
  nodup := List.nodup_cons.2 ⟨hnot, hway.nodup⟩
  mem_ids := by
    intro source hsource
    rcases List.mem_cons.1 hsource with rfl | hsource
    · exact mem_ids_iff.2 ⟨node, hnode, rfl⟩
    · exact hway.mem_ids source hsource
  onPath_eq := by
    show insert node.id search.onPath = (node.id :: path).toFinset
    rw [hway.onPath_eq, List.toFinset_cons]
  pathTo?_eq := by
    rw [List.reverse_cons]
    exact Forest.pathTo?_of_above Forest.getElem?_grown_size
      ⟨hway.lt_size, (Forest.pathTo?_grown hway.lt_size).trans hway.pathTo?_eq⟩
  exists_node := ⟨_, Forest.getElem?_grown_size, rfl⟩

end Search.OnWayDown

/-! ### What a search does -/

/-- What stops when a function is called again on its own path, if one is. -/
def stopAt (graph : CallGraph) : Option String → Except CycleError Unit
  | some repeated => .error ⟨graph.region, repeated⟩
  | none => .ok ()

/-- What a search comes to **is sound**, with a given forest in the end and a given function that
has stopped it: a search that was not stopped leaves the path as it found it, and all that has
happened meanwhile is as it should be. -/
structure SearchResult.IsSound (graph : CallGraph) (search : Search) (forest : Forest)
    (repeated : Option String) (result : SearchResult) : Prop where
  /-- The search was stopped by the function. -/
  outcome_eq : result.1 = graph.stopAt repeated
  /-- The forest is there in the end. -/
  forest_eq : result.2.forest = forest
  /-- The path is restored. -/
  onPath_eq : repeated = none → result.2.onPath = search.onPath
  /-- What has happened is as it should be. -/
  exists_events : ∃ events, result.2.events = search.events ++ events ∧
    ∀ event ∈ events, event.IsSound graph

/-- A search **settles**: wherever there is room for visits of all functions but so many, it comes
to one sound result. -/
def Settles (graph : CallGraph) (entered : Nat) (run : Nat → Option SearchResult) (search : Search)
    (forest : Forest) (repeated : Option String) : Prop :=
  ∃ result : SearchResult, (∀ room, graph.size ≤ room + entered → run room = some result) ∧
    result.IsSound graph search forest repeated

variable {run : Nat → Option SearchResult} {forest : Forest} {grove : Grove}
  {repeated : Option String}

/-- A search that is stopped does not go on. -/
theorem Settles.andThen_stopped {entered : Nat} {stop : String}
    {next : Nat → Search → Option SearchResult}
    (hrun : graph.Settles entered run search forest (some stop)) :
    graph.Settles entered (fun room => run room >>= SearchResult.andThen (next room)) search forest
      (some stop) := by
  obtain ⟨⟨outcome, later⟩, hresult, hsound⟩ := hrun
  have houtcome : outcome = .error ⟨graph.region, stop⟩ := hsound.outcome_eq
  refine ⟨(outcome, later), fun room hroom => ?_, hsound⟩
  show run room >>= SearchResult.andThen (next room) = _
  rw [hresult room hroom, houtcome]
  rfl

/-- A search that is not stopped goes on. -/
theorem Settles.andThen {entered : Nat} {middle : Forest}
    {next : Nat → Search → Option SearchResult}
    (hrun : graph.Settles entered run search middle none)
    (hnext : ∀ later : Search, later.forest = middle → later.onPath = search.onPath →
      graph.Settles entered (next · later) later forest repeated) :
    graph.Settles entered (fun room => run room >>= SearchResult.andThen (next room)) search forest
      repeated := by
  obtain ⟨⟨outcome, later⟩, hresult, hsound⟩ := hrun
  have houtcome : outcome = .ok () := hsound.outcome_eq
  have hlater : later.onPath = search.onPath := hsound.onPath_eq rfl
  obtain ⟨events, hevents, hsoundEvents⟩ := hsound.exists_events
  obtain ⟨result, hresult', hsound'⟩ := hnext later hsound.forest_eq hlater
  obtain ⟨others, hothers, hsoundOthers⟩ := hsound'.exists_events
  refine ⟨result, fun room hroom => ?_, hsound'.outcome_eq, hsound'.forest_eq, ?_, ?_⟩
  · show run room >>= SearchResult.andThen (next room) = _
    rw [hresult room hroom, houtcome, ← hresult' room hroom]
    rfl
  · intro hnone
    exact (hsound'.onPath_eq hnone).trans hlater
  · refine ⟨events ++ others, ?_, ?_⟩
    · rw [hothers, show later.events = search.events ++ events from hevents, List.append_assoc]
    · intro event hevent
      rcases List.mem_append.1 hevent with hevent | hevent
      · exact hsoundEvents event hevent
      · exact hsoundOthers event hevent

/-- **A visit settles** if visiting the functions that are called does, with one function more that
is entered. -/
theorem Settles.visit {node : FunctionNode} (hpath : search.onPath = path.toFinset)
    (hway : (search.enter (search.visit node.id id)).OnWayDown graph (node.id :: path) id)
    (hcallees : graph.Settles (path.length + 1)
      (fun room => graph.visitCallees (graph.visit room) id node.callees
        (search.enter (search.visit node.id id)))
      (search.enter (search.visit node.id id)) forest repeated) :
    graph.Settles path.length (graph.visit · node id search) search forest repeated := by
  have hmirrors := Search.OnWayDown.mirrorsWayDown hpath hway
  have hlength : path.length + 1 ≤ graph.size := length_le_size hway.nodup hway.mem_ids
  obtain ⟨⟨outcome, later⟩, hresult, hsound⟩ := hcallees
  obtain ⟨events, hevents, hsoundEvents⟩ := hsound.exists_events
  have hevents' : later.events =
      search.events ++ .entered (search.visit node.id id) :: events := by
    rw [List.append_cons]
    exact hevents
  -- There is room for this visit, and what is left is room for those within it.
  have hvisit : ∀ room, graph.size ≤ room + path.length →
      graph.visit room node id search =
        SearchResult.andThen
          (fun search' => some (.ok (), search'.leave (search.visit node.id id)))
          (outcome, later) := by
    intro room hroom
    cases room with
    | zero => omega
    | succ room =>
        have hbelow : graph.visitCallees (graph.visit room) id node.callees
            (search.enter (search.visit node.id id)) = some (outcome, later) :=
          hresult room (by omega)
        rw [CallGraph.visit, hbelow]
        rfl
  cases repeated with
  | some stop =>
      have houtcome : outcome = .error ⟨graph.region, stop⟩ := hsound.outcome_eq
      refine ⟨(outcome, later), fun room hroom => ?_, hsound.outcome_eq, hsound.forest_eq, nofun,
        _, hevents', ?_⟩
      · show graph.visit room node id search = _
        rw [hvisit room hroom, houtcome]
        rfl
      · simpa using ⟨hmirrors, hsoundEvents⟩
  | none =>
      have houtcome : outcome = .ok () := hsound.outcome_eq
      have hrestored : (later.leave (search.visit node.id id)).onPath = search.onPath := by
        have hnot : node.id ∉ search.onPath := by
          simpa [hpath] using (List.nodup_cons.1 hway.nodup).1
        have hlater : later.onPath = insert node.id search.onPath := hsound.onPath_eq rfl
        show later.onPath.erase node.id = search.onPath
        rw [hlater, Finset.erase_insert hnot]
      refine ⟨(.ok (), later.leave (search.visit node.id id)), fun room hroom => ?_, rfl,
        hsound.forest_eq, fun _ => hrestored,
        .entered (search.visit node.id id) :: (events ++ [.returned (search.visit node.id id)
          (later.leave (search.visit node.id id)).onPath]), ?_, ?_⟩
      · show graph.visit room node id search = _
        rw [hvisit room hroom, houtcome]
        rfl
      · show later.events ++ _ = _
        rw [hevents', List.append_assoc, List.cons_append]
        rfl
      · simpa [SearchEvent.IsSound, or_imp, forall_and] using ⟨hmirrors, hsoundEvents, hrestored⟩

/-- **Visiting a function that is called settles** if visiting those that it calls does. -/
theorem Search.OnWayDown.settles_visit {node : FunctionNode}
    (hway : search.OnWayDown graph path id) (hnode : node ∈ graph.nodes) (hnot : node.id ∉ path)
    (hcallees : ∀ {id : Nat} {search : Search}, search.OnWayDown graph (node.id :: path) id →
      graph.Settles (path.length + 1)
        (fun room => graph.visitCallees (graph.visit room) id node.callees search) search
        (search.forest.grown id (path.length + 1) grove) repeated) :
    graph.Settles path.length
      (graph.visit · node search.forest.size (search.pushed id path.length node.id)) search
      ((search.pushed id path.length node.id).forest.grown search.forest.size (path.length + 1)
        grove) repeated := by
  have hdown := hway.enter_pushed hnode hnot
  have hpath : (search.pushed id path.length node.id).onPath = path.toFinset := hway.onPath_eq
  obtain ⟨result, hresult, hsound⟩ := Settles.visit hpath hdown (hcallees hdown)
  exact ⟨result, hresult, ⟨hsound.outcome_eq, hsound.forest_eq, hsound.onPath_eq,
    hsound.exists_events⟩⟩

/-- A search goes on below the first function that is called, unless that is on the path. -/
theorem Search.OnWayDown.visitCallees_of_node? {source : String} {ids : List String}
    {node : FunctionNode} {visit : FunctionNode → Nat → Search → Option SearchResult}
    (hway : search.OnWayDown graph path id) (hfound : graph.node? source = some node)
    (hnot : source ∉ path) :
    graph.visitCallees visit id (source :: ids) search =
      visit node search.forest.size (search.pushed id path.length source) >>=
        SearchResult.andThen (graph.visitCallees visit id ids) := by
  have hoff : source ∉ search.onPath := by rwa [hway.onPath_eq, List.mem_toFinset]
  obtain ⟨above, habove, hdepth⟩ := hway.exists_node
  have hpush : search.push? source (some id) = some (search.pushed id path.length source) := by
    rw [Search.push?, Forest.push?_eq_grown habove hdepth]
    rfl
  rw [visitCallees, if_neg hoff]
  simp only [hfound, hpush]
  rfl

/-- **What a search does below a function** is what is grown there. -/
theorem Search.OnWayDown.settles_visitCallees {ids : List String}
    (hway : search.OnWayDown graph path id) :
    graph.Settles path.length (fun room => graph.visitCallees (graph.visit room) id ids search)
      search (search.forest.grown id path.length (graph.grow path ids).grove)
      (graph.grow path ids).repeated := by
  -- The search goes wherever the growth goes; the node and the search are any on this path.
  induction path, ids using grow.induct graph generalizing id search with
  | case1 path =>
      rw [grow]
      exact ⟨(.ok (), search), fun _ _ => rfl, rfl, Forest.grown_bare.symm, fun _ => rfl, [],
        (List.append_nil _).symm, List.forall_mem_nil _⟩
  | case2 path source ids hpath =>
      have hon : source ∈ search.onPath := by rwa [hway.onPath_eq, List.mem_toFinset]
      rw [grow, dif_pos hpath]
      refine ⟨(.error ⟨graph.region, source⟩, search), fun room _ => ?_, rfl,
        Forest.grown_bare.symm, fun hnone => absurd hnone (Option.some_ne_none source), [],
        (List.append_nil _).symm, List.forall_mem_nil _⟩
      show graph.visitCallees (graph.visit room) id (source :: ids) search = _
      rw [visitCallees, if_pos hon]
  | case3 path source ids hpath hnone ih =>
      have hoff : source ∉ search.onPath := by rwa [hway.onPath_eq, List.mem_toFinset]
      rw [grow_of_node?_eq_none hpath hnone]
      simp only [visitCallees, if_neg hoff, hnone]
      exact ih hway
  | case4 path source ids hpath node hfound below stop hstop =>
      rename_i ih
      -- The growth stops below the function, and so does the search.
      obtain ⟨hnode, rfl⟩ := mem_nodes_of_node?_eq_some hfound
      have hrepeated : (graph.grow (node.id :: path) node.callees).repeated = some stop := hstop
      have hvisit := hway.settles_visit hnode hpath ih
      rw [hrepeated] at hvisit
      rw [grow_of_node? hpath hfound, hrepeated]
      simp only [hway.visitCallees_of_node? hfound hpath]
      rw [Forest.grown_plant hway.lt_size, Forest.grown_bare]
      exact hvisit.andThen_stopped
  | case5 path source ids hpath node hfound below hdone =>
      rename_i ihbelow ihnext
      obtain ⟨hnode, rfl⟩ := mem_nodes_of_node?_eq_some hfound
      have hrepeated : (graph.grow (node.id :: path) node.callees).repeated = none := hdone
      have hvisit := hway.settles_visit hnode hpath ihbelow
      rw [hrepeated] at hvisit
      rw [grow_of_node? hpath hfound, hrepeated]
      simp only [hway.visitCallees_of_node? hfound hpath]
      rw [Forest.grown_plant hway.lt_size]
      -- When the function has been visited the search is on its way down as it was.
      refine hvisit.andThen fun later hforest honPath => ?_
      have hpushed : (search.pushed id path.length node.id).OnWayDown graph path id :=
        hway.of_grown rfl rfl
      have hlater := ihnext (hpushed.of_grown hforest honPath)
      rw [hforest] at hlater
      exact hlater

/-! ### Searches from roots -/

/-- A search that has pushed a root. -/
def Search.rooted (search : Search) (source : String) : Search :=
  { search with forest := search.forest.extended (.plant source .bare .bare) }

/-- A search that has entered a root is on its way down. -/
theorem Search.enter_rooted {root : FunctionNode} (hroot : root ∈ graph.nodes)
    (hempty : search.onPath = ∅) :
    ((search.rooted root.id).enter
      ((search.rooted root.id).visit root.id search.forest.size)).OnWayDown graph [root.id]
        search.forest.size where
  nodup := List.nodup_singleton _
  mem_ids := by
    intro source hsource
    rw [List.mem_singleton] at hsource
    exact mem_ids_iff.2 ⟨root, hroot, hsource.symm⟩
  onPath_eq := by
    show insert root.id search.onPath = [root.id].toFinset
    rw [hempty]
    rfl
  pathTo?_eq := by
    have habove : (search.rooted root.id).forest.Above search.forest.size [] none := rfl
    exact Forest.pathTo?_of_above Forest.getElem?_extended_size habove
  exists_node := ⟨_, Forest.getElem?_extended_size, rfl⟩

/-- **Visiting a root settles**: what is grown from it is a further tree. -/
theorem settles_visitRoot {root : FunctionNode} (hroot : root ∈ graph.nodes)
    (hempty : search.onPath = ∅) :
    graph.Settles 0 (graph.visitRoot · root search) search
      (search.forest.extended (.plant root.id (graph.grow [root.id] root.callees).grove .bare))
      (graph.grow [root.id] root.callees).repeated := by
  have hdown := Search.enter_rooted hroot hempty
  have hpath : (search.rooted root.id).onPath = ([] : List String).toFinset := hempty
  obtain ⟨result, hresult, hsound⟩ := Settles.visit hpath hdown hdown.settles_visitCallees
  refine ⟨result, hresult, hsound.outcome_eq, ?_, hsound.onPath_eq, hsound.exists_events⟩
  rw [hsound.forest_eq, ← Forest.extended_root]
  rfl

/-- **Visiting roots one after the other settles**: what is grown from them are further trees. -/
theorem WellFormed.settles_visitRoots (hgraph : graph.WellFormed) {roots : List FunctionNode}
    (hroots : ∀ root ∈ roots, root ∈ graph.nodes) (hempty : search.onPath = ∅) :
    graph.Settles 0 (graph.visitRoots · roots search) search
      (search.forest.extended (graph.grow [] (roots.map (·.id))).grove)
      (graph.grow [] (roots.map (·.id))).repeated := by
  induction roots generalizing search with
  | nil =>
      rw [List.map_nil, grow]
      exact ⟨(.ok (), search), fun _ _ => rfl, rfl, Forest.extended_bare.symm, fun _ => rfl, [],
        (List.append_nil _).symm, List.forall_mem_nil _⟩
  | cons root roots ih =>
      have hroot : root ∈ graph.nodes := hroots root List.mem_cons_self
      have hvisit := settles_visitRoot hroot hempty
      rw [List.map_cons, grow_of_node? List.not_mem_nil (hgraph.node?_of_mem hroot)]
      cases hrepeated : (graph.grow [root.id] root.callees).repeated with
      | some stop =>
          rw [hrepeated] at hvisit
          exact hvisit.andThen_stopped
      | none =>
          rw [hrepeated] at hvisit
          refine hvisit.andThen fun later hforest honPath => ?_
          have hlater := ih (fun other hother => hroots other (.tail root hother))
            (honPath.trans hempty)
          rw [hforest, ← Forest.extended_plant] at hlater
          exact hlater

/-- **Expansion in place is expansion**, wherever there is room for visits of all functions. -/
theorem WellFormed.expandInPlace_eq (hgraph : graph.WellFormed) {room : Nat}
    (hroom : graph.size ≤ room) : graph.expandInPlace room = some graph.expand := by
  rw [expandInPlace, expand, growRoots]
  cases hnodes : graph.nodes with
  | nil =>
      have hroots : graph.roots = [] := by rw [roots, hnodes, List.filter_nil]
      have hids : graph.ids = [] := by rw [ids, hnodes, List.map_nil]
      simp only [hroots, hids, List.head?_nil]
      rfl
  | cons first nodes =>
      have hids : graph.ids = first.id :: nodes.map (·.id) := by rw [ids, hnodes, List.map_cons]
      cases hroots : graph.roots with
      | nil => simp only [hids, List.head?_cons]
      | cons root roots =>
          have hmem : ∀ other ∈ root :: roots, other ∈ graph.nodes := by
            intro other hother
            rw [← hroots] at hother
            exact (List.mem_filter.1 hother).1
          have hempty : (⟨.empty graph.region, ∅, []⟩ : Search).onPath = ∅ := rfl
          obtain ⟨⟨outcome, later⟩, hresult, hsound⟩ := hgraph.settles_visitRoots hmem hempty
          have hrun : graph.visitRoots room (root :: roots) ⟨.empty graph.region, ∅, []⟩ =
            some (outcome, later) := hresult room hroom
          have houtcome : outcome = graph.stopAt _ := hsound.outcome_eq
          have hforest : later.forest = .ofGrove graph.region _ :=
            hsound.forest_eq.trans (Forest.extended_empty graph.region)
          have hcovered : later.forest.nodes.map (·.source) =
              (graph.grow [] ((root :: roots).map (·.id))).grove.sources := by
            rw [hforest]
            exact Grove.map_source_number ..
          simp only [hrun, Option.bind_eq_bind, Option.bind_some, houtcome, hcovered]
          cases hrepeated : (graph.grow [] ((root :: roots).map (·.id))).repeated with
          | some stop => rfl
          | none =>
              simp only [stopAt, uncovered?]
              cases graph.ids.find? (· ∉ (graph.grow []
                  ((root :: roots).map (·.id))).grove.sources) with
              | some id => rfl
              | none =>
                  rw [hforest]
                  rfl

/-! ### How deep nodes are -/

/-- A path that takes in a function of the graph is a path of different functions still, and was
shorter than there are functions. -/
theorem length_lt_size {source : String} {node : FunctionNode} (hpath : source ∉ path)
    (hfound : graph.node? source = some node) (hnodup : path.Nodup)
    (hmem : ∀ source ∈ path, source ∈ graph.ids) :
    (source :: path).Nodup ∧ (∀ other ∈ source :: path, other ∈ graph.ids) ∧
      path.length < graph.size := by
  have hnodup' : (source :: path).Nodup := List.nodup_cons.2 ⟨hpath, hnodup⟩
  have hmem' : ∀ other ∈ source :: path, other ∈ graph.ids := by
    intro other hother
    rcases List.mem_cons.1 hother with rfl | hother
    · exact mem_ids_iff.2 ⟨node, mem_nodes_of_node?_eq_some hfound⟩
    · exact hmem other hother
  exact ⟨hnodup', hmem', length_le_size hnodup' hmem'⟩

/-- **Nodes are less deep than there are functions**, whether the growth was stopped or not. -/
theorem depth_lt_of_mem_grow {ids : List String} {start : Nat} {parent : Option Nat}
    {copy : BranchNode} (hnodup : path.Nodup) (hmem : ∀ source ∈ path, source ∈ graph.ids)
    (hcopy : copy ∈ (graph.grow path ids).grove.number start parent path.length) :
    copy.depth < graph.size := by
  -- A node is as deep as the path is long that it has grown below.
  induction path, ids using grow.induct graph generalizing start parent with
  | case1 path =>
      rw [grow] at hcopy
      cases hcopy
  | case2 path source ids hpath =>
      rw [grow, dif_pos hpath] at hcopy
      cases hcopy
  | case3 path source ids hpath hnone ih =>
      rw [grow_of_node?_eq_none hpath hnone] at hcopy
      exact ih hnodup hmem hcopy
  | case4 path source ids hpath node hfound below stop hstop =>
      rename_i ih
      have hrepeated : (graph.grow (source :: path) node.callees).repeated = some stop := hstop
      obtain ⟨hnodup', hmem', hlength⟩ := length_lt_size hpath hfound hnodup hmem
      rw [grow_of_node? hpath hfound, hrepeated] at hcopy
      rcases List.mem_cons.1 hcopy with rfl | hcopy
      · exact hlength
      · rw [Grove.number, List.append_nil] at hcopy
        exact ih hnodup' hmem' hcopy
  | case5 path source ids hpath node hfound below hdone =>
      rename_i ihbelow ihnext
      have hrepeated : (graph.grow (source :: path) node.callees).repeated = none := hdone
      obtain ⟨hnodup', hmem', hlength⟩ := length_lt_size hpath hfound hnodup hmem
      rw [grow_of_node? hpath hfound, hrepeated] at hcopy
      rcases List.mem_cons.1 hcopy with rfl | hcopy
      · exact hlength
      · rcases List.mem_append.1 hcopy with hcopy | hcopy
        · exact ihbelow hnodup' hmem' hcopy
        · exact ihnext hnodup hmem hcopy

/-! ### Termination -/

/-- **Searches come to an end, and are on their way down all the time**, whether the graph is cyclic
or not. With room for as many visits within one another as there are functions, expansion in place
comes to the expansion, and visiting any roots comes to a result. It pushes nodes that are less deep
than there are functions; every visit begins with the functions above its node on the path, and
leaves the path as it was when it began; and the path is empty again unless a cycle has been
found. -/
theorem expandInPlace_ofHistory (region : String) (history : List GraphStep) :
    (∀ room, (ofHistory region history).size ≤ room →
      (ofHistory region history).expandInPlace room = some (ofHistory region history).expand) ∧
    ∀ roots : List FunctionNode, (∀ root ∈ roots, root ∈ (ofHistory region history).nodes) →
      ∀ search : Search, search.onPath = ∅ →
        ∃ (outcome : Except CycleError Unit) (later : Search) (pushed : List BranchNode)
          (events : List SearchEvent),
          (∀ room, (ofHistory region history).size ≤ room →
            (ofHistory region history).visitRoots room roots search = some (outcome, later)) ∧
          later.forest.nodes = search.forest.nodes ++ pushed ∧
          (∀ node ∈ pushed, node.depth < (ofHistory region history).size) ∧
          later.events = search.events ++ events ∧
          (∀ event ∈ events, event.IsSound (ofHistory region history)) ∧
          (outcome = .ok () → later.onPath = ∅) := by
  have hgraph := wellFormed_ofHistory region history
  refine ⟨fun room hroom => hgraph.expandInPlace_eq hroom, fun roots hroots search hempty => ?_⟩
  obtain ⟨⟨outcome, later⟩, hresult, hsound⟩ := hgraph.settles_visitRoots hroots hempty
  obtain ⟨events, hevents, hsoundEvents⟩ := hsound.exists_events
  have hnodes := congrArg Forest.nodes hsound.forest_eq
  refine ⟨outcome, later, _, events, hresult, hnodes, ?_, hevents, hsoundEvents, ?_⟩
  · intro node hnode
    exact depth_lt_of_mem_grow List.nodup_nil (List.forall_mem_nil _) hnode
  · intro hok
    have houtcome : outcome = stopAt _ _ := hsound.outcome_eq
    refine (hsound.onPath_eq ?_).trans hempty
    cases hrepeated : ((ofHistory region history).grow [] (roots.map (·.id))).repeated with
    | none => rfl
    | some stop =>
        rw [hok, hrepeated] at houtcome
        cases houtcome

/-- A callee that is called back by its own callee. -/
def callBack : List GraphStep := [.addEdge "main" "a", .addEdge "a" "b", .addEdge "b" "a"]

/-- A cycle is found three visits deep, with all three functions on the path. -/
theorem expandInPlace_ofHistory_callBack :
    (ofHistory "main" callBack).expandInPlace 3 = some (.error ⟨"main", "a"⟩) ∧
      ∃ later : Search,
        (ofHistory "main" callBack).visitRoots 3 (ofHistory "main" callBack).roots
          ⟨.empty "main", ∅, []⟩ = some (.error ⟨"main", "a"⟩, later) ∧
        later.onPath = {"b", "a", "main"} ∧ later.events.length = 3 ∧
        ∀ event ∈ later.events, event.IsSound (ofHistory "main" callBack) := by
  obtain ⟨hexpand, hvisits⟩ := expandInPlace_ofHistory "main" callBack
  have hsize : (ofHistory "main" callBack).size = 3 := by cbv
  have hcycle : (ofHistory "main" callBack).expand = .error ⟨"main", "a"⟩ := by cbv
  have hroots : ∀ root ∈ (ofHistory "main" callBack).roots,
      root ∈ (ofHistory "main" callBack).nodes :=
    fun root hroot => (List.mem_filter.1 hroot).1
  obtain ⟨outcome, later, pushed, events, hrun, -, -, hevents, hsound, -⟩ :=
    hvisits _ hroots ⟨.empty "main", ∅, []⟩ rfl
  have hfound : ((ofHistory "main" callBack).visitRoots 3 (ofHistory "main" callBack).roots
      ⟨.empty "main", ∅, []⟩).map (fun result =>
        (result.1, result.2.onPath, result.2.events.length)) =
          some (.error ⟨"main", "a"⟩, {"b", "a", "main"}, 3) := by cbv
  have hrun3 := hrun 3 hsize.le
  rw [hrun3] at hfound
  obtain ⟨houtcome, hpath, hlength⟩ :
      outcome = .error ⟨"main", "a"⟩ ∧ later.onPath = {"b", "a", "main"} ∧
        later.events.length = 3 := by simpa using hfound
  refine ⟨?_, later, ?_, hpath, hlength, ?_⟩
  · rw [hexpand 3 hsize.le, hcycle]
  · rw [hrun3, houtcome]
  · intro event hevent
    rw [hevents, List.nil_append] at hevent
    exact hsound event hevent

/-- Where there is less room, this cycle is not found. -/
example : (ofHistory "main" callBack).expandInPlace 2 = none := by cbv

end CallGraph

end CallForest
