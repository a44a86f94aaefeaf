import CallForest.Analysis.Drawing
import CallForest.Proofs.Graph.Operation
import Mathlib.Data.List.Induction

/-! # The call graph that cases define

The call graph of a region is drawn case by case, and whether a call is drawn depends on the graph
so far. What comes out can be said without any graph: functions stand in the order in which they are
mentioned first, of two functions that call each other the call that is named first is drawn, and
the last case of a function says how it is drawn.

* `ShownCase`, `Region.shownCases`: the cases that are shown, with what they mention, the calls they
  name and how they draw their functions.
* `Prevails`: calls that are not named the other way round before.
* `Records`, `Records.draw`: what a graph says after some cases, and that every case keeps it so.
* `Region.callGraph_eq_shownCases`: the call graph of a region. -/

namespace CallForest

/-! ### Cases and what they say -/

/-- A case that is shown. -/
inductive ShownCase where
  /-- A function that passed. -/
  | passing (shown : PassingCase)
  /-- A function that failed. -/
  | failing (shown : FailingCase)

namespace ShownCase

/-- The function of a case. -/
def id : ShownCase → String
  | passing shown => shown.id
  | failing shown => shown.id

/-- The functions whose calls by the case's function are drawn: those of every failing case, and
those of a passing case that is not allowlisted and has important locals. -/
def callees : ShownCase → List String
  | passing shown =>
    if shown.allowlisted = false ∧ shown.importantLocals ≠ [] then shown.calls else []
  | failing shown => shown.calls

/-- The calls that a case names. -/
def calls (shown : ShownCase) : List (String × String) := shown.callees.map (shown.id, ·)

/-- The functions that a case mentions: its own, and then those whose calls it names. -/
def mentions (shown : ShownCase) : List String := shown.id :: shown.callees

/-- How a case draws its function. -/
def attributes : ShownCase → Attributes
  | passing shown =>
    if shown.allowlisted then ⟨shown.id ++ " -A", some .orchid, some .filled⟩
    else if shown.importantLocals = [] then ⟨shown.id ++ " -I", some .khaki, some .filled⟩
    else ⟨shown.id, some .lightGreen, some .filled⟩
  | failing shown =>
    ⟨shown.id ++ (if shown.rawPointerDeref then " -R" else "") ++
        (if shown.hasTransmute then " -T" else "") ++ (if shown.hasBody then "" else " -B"),
      some (if shown.rawPointerDeref ∨ shown.hasTransmute ∨ ¬ shown.hasBody then .orange
        else .tomato),
      some .filled⟩

/-- What a case adds to a graph. -/
def drawn : ShownCase → DrawnCase
  | passing shown => shown.drawn
  | failing shown => shown.drawn

/-- A case adds its function, drawn as it says, and the calls that it names. -/
theorem drawn_eq (shown : ShownCase) :
    shown.drawn = ⟨shown.id, shown.attributes, shown.callees⟩ := by
  cases shown with
  | passing shown =>
      cases hallowed : shown.allowlisted <;> cases hlocals : shown.importantLocals <;>
        simp [drawn, PassingCase.drawn, id, attributes, callees, hallowed, hlocals,
          Attributes.filled]
  | failing shown =>
      cases hraw : shown.rawPointerDeref <;> cases htransmute : shown.hasTransmute <;>
        cases hbody : shown.hasBody <;>
        simp [drawn, FailingCase.drawn, FailingCase.markers, id, attributes, callees, hraw,
          htransmute, hbody, Attributes.filled]

end ShownCase

/-- The cases of a region that are shown: the passing ones, if they are asked for, and then the
failing ones, if they are. -/
def Region.shownCases (options : GraphOptions) (region : Region) : List ShownCase :=
  (if options.includePassing then region.passing.map .passing else []) ++
    (if options.includeFailing then region.failing.map .failing else [])

/-- Exactly the cases that are shown are drawn. -/
theorem Region.drawnCases_eq (options : GraphOptions) (region : Region) :
    region.drawnCases options = (region.shownCases options).map ShownCase.drawn := by
  rw [drawnCases, shownCases, List.map_append]
  congr 1 <;> split <;> simp [Function.comp_def, ShownCase.drawn]

/-! ### Calls that prevail -/

/-- A call **prevails** among others when it is named, and not the other way round before. -/
def Prevails (calls : List (String × String)) (caller callee : String) : Prop :=
  (caller, callee) ∈ calls ∧ calls.idxOf (caller, callee) ≤ calls.idxOf (callee, caller)

namespace Prevails

variable {calls : List (String × String)} {caller callee : String}

/-- One more call prevails when it is named for the first time in either direction; what prevails
already is not touched. -/
theorem concat_iff {call : String × String} :
    Prevails (calls ++ [call]) caller callee ↔
      Prevails calls caller callee ∨
        (caller, callee) = call ∧ (caller, callee) ∉ calls ∧ (callee, caller) ∉ calls := by
  by_cases hold : (caller, callee) ∈ calls
  -- Calls named later stand behind the first mention, and so does the other direction if it is new.
  · have hless := List.idxOf_lt_length_iff.2 hold
    simp only [Prevails, List.mem_append, hold, true_or, true_and, not_true_eq_false, false_and,
      and_false, or_false, List.idxOf_append, if_true]
    split
    · exact Iff.rfl
    · rename_i hreverse
      rw [List.idxOf_eq_length_iff.2 hreverse]
      omega
  · simp only [Prevails, List.mem_append, hold, false_or, false_and, not_false_eq_true, true_and,
      List.mem_singleton]
    refine and_congr_right fun hsame => ?_
    rw [List.idxOf_append, if_neg hold, hsame, List.idxOf_cons_self, List.idxOf_append]
    split
    · rename_i hreverse
      have hless := List.idxOf_lt_length_iff.2 hreverse
      simp only [hreverse, not_true_eq_false, iff_false]
      omega
    · rename_i hreverse
      simp only [hreverse, not_false_eq_true, iff_true]
      omega

/-- Of a call that is named and the same call the other way round one prevails. -/
theorem or_swap (hnamed : (caller, callee) ∈ calls) :
    Prevails calls caller callee ∨ Prevails calls callee caller := by
  by_cases hfirst : calls.idxOf (caller, callee) ≤ calls.idxOf (callee, caller)
  · exact .inl ⟨hnamed, hfirst⟩
  · have hless := List.idxOf_lt_length_iff.2 hnamed
    exact .inr ⟨List.idxOf_lt_length_iff.1 (by omega), by omega⟩

/-- A call prevails in neither direction exactly when it is named in neither. -/
theorem not_and_not_swap_iff :
    ¬ Prevails calls caller callee ∧ ¬ Prevails calls callee caller ↔
      (caller, callee) ∉ calls ∧ (callee, caller) ∉ calls := by
  refine ⟨fun hnone => ⟨fun hnamed => ?_, fun hnamed => ?_⟩, fun hnone => ?_⟩
  · exact (or_swap hnamed).elim hnone.1 hnone.2
  · exact (or_swap hnamed).elim hnone.2 hnone.1
  · exact ⟨fun hcall => hnone.1 hcall.1, fun hcall => hnone.2 hcall.1⟩

/-- Only a function's call of itself prevails in both directions. -/
theorem antisymm (hcall : Prevails calls caller callee) (hback : Prevails calls callee caller) :
    caller = callee :=
  congrArg Prod.fst ((List.idxOf_inj hcall.1).1 (Nat.le_antisymm hcall.2 hback.2))

/-- A call prevails when no call the other way round is named before it is named first. -/
theorem iff_not_mem_take :
    Prevails calls caller callee ↔
      (caller, callee) ∈ calls ∧
        (caller = callee ∨ (callee, caller) ∉ calls.take (calls.idxOf (caller, callee))) := by
  refine and_congr_right fun hnamed => ?_
  have htake : (callee, caller) ∈ calls.take (calls.idxOf (caller, callee)) ↔
      calls.idxOf (callee, caller) < calls.idxOf (caller, callee) := by
    refine ⟨fun hmem => (List.mem_take_iff_idxOf_lt (List.mem_of_mem_take hmem)).1 hmem, ?_⟩
    intro hless
    have hlength := List.idxOf_lt_length_iff.2 hnamed
    exact (List.mem_take_iff_idxOf_lt (List.idxOf_lt_length_iff.1 (by omega))).2 hless
  rw [htake, Nat.not_lt]
  refine ⟨Or.inr, ?_⟩
  rintro (rfl | hfirst)
  · exact Nat.le_refl _
  · exact hfirst

end Prevails

/-! ### Adding a call -/

namespace CallGraph

variable {graph : CallGraph} {caller callee : String}

/-- Adding a call keeps the invariant. -/
theorem WellFormed.addCall (hgraph : graph.WellFormed) (caller callee : String) :
    (graph.addCall caller callee).WellFormed := by
  rw [CallGraph.addCall]
  split
  · exact hgraph
  · exact hgraph.addEdge caller callee

/-- Adding a call keeps the region. -/
theorem region_addCall : (graph.addCall caller callee).region = graph.region := by
  rw [addCall]
  split
  · rfl
  · exact region_addEdge

/-- Drawing a case keeps the region. -/
theorem region_draw (graph : CallGraph) (shown : DrawnCase) :
    (graph.draw shown).region = graph.region :=
  (region_foldl (fun _ _ => region_addCall) _ _).trans (region_modifyNode _)

/-- A call of a function that has a node mentions its callee, whether it is drawn or not. -/
theorem ids_addCall {mentioned : List String} (hids : graph.ids = mentioned.eraseDups)
    (hcaller : caller ∈ mentioned) :
    (graph.addCall caller callee).ids = (mentioned ++ [callee]).eraseDups := by
  rw [addCall]
  split
  -- A call that is left out goes back to a function that calls something, so it has a node.
  · rename_i hback
    have hcallee : callee ∈ graph.ids :=
      mem_ids_of_mem_callees (by simpa [hasEdge] using hback)
    rw [hids, List.mem_eraseDups] at hcallee
    rw [eraseDups_concat, if_pos hcallee, hids]
  · have hcaller' : (mentioned ++ [caller]).eraseDups = mentioned.eraseDups := by
      rw [eraseDups_concat, if_pos hcaller]
    have hmem : callee ∈ mentioned ++ [caller] ↔ callee ∈ mentioned := by
      rw [List.mem_append, List.mem_singleton, or_iff_left_of_imp]
      rintro rfl
      exact hcaller
    rw [ids_addEdge hids, List.append_cons, eraseDups_concat, hcaller', eraseDups_concat]
    simp only [hmem]

/-- A call is added behind the others of its caller, unless it is drawn in either direction. -/
theorem callees_addCall {id : String} :
    (graph.addCall caller callee).callees id =
      if id = caller ∧ callee ∉ graph.callees caller ∧ caller ∉ graph.callees callee then
        graph.callees caller ++ [callee]
      else graph.callees id := by
  rw [addCall, hasEdge, List.contains_eq_mem]
  by_cases hback : caller ∈ graph.callees callee
  · simp [hback]
  · simp only [hback, decide_false, Bool.false_eq_true, if_false, not_false_eq_true, and_true]
    rw [callees_eq_nodeFor, nodeFor_addEdge]
    split
    · rfl
    · rw [callees_eq_nodeFor]

/-- A call changes nothing about how functions are drawn. -/
theorem attributes_nodeFor_addCall {id : String} :
    ((graph.addCall caller callee).nodeFor id).attributes = (graph.nodeFor id).attributes := by
  rw [addCall]
  split
  · rfl
  · rw [nodeFor_addEdge]
    split
    · rename_i hsame
      rw [hsame.1]
    · rfl

end CallGraph

/-! ### Graphs that record calls -/

/-- A graph **records calls** that were named one after the other: those that prevail are drawn. -/
structure RecordsCalls (calls : List (String × String)) (graph : CallGraph) : Prop where
  /-- The calls that prevail are drawn, and no others. -/
  mem_callees_iff : ∀ caller callee, callee ∈ graph.callees caller ↔ Prevails calls caller callee
  /-- The callees of a function stand in the order in which its calls are named first. -/
  ordered : ∀ caller, (graph.callees caller).Pairwise fun callee other =>
    calls.idxOf (caller, callee) < calls.idxOf (caller, other)

namespace RecordsCalls

variable {calls : List (String × String)} {graph : CallGraph} {caller callee : String}

/-- A drawn call was named. -/
theorem mem_calls (hgraph : RecordsCalls calls graph) (hcallee : callee ∈ graph.callees caller) :
    (caller, callee) ∈ calls :=
  ((hgraph.mem_callees_iff caller callee).1 hcallee).1

/-- A call is drawn in neither direction exactly when it was named in neither. -/
theorem not_mem_callees_iff (hgraph : RecordsCalls calls graph) (caller callee : String) :
    callee ∉ graph.callees caller ∧ caller ∉ graph.callees callee ↔
      (caller, callee) ∉ calls ∧ (callee, caller) ∉ calls := by
  rw [hgraph.mem_callees_iff, hgraph.mem_callees_iff, Prevails.not_and_not_swap_iff]

/-- **One more call** is recorded by adding it, which leaves it out if it is drawn already in either
direction. -/
theorem addCall (hgraph : RecordsCalls calls graph) (caller callee : String) :
    RecordsCalls (calls ++ [(caller, callee)]) (graph.addCall caller callee) := by
  have hfresh := hgraph.not_mem_callees_iff caller callee
  refine ⟨fun id other => ?_, fun id => ?_⟩
  · rw [Prevails.concat_iff, ← hgraph.mem_callees_iff, CallGraph.callees_addCall]
    split
    · rename_i hnew
      obtain ⟨rfl, hnew⟩ := hnew
      rw [List.mem_append, List.mem_singleton]
      refine or_congr_right ⟨?_, fun hsame => (Prod.mk.inj hsame.1).2⟩
      rintro rfl
      exact ⟨rfl, hfresh.1 hnew⟩
    · rename_i hold
      refine ⟨Or.inl, fun hcall => hcall.resolve_right fun hnew => hold ?_⟩
      obtain ⟨rfl, rfl⟩ := Prod.mk.inj hnew.1
      exact ⟨rfl, hfresh.2 hnew.2⟩
  · -- What is drawn already was named before what comes now.
    have hordered : (graph.callees id).Pairwise fun other later =>
        (calls ++ [(caller, callee)]).idxOf (id, other) <
          (calls ++ [(caller, callee)]).idxOf (id, later) := by
      refine (hgraph.ordered id).imp_of_mem fun hother hlater hless => ?_
      rwa [List.idxOf_append_of_mem (hgraph.mem_calls hother),
        List.idxOf_append_of_mem (hgraph.mem_calls hlater)]
    rw [CallGraph.callees_addCall]
    split
    · rename_i hnew
      obtain ⟨rfl, hnew⟩ := hnew
      refine List.pairwise_append.2 ⟨hordered, List.pairwise_singleton _ _, ?_⟩
      intro other hother later hlater
      rw [List.mem_singleton.1 hlater, List.idxOf_append_of_mem (hgraph.mem_calls hother),
        List.idxOf_append, if_neg (hfresh.1 hnew).1, List.idxOf_cons_self, Nat.zero_add]
      exact List.idxOf_lt_length_iff.2 (hgraph.mem_calls hother)
    · exact hordered

end RecordsCalls

/-! ### Graphs that record cases -/

/-- The calls that drawn cases name. -/
def DrawnCase.namedCalls (shown : List DrawnCase) : List (String × String) :=
  shown.flatMap fun one => one.calls.map (one.id, ·)

/-- The functions that drawn cases mention. -/
def DrawnCase.mentioned (shown : List DrawnCase) : List String :=
  shown.flatMap fun one => one.id :: one.calls

/-- How the last drawn case of a function draws it, or plainly if there is none. -/
def DrawnCase.lastAttributes (shown : List DrawnCase) (id : String) : Attributes :=
  (((shown.filter (·.id = id)).getLast?).map (·.attributes)).getD (.plain id)

/-- One more case says how its own function is drawn. -/
theorem DrawnCase.lastAttributes_concat (shown : List DrawnCase) (last : DrawnCase) (id : String) :
    lastAttributes (shown ++ [last]) id =
      if last.id = id then last.attributes else lastAttributes shown id := by
  rw [lastAttributes, List.filter_append]
  split
  · rename_i hsame
    rw [List.filter_cons_of_pos (by simpa using hsame), List.filter_nil, List.getLast?_concat]
    rfl
  · rename_i hne
    rw [List.filter_cons_of_neg (by simpa using hne), List.filter_nil, List.append_nil]
    rfl

/-- A graph **records** cases when it says of every function what they say. -/
structure Records (shown : List DrawnCase) (graph : CallGraph) : Prop where
  /-- The graph is well-formed. -/
  wellFormed : graph.WellFormed
  /-- The functions stand in the order of their first mentions. -/
  ids_eq : graph.ids = (DrawnCase.mentioned shown).eraseDups
  /-- The calls that prevail are drawn. -/
  calls : RecordsCalls (DrawnCase.namedCalls shown) graph
  /-- A function is drawn as its last case says. -/
  attributes_eq : ∀ id, (graph.nodeFor id).attributes = DrawnCase.lastAttributes shown id

namespace Records

variable {shown : List DrawnCase} {graph : CallGraph}

/-- The graph without nodes records no cases. -/
theorem empty (region : String) : Records [] (.empty region) where
  wellFormed := .empty region
  ids_eq := rfl
  calls := by
    constructor <;>
      simp [CallGraph.empty, CallGraph.callees, CallGraph.node?, Prevails, DrawnCase.namedCalls]
  attributes_eq := by simp [CallGraph.empty, CallGraph.nodeFor, CallGraph.node?,
    DrawnCase.lastAttributes]

/-- A case begins with its function: nothing is drawn from it yet. -/
theorem setAttributes (hgraph : Records shown graph) (id : String) (attributes : Attributes) :
    Records (shown ++ [⟨id, attributes, []⟩]) (graph.setAttributes id attributes) := by
  have hcalls : DrawnCase.namedCalls (shown ++ [⟨id, attributes, []⟩]) =
      DrawnCase.namedCalls shown := by simp [DrawnCase.namedCalls]
  have hcallees : ∀ caller,
      (graph.setAttributes id attributes).callees caller = graph.callees caller := by
    intro caller
    rw [CallGraph.callees_eq_nodeFor, CallGraph.nodeFor_setAttributes, CallGraph.callees_eq_nodeFor]
    split
    · rename_i hsame
      rw [hsame]
    · rfl
  refine ⟨hgraph.wellFormed.setAttributes id attributes, ?_, ?_, ?_⟩
  · rw [CallGraph.ids_setAttributes hgraph.ids_eq]
    simp [DrawnCase.mentioned]
  · rw [hcalls]
    constructor <;> simp only [hcallees]
    · exact hgraph.calls.mem_callees_iff
    · exact hgraph.calls.ordered
  · intro other
    rw [CallGraph.nodeFor_setAttributes, DrawnCase.lastAttributes_concat]
    by_cases hsame : other = id
    · rw [if_pos hsame, if_pos hsame.symm]
    · rw [if_neg hsame, if_neg (Ne.symm hsame)]
      exact hgraph.attributes_eq other

/-- **A case goes on with one more call**, which is drawn unless it is drawn the other way round.
-/
theorem addCall {id : String} {attributes : Attributes} {calls : List String}
    (hgraph : Records (shown ++ [⟨id, attributes, calls⟩]) graph) (callee : String) :
    Records (shown ++ [⟨id, attributes, calls ++ [callee]⟩]) (graph.addCall id callee) := by
  have hcalls : DrawnCase.namedCalls (shown ++ [⟨id, attributes, calls ++ [callee]⟩]) =
      DrawnCase.namedCalls (shown ++ [⟨id, attributes, calls⟩]) ++ [(id, callee)] := by
    simp [DrawnCase.namedCalls]
  have hmentioned : DrawnCase.mentioned (shown ++ [⟨id, attributes, calls ++ [callee]⟩]) =
      DrawnCase.mentioned (shown ++ [⟨id, attributes, calls⟩]) ++ [callee] := by
    simp [DrawnCase.mentioned]
  have hid : id ∈ DrawnCase.mentioned (shown ++ [⟨id, attributes, calls⟩]) := by
    simp [DrawnCase.mentioned]
  refine ⟨hgraph.wellFormed.addCall id callee, ?_, ?_, fun other => ?_⟩
  · rw [CallGraph.ids_addCall hgraph.ids_eq hid, hmentioned]
  · rw [hcalls]
    exact hgraph.calls.addCall id callee
  · rw [CallGraph.attributes_nodeFor_addCall, hgraph.attributes_eq,
      DrawnCase.lastAttributes_concat, DrawnCase.lastAttributes_concat]

/-- **Drawing a case** records it behind the others. -/
theorem draw (hgraph : Records shown graph) (one : DrawnCase) :
    Records (shown ++ [one]) (graph.draw one) := by
  obtain ⟨id, attributes, calls⟩ := one
  -- The induction adds the calls at the end, as they are drawn first to last.
  induction calls using List.reverseRecOn with
  | nil => exact hgraph.setAttributes id attributes
  | append_singleton calls callee ih =>
      rw [CallGraph.draw, List.foldl_append]
      exact ih.addCall callee

/-- Drawing cases records all of them. -/
theorem foldl_draw (hgraph : Records shown graph) (more : List DrawnCase) :
    Records (shown ++ more) (more.foldl CallGraph.draw graph) := by
  induction more generalizing shown graph with
  | nil => simpa using hgraph
  | cons one more ih =>
      rw [List.foldl_cons, ← List.singleton_append, ← List.append_assoc]
      exact ih (hgraph.draw one)

end Records

/-! ### The call graph of a region -/

namespace Region

variable (options : GraphOptions) (region : Region)

/-- The call graph of a region records the cases that are shown. -/
theorem records_callGraph :
    Records (region.drawnCases options) (region.callGraph options) := by
  have hrecords := (Records.empty region.id).foldl_draw (region.drawnCases options)
  rwa [List.nil_append] at hrecords

/-- The call graph of a region is well-formed. -/
theorem wellFormed_callGraph : (region.callGraph options).WellFormed :=
  (region.records_callGraph options).wellFormed

/-- The call graph of a region is drawn for the region. -/
@[simp] theorem region_callGraph : (region.callGraph options).region = region.id :=
  CallGraph.region_foldl CallGraph.region_draw _ _

/-- The calls that the shown cases name, one after the other. -/
def namedCalls : List (String × String) := (region.shownCases options).flatMap ShownCase.calls

/-- The functions that the shown cases mention, one after the other. -/
def mentioned : List String := (region.shownCases options).flatMap ShownCase.mentions

/-- How the last shown case of a function draws it, or plainly if there is none. -/
def lastAttributes (id : String) : Attributes :=
  ((((region.shownCases options).filter (·.id = id)).getLast?).map (·.attributes)).getD (.plain id)

/-- The drawn cases name the calls of the shown ones. -/
theorem namedCalls_drawnCases :
    DrawnCase.namedCalls (region.drawnCases options) = region.namedCalls options := by
  rw [DrawnCase.namedCalls, drawnCases_eq, namedCalls, List.flatMap_map]
  simp only [ShownCase.drawn_eq]
  rfl

/-- The drawn cases mention the functions of the shown ones. -/
theorem mentioned_drawnCases :
    DrawnCase.mentioned (region.drawnCases options) = region.mentioned options := by
  rw [DrawnCase.mentioned, drawnCases_eq, mentioned, List.flatMap_map]
  simp only [ShownCase.drawn_eq]
  rfl

/-- The drawn cases draw a function as the shown ones say. -/
theorem lastAttributes_drawnCases (id : String) :
    DrawnCase.lastAttributes (region.drawnCases options) id = region.lastAttributes options id := by
  rw [DrawnCase.lastAttributes, drawnCases_eq, lastAttributes, List.filter_map, List.getLast?_map,
    Option.map_map]
  simp only [ShownCase.drawn_eq, Function.comp_def]

/-- **The call graph of a region** is the one that its shown cases define. Its functions stand in
the order in which they are mentioned first. A call is drawn when it is named, and not the other way
round before it is named first, so never in both directions between two functions. The callees of a
function stand in the order in which its calls are named first, and a function is drawn as its last
case says. -/
theorem callGraph_eq_shownCases :
    (region.callGraph options).region = region.id ∧
      (region.callGraph options).ids = (region.mentioned options).eraseDups ∧
      (∀ caller callee, (region.callGraph options).hasEdge caller callee = true ↔
        (caller, callee) ∈ region.namedCalls options ∧
          (caller = callee ∨ (callee, caller) ∉
            (region.namedCalls options).take
              ((region.namedCalls options).idxOf (caller, callee)))) ∧
      (∀ caller callee, (region.callGraph options).hasEdge caller callee = true →
        (region.callGraph options).hasEdge callee caller = true → caller = callee) ∧
      ∀ node ∈ (region.callGraph options).nodes,
        node.callees = (region.callGraph options).callees node.id ∧
          (node.callees.Pairwise fun callee other =>
            (region.namedCalls options).idxOf (node.id, callee) <
              (region.namedCalls options).idxOf (node.id, other)) ∧
          node.attributes = region.lastAttributes options node.id := by
  have hgraph := region.records_callGraph options
  have hcalls := hgraph.calls
  rw [namedCalls_drawnCases] at hcalls
  have hedge : ∀ caller callee, (region.callGraph options).hasEdge caller callee = true ↔
      Prevails (region.namedCalls options) caller callee := by
    intro caller callee
    rw [← hcalls.mem_callees_iff, CallGraph.hasEdge, List.contains_iff_mem]
  refine ⟨region.region_callGraph options, ?_, fun caller callee => ?_,
    fun caller callee hcall hback => ?_, fun node hnode => ⟨?_, ?_, ?_⟩⟩
  · rw [hgraph.ids_eq, mentioned_drawnCases]
  · rw [hedge, Prevails.iff_not_mem_take]
  · exact ((hedge caller callee).1 hcall).antisymm ((hedge callee caller).1 hback)
  · rw [hgraph.wellFormed.callees_of_mem hnode]
  · rw [← hgraph.wellFormed.callees_of_mem hnode]
    exact hcalls.ordered node.id
  · rw [← lastAttributes_drawnCases, ← hgraph.attributes_eq,
      hgraph.wellFormed.nodeFor_of_mem hnode]

end Region

end CallForest
