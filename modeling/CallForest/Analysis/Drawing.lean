import CallForest.Analysis.Document
import CallForest.Graph.Basic

/-! # Drawing the call graph of a region

The cases of a region are drawn one after the other: the passing ones, if they are shown, and then
the failing ones, if they are shown. A case classifies its function by label and color and draws its
calls. Of two functions that call each other only the call that is seen first is drawn.

* `GraphOptions`: which cases are shown.
* `DrawnCase`, `PassingCase.drawn`, `FailingCase.drawn`: what a case adds to a graph.
* `CallGraph.addCall`, `CallGraph.draw`: adding a call, and a case.
* `Region.drawnCases`, `Region.callGraph`: the cases that are shown, and the graph they make. -/

namespace CallForest

/-- Which cases of a region are shown in its call graph. -/
structure GraphOptions where
  /-- Whether passing cases are shown. -/
  includePassing : Bool
  /-- Whether failing cases are shown. -/
  includeFailing : Bool
  deriving DecidableEq, Repr

/-- Failing cases are shown and passing ones are not, unless something else is asked for. -/
def GraphOptions.standard : GraphOptions := ⟨false, true⟩

/-- What a case adds to a call graph. -/
structure DrawnCase where
  /-- The function of the case. -/
  id : String
  /-- How the function is drawn. -/
  attributes : Attributes
  /-- The calls that are drawn. -/
  calls : List String
  deriving DecidableEq, Repr

/-- An allowlisted function and one without important locals are drawn without their calls. -/
def PassingCase.drawn (shown : PassingCase) : DrawnCase :=
  if shown.allowlisted then ⟨shown.id, .filled (shown.id ++ " -A") .orchid, []⟩
  else if shown.importantLocals.isEmpty then ⟨shown.id, .filled (shown.id ++ " -I") .khaki, []⟩
  else ⟨shown.id, .filled shown.id .lightGreen, shown.calls⟩

/-- The markers of impurity that a failing case carries, in their order. -/
def FailingCase.markers (shown : FailingCase) : List String :=
  (if shown.rawPointerDeref then [" -R"] else []) ++
    (if shown.hasTransmute then [" -T"] else []) ++
    (if shown.hasBody then [] else [" -B"])

/-- A failing function shows its markers, and the color tells whether there are any. -/
def FailingCase.drawn (shown : FailingCase) : DrawnCase :=
  ⟨shown.id,
    .filled (shown.markers.foldl (· ++ ·) shown.id)
      (if shown.markers.isEmpty then .tomato else .orange),
    shown.calls⟩

/-- Draws a call, unless the call in the other direction is drawn already. -/
def CallGraph.addCall (caller : String) (graph : CallGraph) (callee : String) : CallGraph :=
  if graph.hasEdge callee caller then graph else graph.addEdge caller callee

/-- Draws a case: its function and then its calls. -/
def CallGraph.draw (graph : CallGraph) (shown : DrawnCase) : CallGraph :=
  shown.calls.foldl (CallGraph.addCall shown.id) (graph.setAttributes shown.id shown.attributes)

namespace Region

/-- The cases of a region that are shown, in the order in which they are drawn. -/
def drawnCases (options : GraphOptions) (region : Region) : List DrawnCase :=
  (if options.includePassing then region.passing.map PassingCase.drawn else []) ++
    (if options.includeFailing then region.failing.map FailingCase.drawn else [])

/-- The **call graph** of a region. -/
def callGraph (options : GraphOptions) (region : Region) : CallGraph :=
  (region.drawnCases options).foldl CallGraph.draw (.empty region.id)

end Region

end CallForest
