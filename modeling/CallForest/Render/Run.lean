import CallForest.Analysis.Caption
import CallForest.Config.Basic
import CallForest.Forest.Dot
import CallForest.Host
import CallForest.Render.Diagram
import CallForest.Render.Error
import CallForest.Text.Blank

/-! # Rendering a document

A run renders the regions of a document one after the other, in their order, and reports on each of
them. What a diagram shows and where it goes is planned first, without the host; only a region whose
plan succeeds asks the host for anything.

* `Drawing`, `Document.plan`: the diagram of a region before it is written.
* `Drawing.publish`: writes a diagram, by way of the layout program if its format needs one.
* `RegionReport`, `RunReport`: what became of a region, and of all of them.
* `Document.render`: a run. -/

namespace CallForest

/-! ## Plans -/

/-- The diagram of a region before it is written. -/
structure Drawing where
  /-- The region. -/
  region : String
  /-- The path of the file that it goes to. -/
  path : String
  /-- The DOT text. -/
  text : String
  /-- The number of nodes. -/
  nodes : Nat
  /-- The number of edges. -/
  edges : Nat
  deriving DecidableEq, Repr

/-- The path of a region's diagram. -/
def Config.diagramPath (config : Config) (region : String) : String :=
  Diagram.path config.outputDir region config.format.name

namespace Document

/-- The file that each region's diagram goes to, in the order of the document. -/
def targets (config : Config) (document : Document) : List (String × String) :=
  document.regions.map fun region => (config.diagramPath region.id, region.id)

/-- The other region that has the file of a region's diagram: the first one whose diagram goes
there, unless that is the region itself or another mention of it. -/
def owner? (config : Config) (document : Document) (region : String) : Option String :=
  ((document.targets config).lookup (config.diagramPath region)).filter (· ≠ region)

/-- The **diagram of a region** as it is planned. -/
def plan (config : Config) (document : Document) (region : Region) : Except RenderError Drawing :=
  let path := config.diagramPath region.id
  match document.owner? config region.id with
  | some other => .error (.pathCollision region.id path other)
  | none =>
    let graph := region.callGraph config.graphOptions
    match graph.expand with
    | .error error => .error (.cycle error)
    | .ok bare =>
      let forest := bare.applyAttributes graph
      .ok ⟨region.id, path, forest.dotText (region.caption document.crateName), forest.size,
        forest.edgeCount⟩

end Document

/-! ## Publication -/

variable {m : Type → Type} [Monad m]

namespace Drawing

/-- Lays a diagram out with a program, which writes it to its file. -/
def layOut (host : Host m) (config : Config) (drawing : Drawing) : m (Except RenderError Unit) := do
  let command := LayoutCommand.of config.dotProgram config.format drawing.path
  match ← host.launch command drawing.text with
  | .error fault => return .error (.spawn drawing.region command.program fault)
  | .ok done =>
    if done.ending.isSuccess then return .ok ()
    else
      return .error (.layout drawing.region command.program drawing.path done.ending
        (Blank.trim (Utf8.decodeLossy done.errors)))

/-- Writes a diagram to its file. -/
def write (host : Host m) (drawing : Drawing) : m (Except RenderError Unit) := do
  return (← host.write drawing.path drawing.text).mapError (.write drawing.region drawing.path)

/-- **Publishes a diagram**: makes the output directory and writes the file, by way of the layout
program if the format needs one. -/
def publish (host : Host m) (config : Config) (drawing : Drawing) :
    m (Except RenderError Unit) := do
  match ← host.makeDirectories config.outputDir with
  | .error fault => return .error (.createDirectory drawing.region config.outputDir fault)
  | .ok () => if config.format.needsLayout then drawing.layOut host config else drawing.write host

end Drawing

/-! ## Runs -/

/-- What became of a region: its diagram, or why it has none. -/
structure RegionReport where
  /-- The region. -/
  id : String
  /-- Its diagram, or why it has none. -/
  outcome : Except RenderError Drawing

/-- What became of the regions of a document, in its order. -/
structure RunReport where
  /-- The crate. -/
  crateName : String
  /-- The reports on the regions. -/
  regions : List RegionReport

/-- Whether a region has its diagram. -/
def RegionReport.isRendered (report : RegionReport) : Bool := report.outcome.isOk

namespace RunReport

/-- The number of regions that have their diagrams. -/
def rendered (report : RunReport) : Nat := report.regions.countP (·.isRendered)

/-- The number of regions that have none. -/
def failed (report : RunReport) : Nat := report.regions.countP (!·.isRendered)

/-- Whether every region has its diagram. -/
def isSuccess (report : RunReport) : Bool := report.regions.all (·.isRendered)

end RunReport

namespace Document

/-- Renders a region. -/
def renderRegion (host : Host m) (config : Config) (document : Document) (region : Region) :
    m RegionReport := do
  match document.plan config region with
  | .error error => return ⟨region.id, .error error⟩
  | .ok drawing => return ⟨region.id, (← drawing.publish host config).map fun _ => drawing⟩

/-- **Renders a document**, region by region. -/
def render (host : Host m) (config : Config) (document : Document) : m RunReport := do
  return ⟨document.crateName, ← document.regions.mapM (document.renderRegion host config)⟩

end Document

end CallForest
