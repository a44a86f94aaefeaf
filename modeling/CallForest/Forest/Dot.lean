import CallForest.Forest.Basic
import CallForest.Text.Escape

/-! # Forests as DOT text

A forest is written as a DOT digraph with a caption, laid out from top to bottom: a fixed head, one
line per node, an empty line, one line per edge, and the closing brace. Nodes and edges are written
in the order of the forest, so the text depends on nothing else.

* `BranchNode.dotLine`: the line of a node.
* `Forest.dotLines`, `Forest.dotText`: the lines of a forest and the text they make. -/

namespace CallForest

/-- An attribute with a quoted value. -/
def dotAttribute (key value : String) : String := key ++ "=" ++ Label.quote value

/-- The attribute list of a node: label and source always, style and fill color when they are set.
-/
def BranchNode.dotAttributes (node : BranchNode) : List String :=
  [dotAttribute "label" node.attributes.label, dotAttribute "source" node.source] ++
    (node.attributes.style.map fun style => dotAttribute "style" style.name).toList ++
    (node.attributes.fill.map fun color => dotAttribute "fillcolor" color.name).toList

/-- The name of a node in DOT text. -/
def dotName (id : Nat) : String := "n" ++ toString id

/-- The line of a node. -/
def BranchNode.dotLine (node : BranchNode) : String :=
  "    " ++ dotName node.id ++ " [" ++ String.intercalate ", " node.dotAttributes ++ "];"

/-- The line of an edge. -/
def dotEdgeLine (edge : Nat × Nat) : String :=
  "    " ++ dotName edge.1 ++ " -> " ++ dotName edge.2 ++ ";"

namespace Forest

/-- The lines of a forest under a caption. The last one is empty, so the text ends in a newline. -/
def dotLines (forest : Forest) (caption : String) : List String :=
  ["digraph " ++ Label.quote forest.region ++ " \x7b",
    "    rankdir=TB;",
    "    labelloc=t;",
    "    " ++ dotAttribute "label" caption ++ ";",
    "    node [" ++ dotAttribute "fontname" "Helvetica" ++ ", fontsize=12];",
    "    edge [" ++ dotAttribute "fontname" "Helvetica" ++ ", fontsize=10];",
    ""] ++
  forest.nodes.map BranchNode.dotLine ++ [""] ++
  forest.edges.map dotEdgeLine ++ ["\x7d", ""]

/-- The **DOT text** of a forest under a caption. -/
def dotText (forest : Forest) (caption : String) : String :=
  String.intercalate "\n" (forest.dotLines caption)

end Forest

end CallForest
