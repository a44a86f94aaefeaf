/-! # Attributes of a drawn function

The visual attributes that a node of a call graph carries into its diagram: a label, an optional
fill color and an optional style. The colors classify functions, the only style is `filled`.

* `FillColor`, `FillColor.name`: the five colors and their names in a DOT attribute list.
* `NodeStyle`, `NodeStyle.name`: the styles and their names.
* `Attributes`, `Attributes.plain`, `Attributes.filled`: the attributes of a node, of a function
  that is only known as a call target, and of a classified function. -/

namespace CallForest

/-- Fill colors that classify functions in a diagram. -/
inductive FillColor where
  /-- An allowlisted passing function. -/
  | orchid
  /-- A passing function without important locals. -/
  | khaki
  /-- A passing function whose calls are tracked. -/
  | lightGreen
  /-- A failing function without a known impurity marker. -/
  | tomato
  /-- A failing function with at least one known impurity marker. -/
  | orange
  deriving DecidableEq, Repr

/-- The name of a color in a DOT attribute list. -/
def FillColor.name : FillColor → String
  | .orchid => "orchid"
  | .khaki => "khaki"
  | .lightGreen => "lightgreen"
  | .tomato => "tomato"
  | .orange => "orange"

/-- Every fill color, in the order of its classification. -/
def FillColor.all : List FillColor := [.orchid, .khaki, .lightGreen, .tomato, .orange]

/-- The color of a given name. -/
def FillColor.ofName? (name : String) : Option FillColor :=
  FillColor.all.find? (·.name = name)

/-- Reading the name of a color gives the color back, so no two colors share a name. -/
@[simp] theorem FillColor.ofName?_name (color : FillColor) :
    FillColor.ofName? color.name = some color := by
  cases color <;> decide

/-- Styles of a drawn node. -/
inductive NodeStyle where
  /-- The node is painted with its fill color. -/
  | filled
  deriving DecidableEq, Repr

/-- The name of a style in a DOT attribute list. -/
def NodeStyle.name : NodeStyle → String
  | .filled => "filled"

/-- The visual attributes of a node. -/
structure Attributes where
  /-- The text written into the node. -/
  label : String
  /-- The fill color, if the function is classified. -/
  fill : Option FillColor
  /-- The style, set together with a fill color when a function is classified. -/
  style : Option NodeStyle
  deriving DecidableEq, Repr

/-- The attributes of a function that is only known as a call target: its id, neither filled nor
styled. -/
def Attributes.plain (id : String) : Attributes := ⟨id, none, none⟩

/-- The attributes of a classified function. -/
def Attributes.filled (label : String) (color : FillColor) : Attributes :=
  ⟨label, some color, some .filled⟩

end CallForest
