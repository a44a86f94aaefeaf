import CallForest.Analysis.Document

/-! # Captions

The caption of a diagram names the region, its crate and, where there is one, the verdict. An impure
verdict gives its reason, unless that is empty.

* `Region.verdict`: the verdict as text.
* `Region.caption`: the caption of a region's diagram. -/

namespace CallForest

namespace Region

/-- The line on the verdict, with the newline in front of it. -/
def verdict (region : Region) : String :=
  match region.status with
  | none => ""
  | some true => "\nverdict: pure"
  | some false =>
    match region.reason with
    | none => "\nverdict: impure"
    | some reason =>
      if reason = "" then "\nverdict: impure" else "\nverdict: impure (" ++ reason ++ ")"

/-- The caption of a region's diagram. -/
def caption (crateName : String) (region : Region) : String :=
  region.id ++ "\ncrate: " ++ crateName ++ region.verdict

end Region

end CallForest
