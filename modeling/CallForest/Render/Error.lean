import CallForest.FileSystem.Fault
import CallForest.Forest.Expansion
import CallForest.Process.Ending

/-! # Why a region has no diagram

Each region of a document is rendered on its own, and what stops it concerns no other region:
another region has its file, its call graph has a cycle, or the system refuses something.

* `RenderError`: the reasons.
* `RenderError.region`: the region without a diagram.
* `RenderError.message`: how a reason is reported. -/

namespace CallForest

/-- Why a region has no diagram. -/
inductive RenderError where
  /-- Its call graph has a cycle. -/
  | cycle (error : CycleError)
  /-- The diagram of another region goes to the same file. -/
  | pathCollision (region path other : String)
  /-- The output directory cannot be made. -/
  | createDirectory (region path : String) (fault : SystemFault)
  /-- The file cannot be written. -/
  | write (region path : String) (fault : SystemFault)
  /-- The layout program cannot be launched. -/
  | spawn (region program : String) (fault : SystemFault)
  /-- The layout program failed. -/
  | layout (region program path : String) (ending : ProcessEnd) (errors : String)
  deriving DecidableEq, Repr

namespace RenderError

/-- The region without a diagram. -/
def region : RenderError → String
  | .cycle error => error.region
  | .pathCollision region _ _ | .createDirectory region _ _ | .write region _ _ | .spawn region _ _
  | .layout region _ _ _ _ => region

/-- What is wrong, apart from the region. -/
def detail : RenderError → String
  | .cycle error => error.message
  | .pathCollision _ path other => path ++ " is already the diagram of region `" ++ other ++ "`"
  | .createDirectory _ path fault =>
    "cannot create output directory " ++ path ++ ": " ++ fault.message
  | .write _ path fault => "cannot write " ++ path ++ ": " ++ fault.message
  | .spawn _ program fault => "failed to run `" ++ program ++ "`: " ++ fault.message
  | .layout _ program path ending errors =>
    "`" ++ program ++ "` exited with " ++ ending.message ++ " while writing " ++ path ++ ": " ++
      errors

/-- How it is reported that a region has no diagram. A cycle names its region itself. -/
def message (error : RenderError) : String :=
  match error with
  | .cycle error => error.message
  | _ => "region `" ++ error.region ++ "`: " ++ error.detail

end RenderError

end CallForest
