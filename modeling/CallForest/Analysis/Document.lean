import CallForest.Json.Value

/-! # Analysis documents

What an analysis says about a crate: a region for each function it looked at, and for each region
the functions that passed and failed. Only what diagrams need is kept.

* `PassingCase`, `FailingCase`: the verdict on one function of a region.
* `Region`: the verdict on a region.
* `Document`: the regions of a crate. -/

namespace CallForest

/-- A function that passed. -/
structure PassingCase where
  /-- The function. -/
  id : String
  /-- The functions it calls. -/
  calls : List String
  /-- Whether it passed because it is on the list of allowed functions. -/
  allowlisted : Bool
  /-- The locals that influence the region's result. Only whether there are any matters. -/
  importantLocals : List Json.Value

/-- A function that failed. -/
structure FailingCase where
  /-- The function. -/
  id : String
  /-- The functions it calls. -/
  calls : List String
  /-- Whether the function has a body. -/
  hasBody : Bool
  /-- Whether it dereferences a raw pointer. -/
  rawPointerDeref : Bool
  /-- Whether it transmutes. -/
  hasTransmute : Bool
  deriving DecidableEq, Repr

/-- The verdict on a **region**, a function that was looked at. -/
structure Region where
  /-- The function. -/
  id : String
  /-- Whether the region was found pure, if there is a verdict. -/
  status : Option Bool
  /-- Why the region was rejected. -/
  reason : Option String
  /-- Whether the function is annotated as pure. -/
  annotatedPure : Option Bool
  /-- The functions that passed. -/
  passing : List PassingCase
  /-- The functions that failed. -/
  failing : List FailingCase

/-- The number of functions with a verdict. -/
def Region.bodyCount (region : Region) : Nat := region.passing.length + region.failing.length

/-- An **analysis document**: the regions of a crate. -/
structure Document where
  /-- The crate. -/
  crateName : String
  /-- The time that the analysis took, in seconds. -/
  elapsed : Binary64
  /-- The regions, in the order of the document. -/
  regions : List Region

end CallForest
