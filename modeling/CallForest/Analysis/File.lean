import CallForest.Analysis.Schema
import CallForest.Host

/-! # Files with analysis documents

A file is read as a whole. That its length is asked for first, that a file without length counts as
empty and that any other one is mapped into memory makes no difference to a file whose length is
that of its content. Files of another kind are left out: pipes, files that the system makes up as
they are read, and directories.

* `LoadError`: why there is no document.
* `Document.load`: reads a document from a file. -/

namespace CallForest

/-- Why there is no analysis document. -/
inductive LoadError where
  /-- The file cannot be read. -/
  | read (path : String) (fault : SystemFault)
  /-- The document is refused. -/
  | schema (error : SchemaError)
  deriving DecidableEq, Repr

/-- How it is reported that there is no document. -/
def LoadError.message : LoadError → String
  | .read path fault => "cannot read analysis document " ++ path ++ ": " ++ fault.message
  | .schema error => error.message

/-- What the lack of a document goes back to. -/
def LoadError.source : LoadError → String
  | .read _ fault => fault.message
  | .schema error => error.detail

/-- Reads an **analysis document from a file**, whose length is that of its content. -/
def Document.load {m : Type → Type} [Monad m] (host : Host m) (path : String) :
    m (Except LoadError Document) := do
  match ← host.read path with
  | .error fault => return .error (.read path fault)
  | .ok content => return (Document.parse path content).mapError .schema

end CallForest
