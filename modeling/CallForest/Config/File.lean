import CallForest.Config.Reading
import CallForest.Host

/-! # Configuration files

* `Config.load`: reads a configuration from a file, which must be well-formed UTF-8. -/

namespace CallForest

namespace Config

/-- The configuration that the bytes of a file hold. -/
def ofBytes (path : String) (content : Bytes) : Except ConfigError Config :=
  match Utf8.decode content with
  | .error _ => .error (.read path .notUtf8)
  | .ok document => parse path document

/-- Reads a **configuration from a file**. -/
def load {m : Type → Type} [Monad m] (host : Host m) (path : String) :
    m (Except ConfigError Config) := do
  match ← host.read path with
  | .error fault => return .error (.read path fault)
  | .ok content => return ofBytes path content

end Config

end CallForest
