import CallForest.Config.Setting
import CallForest.FileSystem.Fault

/-! # Reading configurations

A configuration is read from the text of a TOML document: the standard one with the settings of the
document, if that is valid.

* `TomlError`: why a document is refused, and where.
* `ConfigError`: why there is no configuration.
* `Config.validate`, `Config.parse`: checks a configuration, and reads one. -/

namespace CallForest

/-- What is wrong with a document. -/
inductive TomlError where
  /-- It breaks the grammar, or its definitions clash. -/
  | grammar (fault : Toml.Fault)
  /-- A setting is at fault. -/
  | setting (span : Toml.Span) (mistake : Setting.Mistake)
  deriving DecidableEq, Repr

namespace TomlError

/-- Where a document is at fault. -/
def span : TomlError → Toml.Span
  | .grammar fault => fault.span
  | .setting span _ => span

/-- What is wrong, without its place. -/
def detail : TomlError → String
  | .grammar _ => "the document does not follow the grammar"
  | .setting _ mistake => mistake.message

/-- The report on a document that is refused. -/
def report (error : TomlError) (document : String) : String :=
  Toml.report error.span error.detail document.toList

end TomlError

/-- Why there is no configuration. -/
inductive ConfigError where
  /-- The file cannot be read. -/
  | read (path : String) (fault : SystemFault)
  /-- The document is refused; `origin` names it in messages. -/
  | parse (origin : String) (document : String) (error : TomlError)
  /-- The configuration is not valid. -/
  | invalid (flaw : Config.Flaw)
  deriving DecidableEq, Repr

/-- What a configuration error goes back to, if it is something else. -/
def ConfigError.source? : ConfigError → Option String
  | .read _ fault => some fault.message
  | .parse _ document error => some (error.report document)
  | .invalid _ => none

/-- How a configuration error is reported. -/
def ConfigError.message : ConfigError → String
  | .read path fault => "cannot read config file " ++ path ++ ": " ++ fault.message
  | .parse origin document error =>
    "invalid config file " ++ origin ++ ": " ++ error.report document
  | .invalid flaw => "invalid configuration: " ++ flaw.message

namespace Config

/-- A configuration, if it is valid. -/
def validate (config : Config) : Except ConfigError Config :=
  match config.flaw? with
  | none => .ok config
  | some flaw => .error (.invalid flaw)

/-- The settings that a document makes. -/
def settings (document : List Char) : Except TomlError (List Setting) :=
  match Toml.read document with
  | .error fault => .error (.grammar fault)
  | .ok entries => (Setting.ofEntries entries).mapError fun (span, mistake) => .setting span mistake

/-- Reads a **configuration** from a text that messages call `origin`. -/
def parse (origin document : String) : Except ConfigError Config :=
  match settings document.toList with
  | .error error => .error (.parse origin document error)
  | .ok settings => validate (settings.foldl set standard)

end Config

end CallForest
