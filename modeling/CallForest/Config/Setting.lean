import CallForest.Config.Basic
import CallForest.Toml.Document

/-! # Settings

A configuration is written as a TOML document, whose keys override what holds by standard. Its keys
are judged in their order, and the first one at fault is reported.

* `Setting`, `Config.set`: the value of one key, and a configuration with that value.
* `Setting.Mistake`: what is wrong with a key or its value.
* `Setting.ofEntry`, `Setting.ofEntries`: the settings of a document. -/

namespace CallForest

/-- The value of one key of a configuration. -/
inductive Setting where
  /-- The directory that diagrams are written to. -/
  | outputDir (path : String)
  /-- The format of the diagrams. -/
  | format (format : OutputFormat)
  /-- Whether passing cases are shown. -/
  | includePassing (shown : Bool)
  /-- Whether failing cases are shown. -/
  | includeFailing (shown : Bool)
  /-- How many regions are rendered at a time. -/
  | jobs (count : Nat)
  /-- The layout program. -/
  | dotProgram (name : String)
  deriving DecidableEq, Repr

/-- A configuration with one setting changed. -/
def Config.set (config : Config) : Setting → Config
  | .outputDir path => { config with outputDir := path }
  | .format format => { config with format }
  | .includePassing shown => { config with includePassing := shown }
  | .includeFailing shown => { config with includeFailing := shown }
  | .jobs count => { config with jobs := count }
  | .dotProgram name => { config with dotProgram := name }

namespace Setting

open Toml (Span Key Node Scalar)

/-! ## Mistakes -/

/-- What is wrong with a key or its value. -/
inductive Mistake where
  /-- There is no such key. -/
  | unknownField (name : String)
  /-- There is no such format. -/
  | unknownVariant (name : String)
  /-- The value is not of the wanted kind. -/
  | invalidType (found wanted : String)
  /-- A number that counts something is negative. -/
  | negative (value : Int)
  /-- The format is not given by a name. -/
  | unnamedFormat
  deriving DecidableEq, Repr

/-- Words between backticks, separated by commas. -/
def listed (words : List String) : String :=
  String.intercalate ", " (words.map fun word => "`" ++ word ++ "`")

/-- The keys of a configuration. -/
def keys : List String :=
  ["output_dir", "format", "include_passing", "include_failing", "jobs", "dot_program"]

/-- How a mistake is reported. -/
def Mistake.message : Mistake → String
  | .unknownField name => "unknown field `" ++ name ++ "`, expected one of " ++ listed keys
  | .unknownVariant name =>
    "unknown variant `" ++ name ++ "`, expected one of " ++ listed (OutputFormat.all.map (·.name))
  | .invalidType found wanted => "invalid type: " ++ found ++ ", expected " ++ wanted
  | .negative value => "invalid value: integer `" ++ toString value ++ "`, expected usize"
  | .unnamedFormat => "wanted string or table"

/-! ## Values -/

/-- How a value that was found is named. -/
def describe : Node → String
  | .scalar value _ => value.describe
  | .array _ _ | .rows _ _ => "sequence"
  | .table _ _ _ => "map"

/-- A string, where one is wanted. -/
def text (wanted : String) : Node → Except Mistake String
  | .scalar (.string value) _ => .ok value
  | node => .error (.invalidType (describe node) wanted)

/-- A truth value. -/
def flag : Node → Except Mistake Bool
  | .scalar (.boolean value) _ => .ok value
  | node => .error (.invalidType (describe node) "a boolean")

/-- A number that counts something. -/
def count : Node → Except Mistake Nat
  | .scalar (.integer value) _ => if value < 0 then .error (.negative value) else .ok value.toNat
  | node => .error (.invalidType (describe node) "usize")

/-- Whether an array or a table is empty. -/
def isEmpty : Node → Bool
  | .array elements _ => elements.isEmpty
  | .table _ entries _ => entries.isEmpty
  | .scalar _ _ | .rows _ _ => false

/-- A format, which is a string, or a table whose only key is the name and which holds nothing else.
A mistake inside the table has a place of its own. -/
def formatOf : Node → Except (Option Span × Mistake) OutputFormat
  | .scalar (.string name) _ =>
    match OutputFormat.ofName? name with
    | some chosen => .ok chosen
    | none => .error (none, .unknownVariant name)
  | .table _ [(key, node)] _ =>
    match OutputFormat.ofName? key.text with
    | none => .error (some key.span, .unknownVariant key.text)
    | some chosen => if isEmpty node then .ok chosen else .error (node.span?, .unnamedFormat)
  | _ => .error (none, .unnamedFormat)

/-! ## Documents -/

/-- The setting of a key, or a mistake, which may have a place of its own. -/
def ofEntry (key : Key) (node : Node) : Except (Option Span × Mistake) Setting :=
  let plain {α : Type} (value : Except Mistake α) : Except (Option Span × Mistake) α :=
    value.mapError fun mistake => (none, mistake)
  match key.text with
  | "output_dir" => plain ((text "path string" node).map .outputDir)
  | "format" => (formatOf node).map .format
  | "include_passing" => plain ((flag node).map .includePassing)
  | "include_failing" => plain ((flag node).map .includeFailing)
  | "jobs" => plain ((count node).map .jobs)
  | "dot_program" => plain ((text "a string" node).map .dotProgram)
  | name => .error (some key.span, .unknownField name)

/-- The place of a mistake: its own, else that of the value, else that of the key. -/
def place (key : Key) (node : Node) (own : Option Span) : Span :=
  (own.or node.span?).getD key.span

/-- The **settings** of a document, or its first mistake and where it is. -/
def ofEntries (entries : Toml.Entries) : Except (Span × Mistake) (List Setting) :=
  entries.mapM fun (key, node) =>
    (ofEntry key node).mapError fun (own, mistake) => (place key node own, mistake)

end Setting

end CallForest
