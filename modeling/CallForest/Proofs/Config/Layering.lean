import CallForest.Proofs.CommandLine.Reading
import CallForest.Proofs.Config.Settings
import CallForest.Proofs.Program

/-! # The layers of a configuration

What a command line gives overrides what a configuration file assigns, and this overrides what holds
by standard. Two flags only switch: one of them shows passing cases, the other hides failing ones. A
file must be valid in itself, and the configuration that comes of all layers must be valid before
anything is rendered.

* `Config.layered`: a configuration in its layers.
* `Config.IsValid`: what makes a configuration valid.
* `Config.foldl_set_eq`, `Arguments.apply_eq`: settings and arguments override.
* `Program.rendersNothing_or_exists_isValid`: what has been found before anything is rendered.
* `Config.parse_and_apply_layered`: the layers of a run. -/

namespace CallForest

namespace Setting

/-! ### Looking settings up -/

/-- The directory that diagrams are written to. -/
def outputDir? : Setting → Option String
  | outputDir path => some path
  | _ => none

/-- The format of the diagrams. -/
def format? : Setting → Option OutputFormat
  | format chosen => some chosen
  | _ => none

/-- Whether passing cases are shown. -/
def includePassing? : Setting → Option Bool
  | includePassing shown => some shown
  | _ => none

/-- Whether failing cases are shown. -/
def includeFailing? : Setting → Option Bool
  | includeFailing shown => some shown
  | _ => none

/-- How many regions are rendered at a time. -/
def jobs? : Setting → Option Nat
  | jobs count => some count
  | _ => none

/-- The layout program. -/
def dotProgram? : Setting → Option String
  | dotProgram name => some name
  | _ => none

end Setting

namespace Config

variable {given : List Argument} {assigned : List Setting}

/-! ### Layers -/

/-- A configuration **in its layers**: what is given, else what is assigned, else what holds by
standard. -/
def layered (given : List Argument) (assigned : List Setting) : Config where
  outputDir := (given.findSome? Argument.outputDir?).getD
    ((assigned.findSome? Setting.outputDir?).getD "callgraphs")
  format := (given.findSome? Argument.format?).getD
    ((assigned.findSome? Setting.format?).getD .svg)
  includePassing := decide (.flag .includePassing ∈ given) ||
    (assigned.findSome? Setting.includePassing?).getD false
  includeFailing := !decide (.flag .excludeFailing ∈ given) &&
    (assigned.findSome? Setting.includeFailing?).getD true
  jobs := (given.findSome? Argument.jobs?).getD ((assigned.findSome? Setting.jobs?).getD 1)
  dotProgram := (given.findSome? Argument.dotProgram?).getD
    ((assigned.findSome? Setting.dotProgram?).getD "dot")

/-- A configuration is **valid** if at least one region is rendered at a time and, unless the format
is DOT text, the name of the layout program is not blank. -/
def IsValid (config : Config) : Prop :=
  1 ≤ config.jobs ∧
    (config.format = .dot ∨ ∃ character ∈ config.dotProgram.toList,
      Blank.contains character = false)

/-- A valid configuration has no flaw. -/
theorem flaw?_eq_none_iff {config : Config} : config.flaw? = none ↔ config.IsValid := by
  have hjobs : 1 ≤ config.jobs ↔ ¬ config.jobs = 0 := Nat.one_le_iff_ne_zero
  have hformat : config.format = .dot ↔ ¬ config.format.needsLayout = true := by
    cases config.format <;> decide
  have hprogram : (∃ character ∈ config.dotProgram.toList, Blank.contains character = false) ↔
      ¬ Blank.isBlank config.dotProgram = true := by
    simp [Blank.isBlank]
  rw [IsValid, flaw?, hjobs, hformat, hprogram, ← not_and_or]
  split <;> simp_all

/-- A configuration with settings that are assigned. -/
def overridden (config : Config) (assigned : List Setting) : Config where
  outputDir := (assigned.findSome? Setting.outputDir?).getD config.outputDir
  format := (assigned.findSome? Setting.format?).getD config.format
  includePassing := (assigned.findSome? Setting.includePassing?).getD config.includePassing
  includeFailing := (assigned.findSome? Setting.includeFailing?).getD config.includeFailing
  jobs := (assigned.findSome? Setting.jobs?).getD config.jobs
  dotProgram := (assigned.findSome? Setting.dotProgram?).getD config.dotProgram

/-- **Settings of distinct keys override**, in whichever order they are assigned. -/
theorem foldl_set_eq (config : Config) (hdistinct : (assigned.map Setting.key).Nodup) :
    assigned.foldl set config = config.overridden assigned := by
  induction assigned generalizing config with
  | nil => rfl
  | cons setting assigned ih =>
      obtain ⟨hnew, hdistinct⟩ := List.nodup_cons.1 hdistinct
      -- The keys of the others are different ones.
      have hnone : ∀ {α : Type} (field : Setting → Option α),
          (∀ other, (field other).isSome = true → other.key = setting.key) →
            assigned.findSome? field = none := fun field hfield =>
        findSome?_eq_none_of_notMem hfield hnew
      rw [List.foldl_cons, ih _ hdistinct]
      cases setting with
      | outputDir path =>
          simp only [overridden, hnone Setting.outputDir? fun other hother => by
            cases other <;> first | rfl | cases hother]
          rfl
      | format format =>
          simp only [overridden, hnone Setting.format? fun other hother => by
            cases other <;> first | rfl | cases hother]
          rfl
      | includePassing shown =>
          simp only [overridden, hnone Setting.includePassing? fun other hother => by
            cases other <;> first | rfl | cases hother]
          rfl
      | includeFailing shown =>
          simp only [overridden, hnone Setting.includeFailing? fun other hother => by
            cases other <;> first | rfl | cases hother]
          rfl
      | jobs count =>
          simp only [overridden, hnone Setting.jobs? fun other hother => by
            cases other <;> first | rfl | cases hother]
          rfl
      | dotProgram name =>
          simp only [overridden, hnone Setting.dotProgram? fun other hother => by
            cases other <;> first | rfl | cases hother]
          rfl

/-- So do those of a document. -/
theorem foldl_set_standard (hdistinct : (assigned.map Setting.key).Nodup) :
    assigned.foldl set standard = layered [] assigned :=
  foldl_set_eq standard hdistinct

/-- **A document of settings is read** as the configuration that they make, unless that is invalid.
-/
theorem parse_of_isDocument (origin : String) {document : String}
    (hdocument : Setting.IsDocument assigned document.toList)
    (hdistinct : (assigned.map Setting.key).Nodup) :
    ((layered [] assigned).IsValid → Config.parse origin document = .ok (layered [] assigned)) ∧
      (¬ (layered [] assigned).IsValid →
        ∃ flaw, Config.parse origin document = .error (.invalid flaw)) := by
  have hparse : Config.parse origin document = (layered [] assigned).validate := by
    rw [Config.parse, settings_of_isDocument hdocument hdistinct]
    exact congrArg validate (foldl_set_standard hdistinct)
  rw [hparse, validate, ← flaw?_eq_none_iff]
  cases hflaw : (layered [] assigned).flaw? with
  | none => exact ⟨fun _ => rfl, fun hinvalid => absurd rfl hinvalid⟩
  | some flaw => exact ⟨fun hvalid => (by cases hvalid), fun _ => ⟨flaw, rfl⟩⟩

end Config

namespace Arguments

/-- **Arguments override a configuration**, two flags by switching only. -/
theorem apply_eq (arguments : Arguments) (config : Config) :
    arguments.apply config =
      { outputDir := arguments.outputDir.getD config.outputDir
        format := arguments.format.getD config.format
        includePassing := arguments.includePassing || config.includePassing
        includeFailing := !arguments.excludeFailing && config.includeFailing
        jobs := arguments.jobs.getD config.jobs
        dotProgram := arguments.dotProgram.getD config.dotProgram } := by
  have houtputDir : ∀ config, (arguments.outputDir.map .outputDir).toList.foldl Config.set config =
      { config with outputDir := arguments.outputDir.getD config.outputDir } := fun config => by
    cases arguments.outputDir <;> rfl
  have hformat : ∀ config, (arguments.format.map .format).toList.foldl Config.set config =
      { config with format := arguments.format.getD config.format } := fun config => by
    cases arguments.format <;> rfl
  have hpassing : ∀ config, (if arguments.includePassing then [Setting.includePassing true]
      else []).foldl Config.set config =
        { config with includePassing := arguments.includePassing || config.includePassing } :=
    fun config => by cases arguments.includePassing <;> rfl
  have hfailing : ∀ config, (if arguments.excludeFailing then [Setting.includeFailing false]
      else []).foldl Config.set config =
        { config with includeFailing := !arguments.excludeFailing && config.includeFailing } :=
    fun config => by cases arguments.excludeFailing <;> rfl
  have hjobs : ∀ config, (arguments.jobs.map .jobs).toList.foldl Config.set config =
      { config with jobs := arguments.jobs.getD config.jobs } := fun config => by
    cases arguments.jobs <;> rfl
  have hprogram : ∀ config, (arguments.dotProgram.map .dotProgram).toList.foldl Config.set config =
      { config with dotProgram := arguments.dotProgram.getD config.dotProgram } := fun config => by
    cases arguments.dotProgram <;> rfl
  rw [Arguments.apply, settings]
  simp only [List.foldl_append, houtputDir, hformat, hpassing, hfailing, hjobs, hprogram]

/-- What is given overrides what is assigned. -/
theorem apply_layered (path : String) (given : List Argument) (assigned : List Setting) :
    (of path given).apply (.layered [] assigned) = .layered given assigned := by
  rw [apply_eq]
  rfl

/-- The configuration that a command line starts from is the standard one if it names no file, and
what the document in the file says if it names one. -/
theorem StartsFrom.eq_layered {files : FileSystem} {arguments : Arguments} {base : Config}
    (hstarts : arguments.StartsFrom FileSystem.host files base) :
    (arguments.configFile = none → base = .layered [] []) ∧
      ∀ file content document assigned, arguments.configFile = some file →
        files.read file = .ok content → Utf8.decode content = .ok document →
          Setting.IsDocument assigned document.toList → (assigned.map Setting.key).Nodup →
            base = .layered [] assigned := by
  cases hstarts with
  | standard hfile =>
      refine ⟨fun _ => rfl, fun file content document assigned hfile' => ?_⟩
      rw [hfile] at hfile'
      cases hfile'
  | @file path text content settings hfile hread htext hsettings hvalid =>
      refine ⟨fun hnone => ?_, ?_⟩
      · rw [hfile] at hnone
        cases hnone
      · intro file content' document assigned hfile' hread' htext' hdocument hdistinct
        obtain rfl := Option.some.inj (hfile.symm.trans hfile')
        obtain rfl := Except.ok.inj (hread.symm.trans hread')
        obtain rfl := Except.ok.inj (htext.symm.trans htext')
        have hsame := Config.settings_of_isDocument hdocument hdistinct
        obtain rfl := Except.ok.inj (hsettings.symm.trans hsame)
        exact Config.foldl_set_standard hdistinct

end Arguments

/-! ### Runs that render -/

namespace Program

variable (words : List String) (files : FileSystem)

/-- A run that **does not reach rendering**: it ends in the same way, and with the same files as
before, however documents are rendered. -/
def RendersNothing : Prop :=
  ∃ ending, ∀ render : Config → Document → StateM FileSystem RunReport,
    (runBy FileSystem.host render words).run files = (ending, files)

/-- A run that **renders a document** under a configuration: its reports and its files are those of
this rendering, however documents are rendered. -/
def RendersDocument (config : Config) (document : Document) : Prop :=
  ∀ render : Config → Document → StateM FileSystem RunReport,
    (runBy FileSystem.host render words).run files =
      (.ofOutcome (Arguments.conclude ((render config document).run files).1),
        ((render config document).run files).2)

/-- **A run renders only under a valid configuration**, the one that its command line makes of what
it starts from. -/
theorem rendersNothing_or_exists_isValid :
    RendersNothing words files ∨
      ∃ arguments base document, Arguments.parse words = .ok arguments ∧
        arguments.StartsFrom FileSystem.host files base ∧ (arguments.apply base).IsValid ∧
          RendersDocument words files (arguments.apply base) document := by
  cases hparse : Arguments.parse words with
  | error error =>
      refine .inl ⟨.usage error, fun render => ?_⟩
      rw [runBy, hparse]
      rfl
  | ok arguments =>
      have hreads := FileSystem.readsOnly_host
      have hlogs := arguments.logs_host files
      by_cases hprepares : ∃ config document,
        arguments.Prepares FileSystem.host files config document
      · obtain ⟨config, document, hprepares⟩ := hprepares
        obtain ⟨base, hstarts, rfl⟩ := hprepares.exists_base
        have hvalid := Config.flaw?_eq_none_iff.1 hprepares.flaw?_eq
        refine .inr ⟨arguments, base, document, rfl, hstarts, hvalid, fun render => ?_⟩
        exact run_runBy_of_logs hreads hparse hlogs
          (Arguments.run_carryOut_of_prepares hreads hprepares)
      · obtain ⟨failure, hrun⟩ := Arguments.run_carryOut_of_not_prepares hreads hprepares
        exact .inl ⟨.failure failure, fun render => run_runBy_of_logs hreads hparse hlogs
          (hrun render)⟩

end Program

namespace Config

/-- **The layers of a configuration.** Settings are assigned, each at most once. A document that
assigns them in any order and says nothing else is read as what they make of the standard
configuration, if that is valid, and refused as invalid otherwise; a text that assigns another key
behind them cannot be read. Whatever a command line gives, each thing at most once and in any order,
overrides what the document in its configuration file assigns, or the standard configuration if it
names no file. Nothing is rendered unless the configuration that comes of this is valid. -/
theorem parse_and_apply_layered (assigned : List Setting)
    (hassigned : (assigned.map Setting.key).Nodup) :
    (∀ origin document : String, Setting.IsDocument assigned document.toList →
        ((layered [] assigned).IsValid →
          Config.parse origin document = .ok (layered [] assigned)) ∧
        (¬ (layered [] assigned).IsValid →
          ∃ flaw, Config.parse origin document = .error (.invalid flaw))) ∧
      (∀ origin document : String, Setting.AssignsOther assigned document.toList →
        ∃ error, Config.parse origin document = .error (.parse origin document error)) ∧
      (∀ words given path, Spells words given → (given.map Argument.option).Nodup →
        .input path ∈ given →
          ∃ arguments, Arguments.parse words = .ok arguments ∧ arguments.input = path ∧
            arguments.configFile = given.findSome? Argument.configFile? ∧
            arguments.apply (layered [] assigned) = layered given assigned ∧
            ∀ files base, arguments.StartsFrom FileSystem.host files base →
              (arguments.configFile = none → arguments.apply base = layered given []) ∧
              ∀ file content document, arguments.configFile = some file →
                files.read file = .ok content → Utf8.decode content = .ok document →
                  Setting.IsDocument assigned document.toList →
                    arguments.apply base = layered given assigned) ∧
      ∀ words files, Program.RendersNothing words files ∨
        ∃ arguments base document, Arguments.parse words = .ok arguments ∧
          arguments.StartsFrom FileSystem.host files base ∧ (arguments.apply base).IsValid ∧
            Program.RendersDocument words files (arguments.apply base) document := by
  refine ⟨fun origin document hdocument => ?_, fun origin document hother => ?_,
    fun words given path hspells hgiven hinput => ?_, Program.rendersNothing_or_exists_isValid⟩
  · exact parse_of_isDocument origin hdocument hassigned
  · exact parse_of_assignsOther origin hother hassigned
  · refine ⟨.of path given, Arguments.parse_of_spells hspells hgiven hinput, rfl, rfl,
      Arguments.apply_layered path given assigned, fun files base hstarts => ?_⟩
    obtain ⟨hstandard, hfile⟩ := hstarts.eq_layered
    refine ⟨fun hnone => ?_, fun file content document hsome hread htext hdocument => ?_⟩
    · rw [hstandard hnone, Arguments.apply_layered]
    · rw [hfile file content document assigned hsome hread htext hdocument hassigned,
        Arguments.apply_layered]

/-- A valid file for DOT text without a layout program, over which a picture is asked for. -/
theorem parse_and_apply_layered_blankProgram :
    Config.parse "here" "format = 'dot'\ndot_program = ' '\n" =
        .ok (layered [] [.format .dot, .dotProgram " "]) ∧
      (∃ error, Config.parse "here" "format = 'dot'\ndot_program = ' '\ncolour = 1" =
        .error (.parse "here" "format = 'dot'\ndot_program = ' '\ncolour = 1" error)) ∧
      (∃ arguments, Arguments.parse ["-f", "svg", "in.json"] = .ok arguments ∧
        arguments.apply (layered [] [.format .dot, .dotProgram " "]) =
          layered [.format .svg, .input "in.json"] [.format .dot, .dotProgram " "]) ∧
      ¬ (layered [.format .svg, .input "in.json"] [.format .dot, .dotProgram " "]).IsValid := by
  obtain ⟨hread, hother, happly, -⟩ :=
    parse_and_apply_layered [.format .dot, .dotProgram " "] (by decide)
  have hblank : Toml.IsBlanks [' '] := by simp [Toml.IsBlanks]
  have hnone : Toml.IsBlanks [] := List.forall_mem_nil _
  have hending : Setting.IsLineEnd [] := ⟨[], [], hnone, .none, rfl⟩
  have hformat : Toml.IsBody ⟨true, false⟩ ['d', 'o', 't'] ['d', 'o', 't', '\''] :=
    .plain (.inr (by decide)) (by decide) (.inr rfl) <| .plain (.inr (by decide)) (by decide)
      (.inr rfl) <| .plain (.inr (by decide)) (by decide) (.inr rfl) (.close rfl)
  have hprogram : Toml.IsBody ⟨true, false⟩ [' '] [' ', '\''] :=
    .plain (.inr (by decide)) (by decide) (.inr rfl) (.close rfl)
  have hdot : Toml.IsString OutputFormat.dot.name "'dot'".toList := .short hformat
  have hspace : Toml.IsString " " "' '".toList := .short hprogram
  have hformatKey : Toml.IsKey (Setting.format .dot).key "format".toList :=
    Toml.isKey_toList (by decide) (by decide)
  have hfirst : Setting.IsLine (some (.format .dot)) "format = 'dot'".toList :=
    .assignment hformatKey hblank hblank (.format hdot)
  have hprogramKey : Toml.IsKey (Setting.dotProgram " ").key "dot_program".toList :=
    Toml.isKey_toList (by decide) (by decide)
  have hsecond : Setting.IsLine (some (.dotProgram " ")) "dot_program = ' '".toList :=
    .assignment hprogramKey hblank hblank (.dotProgram hspace)
  have hlines : Setting.AreLines [.format .dot, .dotProgram " "]
      "format = 'dot'\ndot_program = ' '\n".toList :=
    .next hnone hfirst hending .plain (.next hnone hsecond hending .plain .nil)
  have hdocument : Setting.IsDocument [.format .dot, .dotProgram " "]
      "format = 'dot'\ndot_program = ' '\n".toList :=
    .intro (.inl rfl) hlines hnone .blank hending
  have hcolour : Toml.IsKey "colour" "colour".toList :=
    Toml.isKey_toList (by decide) (by decide)
  have hassigns : Setting.AssignsOther [.format .dot, .dotProgram " "]
      "format = 'dot'\ndot_program = ' '\ncolour = 1".toList :=
    .intro (.inl rfl) hlines hnone hcolour
      (fun setting => by cases setting <;> simp [Setting.key]) hblank (.inl rfl)
  have hspells : Spells ["-f", "svg", "in.json"] [.format .svg, .input "in.json"] :=
    .cluster (.apart (by decide) rfl (.format .svg) (.inr (by decide)))
      (.input (by decide) (.inr (by decide)) .nil)
  obtain ⟨arguments, hparse, -, -, happly, -⟩ :=
    happly _ _ "in.json" hspells (by decide) (by decide)
  refine ⟨(hread "here" _ hdocument).1 ⟨le_rfl, .inl rfl⟩, hother "here" _ hassigns,
    ⟨arguments, hparse, happly⟩, ?_⟩
  rintro ⟨-, hformat | ⟨character, hmem, hcharacter⟩⟩
  · cases hformat
  · obtain rfl := List.mem_singleton.1 hmem
    revert hcharacter
    decide

end Config

end CallForest
