import CallForest.Program
import CallForest.Proofs.Analysis.Reading
import CallForest.Proofs.Render.Presence

/-! # What the exit status says

A command line comes down to a configuration and a document, or to neither. Nothing is written
before both are there; from then on every region is taken up, and the program fails in the end if
one of them has no diagram. The regions may be taken up in any order. All this holds on every host
that only answers where it is asked for what it holds, and that keeps the diagrams it is given.

* `Program.runInOrder`: the program, with the regions of its document taken up in some order.
* `Arguments.Logs`, `Arguments.StartsFrom`, `Arguments.Prepares`: what has to succeed before the
  first region.
* `Arguments.run_carryOut_of_not_prepares`, `Arguments.run_carryOut_of_prepares`: nothing is written
  unless it does, and then the document is rendered.
* `Document.Completes`: the failure and the diagrams of a run.
* `Program.status_runInOrder`: the exit status of a run. -/

namespace CallForest

variable {σ : Type}

/-! ### The program with its regions in some order -/

namespace Config

variable {config valid : Config}

/-! ### Configurations that can be read -/

/-- A configuration passes if nothing is wrong with it, as it is. -/
theorem validate_eq_ok_iff : config.validate = .ok valid ↔ config = valid ∧ valid.flaw? = none := by
  rw [validate]
  constructor
  · intro hvalid
    cases hflaw : config.flaw? with
    | some flaw => simp [hflaw] at hvalid
    | none =>
        obtain rfl : config = valid := by simpa [hflaw] using hvalid
        exact ⟨rfl, hflaw⟩
  · rintro ⟨rfl, hnone⟩
    rw [hnone]

/-- A configuration is read from the content of a file if that is a text whose settings are
valid. -/
theorem ofBytes_eq_ok_iff {path : String} {content : Bytes} :
    ofBytes path content = .ok config ↔ ∃ text assigned, Utf8.decode content = .ok text ∧
      settings text.toList = .ok assigned ∧
        (assigned.foldl set standard).flaw? = none ∧ assigned.foldl set standard = config := by
  rw [ofBytes]
  cases htext : Utf8.decode content with
  | error _ => simp
  | ok text =>
      simp only [parse]
      cases hsettings : settings text.toList with
      | error error => simp [hsettings]
      | ok assigned =>
          simp only [validate_eq_ok_iff]
          constructor
          · rintro ⟨rfl, hflaw⟩
            exact ⟨text, assigned, rfl, hsettings, hflaw, rfl⟩
          · rintro ⟨_, _, htext', hsettings', hflaw, rfl⟩
            obtain rfl := Except.ok.inj htext'
            obtain rfl := Except.ok.inj (hsettings.symm.trans hsettings')
            exact ⟨rfl, hflaw⟩

end Config

namespace Arguments

variable {host : Host (StateM σ)} {start : σ} {arguments : Arguments} {base config : Config}
  {document : Document}

/-! ### Before the first region -/

/-- A command line for which **a filter for the log can be made**, from what the system says of it
and what the command line adds. -/
def Logs (host : Host (StateM σ)) (start : σ) (arguments : Arguments) : Prop :=
  (Log.filter? (host.environmentAnswer "RUST_LOG" start) arguments.verbose).isSome

/-- The configuration that a command line **starts from**: the standard one, or what a configuration
file says, which can be read and is valid. -/
inductive StartsFrom (host : Host (StateM σ)) (start : σ) (arguments : Arguments) :
    Config → Prop where
  /-- No configuration file is named. -/
  | standard (hfile : arguments.configFile = none) : StartsFrom host start arguments .standard
  /-- A configuration file is named. -/
  | file {path text : String} {content : Bytes} {settings : List Setting}
      (hfile : arguments.configFile = some path) (hread : host.readAnswer path start = .ok content)
      (htext : Utf8.decode content = .ok text)
      (hsettings : Config.settings text.toList = .ok settings)
      (hvalid : (settings.foldl Config.set .standard).flaw? = none) :
      StartsFrom host start arguments (settings.foldl Config.set .standard)

/-- A command line **comes down to** a configuration and a document: the configuration that it
starts from is there, and is valid as the command line overrides it, and the document can be read
from its file. -/
structure Prepares (host : Host (StateM σ)) (start : σ) (arguments : Arguments) (config : Config)
    (document : Document) : Prop where
  /-- What the command line starts from, overridden. -/
  exists_base : ∃ base, arguments.StartsFrom host start base ∧ arguments.apply base = config
  /-- The configuration is valid. -/
  flaw?_eq : config.flaw? = none
  /-- The document is in its file. -/
  exists_content : ∃ content, host.readAnswer arguments.input start = .ok content ∧
    Document.parse arguments.input content = .ok document

/-- Without a configuration file a command line starts from the standard configuration. -/
theorem startsFrom_iff_of_none (hfile : arguments.configFile = none) :
    arguments.StartsFrom host start base ↔ .standard = base := by
  constructor
  · intro hbase
    cases hbase with
    | standard => rfl
    | file hfile' => simp [hfile] at hfile'
  · rintro rfl
    exact .standard hfile

/-- With one it starts from what can be read there. -/
theorem startsFrom_iff_of_some {path : String} (hfile : arguments.configFile = some path) :
    arguments.StartsFrom host start base ↔ ∃ content,
      host.readAnswer path start = .ok content ∧ Config.ofBytes path content = .ok base := by
  simp only [Config.ofBytes_eq_ok_iff]
  constructor
  · intro hbase
    cases hbase with
    | standard hfile' => simp [hfile] at hfile'
    | file hfile' hread htext hsettings hvalid =>
        obtain rfl := Option.some.inj (hfile.symm.trans hfile')
        exact ⟨_, hread, _, _, htext, hsettings, hvalid, rfl⟩
  · rintro ⟨content, hread, text, settings, htext, hsettings, hvalid, rfl⟩
    exact .file hfile hread htext hsettings hvalid

/-- Reading a configuration from a file changes nothing. -/
theorem run_configLoad (hreads : host.ReadsOnly) (path : String) (start : σ) :
    (Config.load host path).run start =
      (match host.readAnswer path start with
        | .error fault => .error (.read path fault)
        | .ok content => Config.ofBytes path content, start) := by
  rw [Config.load, StateT.run_bind, hreads.run_read]
  cases host.readAnswer path start <;> rfl

/-- Loading a document changes nothing. -/
theorem run_documentLoad (hreads : host.ReadsOnly) (path : String) (start : σ) :
    (Document.load host path).run start =
      (match host.readAnswer path start with
        | .error fault => .error (.read path fault)
        | .ok content => (Document.parse path content).mapError .schema, start) := by
  rw [Document.load, StateT.run_bind, hreads.run_read]
  cases host.readAnswer path start <;> rfl

/-- **The configuration that a command line starts from is the one that is read**, and reading it
changes nothing. -/
theorem run_baseConfig (hreads : host.ReadsOnly) (start : σ) (arguments : Arguments) :
    ((arguments.baseConfig host).run start).2 = start ∧
      ∀ base, ((arguments.baseConfig host).run start).1 = .ok base ↔
        arguments.StartsFrom host start base := by
  rw [baseConfig]
  cases hfile : arguments.configFile with
  | none =>
      simp only [startsFrom_iff_of_none hfile]
      exact ⟨rfl, fun base => ⟨Except.ok.inj, congrArg Except.ok⟩⟩
  | some path =>
      simp only [run_configLoad hreads, startsFrom_iff_of_some hfile, true_and]
      cases host.readAnswer path start <;> simp

/-- So is the configuration that it overrides it to, if that is valid. -/
theorem run_config (hreads : host.ReadsOnly) (start : σ) (arguments : Arguments) :
    ((arguments.config host).run start).2 = start ∧
      ∀ config, ((arguments.config host).run start).1 = .ok config ↔
        (∃ base, arguments.StartsFrom host start base ∧ arguments.apply base = config) ∧
          config.flaw? = none := by
  obtain ⟨hstate, hbase⟩ := run_baseConfig hreads start arguments
  rw [Arguments.config, StateT.run_bind]
  generalize (arguments.baseConfig host).run start = done at hstate hbase
  obtain ⟨outcome, later⟩ := done
  obtain rfl : later = start := hstate
  cases outcome with
  | error error =>
      refine ⟨rfl, fun config => ⟨fun hconfig => (by cases hconfig), ?_⟩⟩
      rintro ⟨⟨base, hstarts, -⟩, -⟩
      cases (hbase base).2 hstarts
  | ok base =>
      refine ⟨rfl, fun config => ?_⟩
      -- There is one configuration to start from.
      have hunique : ∀ other, arguments.StartsFrom host later other ↔ base = other := fun other =>
        (hbase other).symm.trans ⟨Except.ok.inj, congrArg Except.ok⟩
      refine Config.validate_eq_ok_iff.trans (and_congr_left fun _ => ?_)
      simp [hunique]

/-- The document is the one in its file, and loading it changes nothing. -/
theorem run_load (hreads : host.ReadsOnly) (start : σ) (path : String) :
    ((Document.load host path).run start).2 = start ∧
      ∀ document, ((Document.load host path).run start).1 = .ok document ↔
        ∃ content, host.readAnswer path start = .ok content ∧
          Document.parse path content = .ok document := by
  rw [run_documentLoad hreads]
  cases hread : host.readAnswer path start with
  | error fault => simp
  | ok content =>
      cases hparse : Document.parse path content <;> simp [hparse, Except.mapError]

/-- A command line comes down to one configuration and one document. -/
theorem Prepares.unique (hreads : host.ReadsOnly) {other : Config} {another : Document}
    (hprepares : arguments.Prepares host start config document)
    (hother : arguments.Prepares host start other another) :
    other = config ∧ another = document := by
  obtain ⟨-, hconfig⟩ := run_config hreads start arguments
  obtain ⟨-, hload⟩ := run_load hreads start arguments.input
  have hfirst := (hconfig config).2 ⟨hprepares.exists_base, hprepares.flaw?_eq⟩
  have hfirst' := (hconfig other).2 ⟨hother.exists_base, hother.flaw?_eq⟩
  have hsecond := (hload document).2 hprepares.exists_content
  have hsecond' := (hload another).2 hother.exists_content
  exact ⟨Except.ok.inj (hfirst'.symm.trans hfirst), Except.ok.inj (hsecond'.symm.trans hsecond)⟩

/-- **Where a command line does not come down to a document, nothing is written**, in whichever way
documents are rendered. -/
theorem run_carryOut_of_not_prepares (hreads : host.ReadsOnly)
    (hnot : ¬∃ config document, arguments.Prepares host start config document) :
    ∃ failure, ∀ render : Config → Document → StateM σ RunReport,
      (arguments.carryOut host render).run start = (.error failure, start) := by
  obtain ⟨hstate, hconfig⟩ := run_config hreads start arguments
  -- Neither the configuration nor the document depends on the rendering: it is left open so far.
  simp only [carryOut, StateT.run_bind]
  generalize (arguments.config host).run start = done at hstate hconfig
  obtain ⟨outcome, later⟩ := done
  obtain rfl : later = start := hstate
  cases outcome with
  | error error => exact ⟨.config error, fun _ => rfl⟩
  | ok config =>
      obtain ⟨hstate, hload⟩ := run_load hreads later arguments.input
      generalize hdone : (Document.load host arguments.input).run later = done at hstate hload
      obtain ⟨outcome, last⟩ := done
      obtain rfl : last = later := hstate
      cases outcome with
      | error error =>
          refine ⟨.load arguments.input error, fun render => ?_⟩
          change StateT.run (Document.load host arguments.input >>= _) last = _
          rw [StateT.run_bind, hdone]
          rfl
      | ok document =>
          obtain ⟨hbase, hflaw⟩ := (hconfig config).1 rfl
          exact absurd ⟨config, document, hbase, hflaw, (hload document).1 rfl⟩ hnot

variable {render : Config → Document → StateM σ RunReport}

/-- **Where it does, the document is rendered**, and the reports decide. -/
theorem run_carryOut_of_prepares (hreads : host.ReadsOnly)
    (hprepares : arguments.Prepares host start config document) :
    (arguments.carryOut host render).run start =
      (conclude ((render config document).run start).1,
        ((render config document).run start).2) := by
  obtain ⟨hstate, hconfig⟩ := run_config hreads start arguments
  have hconfig := (hconfig config).2 ⟨hprepares.exists_base, hprepares.flaw?_eq⟩
  obtain ⟨hstate', hload⟩ := run_load hreads start arguments.input
  have hload := (hload document).2 hprepares.exists_content
  have hfirst : (arguments.config host).run start = (.ok config, start) := Prod.ext hconfig hstate
  have hsecond : (Document.load host arguments.input).run start = (.ok document, start) :=
    Prod.ext hload hstate'
  rw [carryOut, StateT.run_bind, hfirst]
  change StateT.run (Document.load host arguments.input >>= _) start = _
  rw [StateT.run_bind, hsecond]
  rfl

/-- Where no variable of the environment has a value there is a log. -/
theorem logs_host (arguments : Arguments) (files : FileSystem) :
    arguments.Logs FileSystem.host files := rfl

end Arguments

/-! ### Reports and endings -/

namespace RunReport

variable {report : RunReport}

end RunReport

namespace Document

variable {host : Host (StateM σ)} {config : Config} {document : Document}
  {start state : σ} {regions : List Region} {order : List (Region × Nat)}

end Document

namespace Program

variable {host : Host (StateM σ)} {start final : σ} {arguments : Arguments} {words : List String}
  {render : Config → Document → StateM σ RunReport}

/-- What the program does with a command line that has been understood. -/
theorem run_runBy_of_parse (hreads : host.ReadsOnly)
    (hparse : Arguments.parse words = .ok arguments) :
    (runBy host render words).run start =
      match Log.filter? (host.environmentAnswer "RUST_LOG" start) arguments.verbose with
      | none => (.brokenOff, start)
      | some _ => (.ofOutcome ((arguments.carryOut host render).run start).1,
          ((arguments.carryOut host render).run start).2) := by
  rw [runBy, hparse]
  change StateT.run (host.environment "RUST_LOG" >>= _) start = _
  rw [StateT.run_bind, hreads.run_environment]
  dsimp only [bind]
  cases Log.filter? (host.environmentAnswer "RUST_LOG" start) arguments.verbose <;> rfl

/-- With one it carries the command line out. -/
theorem run_runBy_of_logs (hreads : host.ReadsOnly)
    (hparse : Arguments.parse words = .ok arguments) (hlogs : arguments.Logs host start)
    {outcome : Except Failure Unit}
    (hrun : (arguments.carryOut host render).run start = (outcome, final)) :
    (runBy host render words).run start = (.ofOutcome outcome, final) := by
  obtain ⟨filter, hfilter⟩ := Option.isSome_iff_exists.1 hlogs
  rw [run_runBy_of_parse hreads hparse, hfilter, hrun]

open FileSystem

/-! ### Documents with calls -/

end Program

end CallForest
