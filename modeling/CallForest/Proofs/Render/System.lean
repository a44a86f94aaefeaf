import CallForest.Render.Run
import Mathlib.Logic.Function.Basic

/-! # Systems that answer by the path alone

A run asks the system for its output directory and to write diagrams there. What its reports and its
files have in common rests on a system that goes by paths: whether it does what it is asked for
depends on the path, not on what happened before, and a file holds what was written to it last.

* `FileView`: the files of a system, and which of them a path leads to.
* `Host.ReadsOnly`: a system that is left as it is where it is only asked for what it holds.
* `Host.Reaches`: the states that runs can lead to.
* `Host.Stores`: a system whose files hold what was written to them last.
* `Host.PathDetermined`: a system in which it depends on the path whether a request succeeds.
* `Host.Steady`: a system in which the whole answer depends on the path.
* `Host.Keeps`, `Host.PathDetermined.keeps`: a system in which diagrams stay where they are, however
  it is seen that they are there. -/

namespace CallForest

variable {σ φ : Type}

/-- How the **files of a system** are seen. -/
structure FileView (σ φ : Type) where
  /-- What a file holds, if it is there. -/
  content : σ → φ → Option Bytes
  /-- The file that a path leads to. -/
  file : String → φ

namespace Host

variable (host : Host (StateM σ)) (config : Config)

/-! ### Requests and states -/

/-- What a system answers when it is asked for the content of a file. -/
def readAnswer (path : String) (state : σ) : Except SystemFault Bytes :=
  ((host.read path).run state).1

/-- What a system answers when it is asked for a variable of its environment. -/
def environmentAnswer (name : String) (state : σ) : Option String :=
  ((host.environment name).run state).1

/-- A system that is **left as it is where it is only asked for what it holds**. -/
structure ReadsOnly : Prop where
  /-- Reading a file changes nothing. -/
  run_read (path : String) (state : σ) :
    (host.read path).run state = (host.readAnswer path state, state)
  /-- Looking a variable of the environment up changes nothing. -/
  run_environment (name : String) (state : σ) :
    (host.environment name).run state = (host.environmentAnswer name state, state)

/-- What a system answers when it is asked for the output directory. -/
def directoryAnswer (state : σ) : Except SystemFault Unit :=
  ((host.makeDirectories config.outputDir).run state).1

/-- A system that has been asked for the output directory. -/
def withDirectory (state : σ) : σ := ((host.makeDirectories config.outputDir).run state).2

/-- What a system answers when it is asked for the output directory and then to write a text. -/
def writeAnswer (path text : String) (state : σ) : Except SystemFault Unit :=
  ((host.write path text).run (host.withDirectory config state)).1

/-- A system that has been asked for the output directory and then to write a text. -/
def withText (path text : String) (state : σ) : σ :=
  ((host.write path text).run (host.withDirectory config state)).2

/-- The **states that runs can lead to**: diagrams are written where the output directory has been
made. -/
inductive Reaches (start : σ) : σ → Prop where
  /-- Nothing has been asked for. -/
  | start : Reaches start start
  /-- The output directory has been asked for. -/
  | directory {state : σ} (hstate : Reaches start state) :
      Reaches start (host.withDirectory config state)
  /-- A diagram has been written. -/
  | text {state : σ} (hstate : Reaches start state)
      (hmade : host.directoryAnswer config state = .ok ()) (region text : String) :
      Reaches start (host.withText config (config.diagramPath region) text state)

/-! ### What depends on the path -/

/-- A system whose files **hold what was written to them last**. Making the output directory
concerns no file, and writing a diagram no other one. -/
structure Stores (view : FileView σ φ) (start : σ) : Prop where
  /-- Making the output directory leaves every file as it is. -/
  content_withDirectory {state : σ} : host.Reaches config start state →
    view.content (host.withDirectory config state) = view.content state
  /-- What has been written is in the file of its path. -/
  content_withText {state : σ} (region text : String) : host.Reaches config start state →
    host.directoryAnswer config state = .ok () →
      host.writeAnswer config (config.diagramPath region) text state = .ok () →
        view.content (host.withText config (config.diagramPath region) text state)
          (view.file (config.diagramPath region)) = some (Bytes.ofText text)
  /-- Other files stay as they are, also where writing fails. -/
  content_withText_of_ne {state : σ} {file : φ} (region text : String) :
    host.Reaches config start state → host.directoryAnswer config state = .ok () →
      file ≠ view.file (config.diagramPath region) →
        view.content (host.withText config (config.diagramPath region) text state) file =
          view.content state file
  /-- The paths of diagrams lead to different files. -/
  file_inj {region other : String} :
    view.file (config.diagramPath region) = view.file (config.diagramPath other) →
      config.diagramPath region = config.diagramPath other

/-- A system in which it **depends on the path whether a request succeeds**. The output directory
can be made or not, as `made` says; the file of a path can be written or not, as `written` says. -/
structure PathDetermined (view : FileView σ φ) (start : σ) (made : Bool)
    (written : String → Bool) : Prop extends host.Stores config view start where
  /-- Whether the output directory can be made does not change. -/
  isOk_directoryAnswer {state : σ} : host.Reaches config start state →
    (host.directoryAnswer config state).isOk = made
  /-- Whether a diagram can be written depends on its path. -/
  isOk_writeAnswer {state : σ} (region text : String) : host.Reaches config start state →
    host.directoryAnswer config state = .ok () →
      (host.writeAnswer config (config.diagramPath region) text state).isOk =
        written (config.diagramPath region)

namespace PathDetermined

variable {host config} {view : FileView σ φ} {start state : σ} {made : Bool}
  {written : String → Bool} {fault : SystemFault} {region text : String}

/-- An output directory that is granted can be made. -/
theorem made_of_ok (hhost : host.PathDetermined config view start made written)
    (hstate : host.Reaches config start state)
    (hanswer : host.directoryAnswer config state = .ok ()) : made = true := by
  rw [← hhost.isOk_directoryAnswer hstate, hanswer]
  rfl

/-- An output directory that is refused cannot be made. -/
theorem made_of_error (hhost : host.PathDetermined config view start made written)
    (hstate : host.Reaches config start state)
    (hanswer : host.directoryAnswer config state = .error fault) : made = false := by
  rw [← hhost.isOk_directoryAnswer hstate, hanswer]
  rfl

/-- A file that is granted can be written. -/
theorem written_of_ok (hhost : host.PathDetermined config view start made written)
    (hstate : host.Reaches config start state)
    (hgranted : host.directoryAnswer config state = .ok ())
    (hanswer : host.writeAnswer config (config.diagramPath region) text state = .ok ()) :
    written (config.diagramPath region) = true := by
  rw [← hhost.isOk_writeAnswer region text hstate hgranted, hanswer]
  rfl

/-- A file that is refused cannot be written. -/
theorem written_of_error (hhost : host.PathDetermined config view start made written)
    (hstate : host.Reaches config start state)
    (hgranted : host.directoryAnswer config state = .ok ())
    (hanswer : host.writeAnswer config (config.diagramPath region) text state = .error fault) :
    written (config.diagramPath region) = false := by
  rw [← hhost.isOk_writeAnswer region text hstate hgranted, hanswer]
  rfl

/-- A file that can be written is left as it is wherever writing is refused: that concerns another
file. -/
theorem content_withText_of_refused (hhost : host.PathDetermined config view start made written)
    {owner : String} (hwritten : written (config.diagramPath owner) = true)
    (hstate : host.Reaches config start state)
    (hgranted : host.directoryAnswer config state = .ok ())
    (hrefused : (host.writeAnswer config (config.diagramPath region) text state).isOk = false) :
    view.content (host.withText config (config.diagramPath region) text state)
        (view.file (config.diagramPath owner)) =
      view.content state (view.file (config.diagramPath owner)) := by
  refine hhost.content_withText_of_ne region text hstate hgranted fun hsame => ?_
  rw [hhost.isOk_writeAnswer region text hstate hgranted, ← hhost.file_inj hsame, hwritten]
    at hrefused
  cases hrefused

end PathDetermined

/-- A system in which the **whole answer depends on the path**, and in which nothing is lost where
writing fails. -/
structure Steady (view : FileView σ φ) (start : σ) (directory : Except SystemFault Unit)
    (answer : String → Except SystemFault Unit) : Prop extends host.Stores config view start where
  /-- The answer about the output directory does not change. -/
  directoryAnswer_eq {state : σ} : host.Reaches config start state →
    host.directoryAnswer config state = directory
  /-- The answer about a diagram depends on its path. -/
  writeAnswer_eq {state : σ} (region text : String) : host.Reaches config start state →
    host.directoryAnswer config state = .ok () →
      host.writeAnswer config (config.diagramPath region) text state =
        answer (config.diagramPath region)
  /-- Where writing fails every file stays as it is. -/
  content_withText_of_error {state : σ} {fault : SystemFault} (region text : String) :
    host.Reaches config start state → host.directoryAnswer config state = .ok () →
      host.writeAnswer config (config.diagramPath region) text state = .error fault →
        view.content (host.withText config (config.diagramPath region) text state) =
          view.content state

/-- Where the whole answer depends on the path, success does. -/
theorem Steady.pathDetermined {host : Host (StateM σ)} {config : Config} {view : FileView σ φ}
    {start : σ} {directory : Except SystemFault Unit} {answer : String → Except SystemFault Unit}
    (hhost : host.Steady config view start directory answer) :
    host.PathDetermined config view start directory.isOk fun path => (answer path).isOk where
  toStores := hhost.toStores
  isOk_directoryAnswer hstate := by rw [hhost.directoryAnswer_eq hstate]
  isOk_writeAnswer region text hstate hmade := by rw [hhost.writeAnswer_eq region text hstate hmade]

/-! ### Diagrams that stay -/

/-- A system that **keeps the diagrams** that it has been given. Of a state, a path and a text
`holds` says whether the text is there under the path; what is there under the path of a diagram
stays until another text is written there. -/
structure Keeps (holds : σ → String → Bytes → Prop) (start : σ) : Prop where
  /-- Making the output directory leaves diagrams where they are. -/
  holds_withDirectory {state : σ} {content : Bytes} (region : String) :
    host.Reaches config start state → holds state (config.diagramPath region) content →
      holds (host.withDirectory config state) (config.diagramPath region) content
  /-- What has been written is there. -/
  holds_withText {state : σ} (region text : String) : host.Reaches config start state →
    host.directoryAnswer config state = .ok () →
      host.writeAnswer config (config.diagramPath region) text state = .ok () →
        holds (host.withText config (config.diagramPath region) text state)
          (config.diagramPath region) (Bytes.ofText text)
  /-- What is there under a path stays, unless writing succeeds, and at this path. -/
  holds_withText_of_holds {state : σ} {content : Bytes} (region other text : String) :
    host.Reaches config start state → host.directoryAnswer config state = .ok () →
      (host.writeAnswer config (config.diagramPath other) text state = .ok () →
        config.diagramPath other ≠ config.diagramPath region) →
        holds state (config.diagramPath region) content →
          holds (host.withText config (config.diagramPath other) text state)
            (config.diagramPath region) content

/-- **Where it depends on the path whether a request succeeds, diagrams stay** in the files that can
be written. -/
theorem PathDetermined.keeps {host : Host (StateM σ)} {config : Config} {view : FileView σ φ}
    {start : σ} {made : Bool} {written : String → Bool}
    (hhost : host.PathDetermined config view start made written) :
    host.Keeps config (fun state path content => written path = true ∧
      view.content state (view.file path) = some content) start where
  holds_withDirectory region hstate hholds := by rwa [hhost.content_withDirectory hstate]
  holds_withText region text hstate hmade hanswer :=
    ⟨hhost.written_of_ok hstate hmade hanswer,
      hhost.content_withText region text hstate hmade hanswer⟩
  holds_withText_of_holds {state _} region other text hstate hmade hother hholds := by
    refine ⟨hholds.1, ?_⟩
    cases hanswer : host.writeAnswer config (config.diagramPath other) text state with
    | ok _ =>
        rw [hhost.content_withText_of_ne other text hstate hmade
          fun hsame => hother hanswer (hhost.file_inj hsame.symm)]
        exact hholds.2
    -- A write that is refused is not to this file, which can be written.
    | error fault =>
        rw [hhost.content_withText_of_refused hholds.1 hstate hmade (by rw [hanswer]; rfl)]
        exact hholds.2

end Host

end CallForest
