import Irrigation.Invocation
import Irrigation.Proofs.Bus.Call

/-!
# Courses of invocations

An invocation is tried on a system with one line, which lies behind every device that can be
opened.

* `SerialLine.host`, `Trial`: the system, and an invocation on it. `Trial.ending` and `Trial.after`
  are its end and the line behind it.
* `Trial.Reads`, `Trial.Loads`, `Trial.Chooses`: how far a trial gets, with what it has found out.
* `Cause`: why a trial ends.
* `Course`: the seven ways in which a trial goes. `Course.finished_eq`: it goes so;
  `Trial.exists_course`: there is no other way.
-/

namespace Irrigation

/-- A system with one line. A device cannot be opened where there is a reason for that, by its name
and the time to wait. -/
def SerialLine.host (refusal : String → Nat → Option String) : Host (StateM SerialLine) where
  openLine device timeoutMs :=
    return match refusal device timeoutMs with
      | some reason => .error reason
      | none => .ok SerialLine.client

/-- An invocation on a system with one line. -/
structure Trial where
  invocation : Invocation
  /-- Why a device cannot be opened, if it cannot. -/
  refusal : String → Nat → Option String
  line : SerialLine

/-- Why a trial ends. -/
inductive Cause
  /-- The words are not read to the end. -/
  | stopped (stop : ArgumentStop)
  /-- A completion script is wanted. -/
  | script (shell : Shell)
  /-- The settings cannot be used. -/
  | unusable (error : SettingsError)
  /-- The settings are wanted, and perhaps they cannot be shown. -/
  | shown (text : Except SettingsError String)
  /-- The options describe no operation. -/
  | invalid (error : ValidationError)
  /-- The device cannot be opened. -/
  | unopened (device reason : String)
  /-- The operation is carried out. -/
  | carriedOut (outcome : Outcome)

namespace Trial

variable (trial : Trial)

/-- The end of a trial, and the line behind it. -/
def finished : Ending × SerialLine :=
  (trial.invocation.run (SerialLine.host trial.refusal)).run trial.line

/-- The end of a trial. -/
def ending : Ending := trial.finished.1

/-- The line behind a trial. -/
def after : SerialLine := trial.finished.2

/-! ## How far a trial gets -/

/-- The words are read, and want no completion script. -/
structure Reads (arguments : Arguments) : Prop where
  read : Arguments.parse trial.invocation.words = .ok arguments
  noScript : arguments.completions = none

/-- The settings are loaded as well. -/
structure Loads (arguments : Arguments) (settings : Settings) : Prop extends
    trial.Reads arguments where
  loaded : trial.invocation.load = .ok settings

/-- An operation is to be carried out. -/
structure Chooses (arguments : Arguments) (settings : Settings) (operation : Operation) : Prop
    extends trial.Loads arguments settings where
  notShown : arguments.showConfig = false
  validated : (arguments.options settings).validate = .ok operation

end Trial

/-! ## What a trial notes on its way -/

namespace Journal

variable (journal : Journal)

/-- The notes before the settings are loaded. -/
def notesReading : String := journal.note .detailed

/-- The notes up to the settings. -/
def notesLoading (settings : Settings) : String :=
  journal.notesReading ++ journal.note (.loaded settings)

/-- The notes up to the opening of the device. -/
def notesOpening (settings : Settings) (device : String) : String :=
  journal.notesLoading settings ++ journal.note (.opens device settings.timeoutMs)

/-- The notes up to the operation. -/
def notesOpened (settings : Settings) (device : String) : String :=
  journal.notesOpening settings device ++ journal.note (.opened device)

end Journal

/-! ## The seven courses -/

/-- How a trial goes: why it ends, its end, and the line behind it. -/
inductive Course (trial : Trial) : Cause → Ending → SerialLine → Prop
  | stopped {stop : ArgumentStop} :
    Arguments.parse trial.invocation.words = .error stop →
    Course trial (.stopped stop) (stop.ending trial.invocation.colourOfArguments) trial.line
  | script {arguments : Arguments} {shell : Shell} :
    Arguments.parse trial.invocation.words = .ok arguments →
    arguments.completions = some shell →
    Course trial (.script shell) (shell.ending (trial.invocation.completionScript shell)) trial.line
  | unusable {arguments : Arguments} {error : SettingsError} :
    trial.Reads arguments →
    trial.invocation.load = .error error →
    Course trial (.unusable error)
      ((error.ending trial.invocation.colour .settings).behind
        (trial.invocation.journal arguments).notesReading)
      trial.line
  | shown {arguments : Arguments} {settings : Settings} :
    trial.Loads arguments settings →
    arguments.showConfig = true →
    Course trial (.shown settings.toToml)
      ((trial.invocation.showSettings settings).behind
        ((trial.invocation.journal arguments).notesLoading settings))
      trial.line
  | invalid {arguments : Arguments} {settings : Settings} {error : ValidationError} :
    trial.Loads arguments settings →
    arguments.showConfig = false →
    (arguments.options settings).validate = .error error →
    Course trial (.invalid error)
      ((error.ending trial.invocation.colour).behind
        ((trial.invocation.journal arguments).notesLoading settings))
      trial.line
  | unopened {arguments : Arguments} {settings : Settings} {operation : Operation}
      {reason : String} :
    trial.Chooses arguments settings operation →
    trial.refusal (arguments.options settings).device settings.timeoutMs = some reason →
    Course trial (.unopened (arguments.options settings).device reason)
      (((DeviceError.cannotOpen (arguments.options settings).device reason).ending
        trial.invocation.colour).behind
          ((trial.invocation.journal arguments).notesOpening settings
            (arguments.options settings).device))
      trial.line
  | carriedOut {arguments : Arguments} {settings : Settings} {operation : Operation} :
    trial.Chooses arguments settings operation →
    trial.refusal (arguments.options settings).device settings.timeoutMs = none →
    Course trial (.carriedOut (operation.overLine trial.line).1)
      (((operation.overLine trial.line).1.ending (trial.invocation.journal arguments)
        trial.invocation.colour (arguments.options settings).verbose operation).behind
          ((trial.invocation.journal arguments).notesOpened settings
            (arguments.options settings).device))
      (operation.overLine trial.line).2

variable {trial : Trial}

/-! ## Every trial has one of them -/

namespace Trial

variable {arguments : Arguments} {settings : Settings} {operation : Operation} {ending : Ending}

theorem Reads.readArguments_eq (h : trial.Reads arguments) :
    trial.invocation.readArguments = .ok arguments := by
  simp only [Invocation.readArguments, h.read, h.noScript]

theorem Loads.loadSettings_eq (h : trial.Loads arguments settings) :
    trial.invocation.loadSettings = .ok settings := by
  rw [Invocation.loadSettings, h.loaded]
  rfl

theorem Chooses.chooseOperation_eq (h : trial.Chooses arguments settings operation) :
    trial.invocation.chooseOperation arguments settings = .ok operation := by
  rw [Invocation.chooseOperation, h.notShown, h.validated]
  rfl

/-- A plan that comes to nothing is the end of the trial. -/
theorem finished_of_plan_error (h : trial.invocation.plan = .error ending) :
    trial.finished = (ending, trial.line) := by
  rw [finished, Invocation.run, h]
  rfl

/-- What ends the choice of the operation ends the plan, behind the notes. -/
theorem Loads.plan_eq_error (h : trial.Loads arguments settings)
    (hchoose : trial.invocation.chooseOperation arguments settings = .error ending) :
    trial.invocation.plan =
      .error (ending.behind ((trial.invocation.journal arguments).notesLoading settings)) := by
  simp only [Invocation.plan, h.readArguments_eq, h.loadSettings_eq, hchoose, ok_bind, error_bind,
    mapError_ok, mapError_error]
  rfl

/-- Once an operation is chosen, the rest is left to the system. -/
theorem Chooses.finished_eq (h : trial.Chooses arguments settings operation) :
    trial.finished =
      ((Plan.mk operation (arguments.options settings).device settings.timeoutMs
        (arguments.options settings).verbose (trial.invocation.journal arguments)
        trial.invocation.colour ((trial.invocation.journal arguments).notesLoading settings)).run
          (SerialLine.host trial.refusal)).run trial.line := by
  simp only [finished, Invocation.run, Invocation.plan, h.readArguments_eq, h.loadSettings_eq,
    h.chooseOperation_eq, ok_bind, mapError_ok]
  rfl

end Trial

/-- A trial that has a course goes so. -/
theorem Course.finished_eq {cause : Cause} {ending : Ending} {after : SerialLine}
    (h : Course trial cause ending after) : trial.finished = (ending, after) := by
  cases h with
  | stopped hread =>
    apply Trial.finished_of_plan_error
    simp only [Invocation.plan, Invocation.readArguments, hread]
    rfl
  | script hread hscript =>
    apply Trial.finished_of_plan_error
    simp only [Invocation.plan, Invocation.readArguments, hread, hscript]
    rfl
  | unusable h hload =>
    apply Trial.finished_of_plan_error
    simp only [Invocation.plan, h.readArguments_eq, Invocation.loadSettings, hload]
    rfl
  | shown h hshow =>
    apply Trial.finished_of_plan_error
    apply h.plan_eq_error
    rw [Invocation.chooseOperation, if_pos hshow]
  | invalid h hshow herror =>
    apply Trial.finished_of_plan_error
    apply h.plan_eq_error
    rw [Invocation.chooseOperation, hshow, herror]
    rfl
  | unopened h hrefusal =>
    rw [h.finished_eq, Plan.run]
    simp only [SerialLine.host, hrefusal]
    rfl
  | carriedOut h hrefusal =>
    rw [h.finished_eq, Plan.run]
    simp only [SerialLine.host, hrefusal]
    rfl

/-- Every trial has a course. -/
theorem Trial.exists_course (trial : Trial) :
    ∃ cause, Course trial cause trial.ending trial.after := by
  suffices ∃ cause ending after, Course trial cause ending after by
    obtain ⟨cause, ending, after, h⟩ := this
    have hfinished := h.finished_eq
    rw [Trial.ending, Trial.after, hfinished]
    exact ⟨cause, h⟩
  cases hread : Arguments.parse trial.invocation.words with
  | error stop => exact ⟨_, _, _, .stopped hread⟩
  | ok arguments =>
    cases hscript : arguments.completions with
    | some shell => exact ⟨_, _, _, .script hread hscript⟩
    | none =>
      have hreads : trial.Reads arguments := ⟨hread, hscript⟩
      cases hload : trial.invocation.load with
      | error error => exact ⟨_, _, _, .unusable hreads hload⟩
      | ok settings =>
        have hloads : trial.Loads arguments settings := ⟨hreads, hload⟩
        cases hshow : arguments.showConfig with
        | true => exact ⟨_, _, _, .shown hloads hshow⟩
        | false =>
          cases hvalid : (arguments.options settings).validate with
          | error error => exact ⟨_, _, _, .invalid hloads hshow hvalid⟩
          | ok operation =>
            have hchooses : trial.Chooses arguments settings operation := ⟨hloads, hshow, hvalid⟩
            cases hrefusal : trial.refusal (arguments.options settings).device
                settings.timeoutMs with
            | some reason => exact ⟨_, _, _, .unopened hchooses hrefusal⟩
            | none => exact ⟨_, _, _, .carriedOut hchooses hrefusal⟩

end Irrigation
