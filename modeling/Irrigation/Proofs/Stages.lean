import Irrigation.Proofs.Course
import Irrigation.Proofs.Run

/-!
# The order of the stages

An invocation ends at the first stage that has a cause to end it, whatever causes later stages have.

* `Trial.causeAt`: the cause that a stage has, whether or not an earlier one has a cause too.
* `Cause.Makes`: the end that a cause makes: its stage, its exit status and its message.
  `Course.makes`: a course ends so.
* `Trial.AgreeUpTo`: two trials have the same inputs up to a stage. `Course.carry`: inputs of later
  stages do not change a course.
* `first_stage_decides`: the first cause makes the end, what comes later does not show in it, and
  only the last stage touches the line.
-/

namespace Irrigation

/-! ## Stages and causes -/

namespace Stage

/-- Every stage in order. -/
def all : List Stage :=
  [arguments, completions, settings, showConfig, validation, opening, operation]

/-- How many stages come before a stage. -/
def rank (stage : Stage) : Nat := all.idxOf stage

/-- The exit statuses of a stage. -/
def statuses : Stage → List ExitStatus
  | arguments => [0, 64]
  | completions => [0]
  | settings => [78]
  | showConfig => [0, 78]
  | validation => [64]
  | opening => [66]
  | operation => [0, 1, 69, 74, 76]

end Stage

namespace Cause

/-- The stage that a cause belongs to. -/
def stage : Cause → Stage
  | stopped _ => .arguments
  | script _ => .completions
  | unusable _ => .settings
  | shown _ => .showConfig
  | invalid _ => .validation
  | unopened .. => .opening
  | carriedOut _ => .operation

/-- The exit status for a cause. -/
def status : Cause → ExitStatus
  | stopped .help | stopped .version => 0
  | stopped (.refused _) => 64
  | script _ => 0
  | unusable _ => 78
  | shown (.ok _) => 0
  | shown (.error _) => 78
  | invalid _ => 64
  | unopened .. => 66
  | carriedOut outcome => outcome.status

/-- The line for an error that ends an invocation. -/
def errorLine (invocation : Invocation) (message : String) : String :=
  Style.boldRed.paint invocation.colour "error" ++ ": " ++ message ++ "\n"

/-- What a cause says on standard error. -/
def message (invocation : Invocation) : Cause → String
  | stopped .help | stopped .version => ""
  | stopped (.refused error) => error.text invocation.colourOfArguments
  | script shell => "Generating completion file for " ++ shell.title ++ "...\n"
  | unusable error => errorLine invocation error.message
  | shown (.ok _) => ""
  | shown (.error error) => errorLine invocation error.message
  | invalid error => errorLine invocation error.message
  | unopened device reason => errorLine invocation (DeviceError.cannotOpen device reason).message
  | carriedOut (.succeeded _) => ""
  | carriedOut (.failed error) =>
    Style.red.paint invocation.colour "FAIL" ++ ": " ++ error.message ++ "\n"

/-- The usage text behind the message: the help for options that describe no operation. -/
def usage : Cause → String
  | invalid _ => helpText false ++ "\n"
  | _ => ""

/-- The end that a cause makes: its stage, its exit status, and its message on standard error with
the usage text behind it or not. -/
structure Makes (invocation : Invocation) (cause : Cause) (ending : Ending) : Prop where
  stage_eq : ending.stage = cause.stage
  status_eq : ending.status = cause.status
  stderr_eq : ending.printout.stderr = cause.message invocation ++ cause.usage

end Cause

namespace Trial

variable (trial : Trial)

/-- The arguments that the words give, if they give any. -/
def arguments? : Option Arguments := (Arguments.parse trial.invocation.words).toOption

/-- The settings that there are, if they can be used. -/
def settings? : Option Settings := trial.invocation.load.toOption

/-- The cause that a stage has to end the trial, whether or not an earlier stage has one too. The
device, which may be that of the settings, does not matter to the validation. -/
def causeAt : Stage → Option Cause
  | .arguments =>
    match Arguments.parse trial.invocation.words with
    | .error stop => some (.stopped stop)
    | .ok _ => none
  | .completions => do
    let arguments ← trial.arguments?
    return .script (← arguments.completions)
  | .settings =>
    match trial.invocation.load with
    | .error error => some (.unusable error)
    | .ok _ => none
  | .showConfig => do
    let arguments ← trial.arguments?
    let settings ← trial.settings?
    if arguments.showConfig then some (.shown settings.toToml) else none
  | .validation => do
    let arguments ← trial.arguments?
    match (arguments.options .default).validate with
    | .error error => some (.invalid error)
    | .ok _ => none
  | .opening => do
    let arguments ← trial.arguments?
    let settings ← trial.settings?
    let device := arguments.device.getD settings.device
    return .unopened device (← trial.refusal device settings.timeoutMs)
  | .operation => do
    let arguments ← trial.arguments?
    let operation ← (arguments.options .default).validate.toOption
    return .carriedOut (operation.overLine trial.line).1

end Trial

variable {trial other : Trial} {arguments : Arguments} {settings : Settings}
  {operation : Operation} {cause : Cause} {ending : Ending} {after : SerialLine}

/-! ## The first cause -/

namespace Trial

theorem arguments?_eq_some (h : Arguments.parse trial.invocation.words = .ok arguments) :
    trial.arguments? = some arguments := by
  rw [arguments?, h]
  rfl

theorem Loads.settings?_eq_some (h : trial.Loads arguments settings) :
    trial.settings? = some settings := by
  rw [settings?, h.loaded]
  rfl

/-- Words that are read and want no script give the first two stages no cause. -/
theorem Reads.causeAt_eq_none (h : trial.Reads arguments) :
    trial.causeAt .arguments = none ∧ trial.causeAt .completions = none := by
  simp [causeAt, h.read, arguments?_eq_some h.read, h.noScript]

theorem causeAt_settings {error : SettingsError} (h : trial.invocation.load = .error error) :
    trial.causeAt .settings = some (.unusable error) := by
  simp [causeAt, h]

/-- Settings that are loaded give their stage no cause. -/
theorem Loads.causeAt_eq_none (h : trial.Loads arguments settings) :
    trial.causeAt .settings = none := by
  simp [causeAt, h.loaded]

theorem Loads.causeAt_showConfig (h : trial.Loads arguments settings) :
    trial.causeAt .showConfig =
      if arguments.showConfig then some (.shown settings.toToml) else none := by
  simp [causeAt, arguments?_eq_some h.read, h.settings?_eq_some]

/-- Of the settings only the device goes into the options, and the validation leaves it alone. -/
theorem Loads.causeAt_validation (h : trial.Loads arguments settings) :
    trial.causeAt .validation =
      match (arguments.options settings).validate with
      | .error error => some (.invalid error)
      | .ok _ => none := by
  simp only [causeAt, arguments?_eq_some h.read]
  rfl

theorem Loads.causeAt_opening (h : trial.Loads arguments settings) :
    trial.causeAt .opening =
      (trial.refusal (arguments.options settings).device settings.timeoutMs).map
        (.unopened (arguments.options settings).device) := by
  simp only [causeAt, arguments?_eq_some h.read, h.settings?_eq_some]
  exact Option.map_eq_bind.symm

theorem Chooses.causeAt_operation (h : trial.Chooses arguments settings operation) :
    trial.causeAt .operation = some (.carriedOut (operation.overLine trial.line).1) := by
  have hvalid : (arguments.options .default).validate = .ok operation := h.validated
  simp [causeAt, arguments?_eq_some h.read, hvalid, Except.toOption]

end Trial

/-- A trial goes by the first cause that a stage has. -/
theorem Course.findSome?_eq (h : Course trial cause ending after) :
    Stage.all.findSome? trial.causeAt = some cause := by
  cases h with
  | stopped hread => simp [Stage.all, Trial.causeAt, hread]
  | script hread hscript =>
    simp [Stage.all, Trial.causeAt, hread, Trial.arguments?_eq_some hread, hscript]
  | unusable h hload => simp [Stage.all, h.causeAt_eq_none, Trial.causeAt_settings hload]
  | shown h hshow =>
    simp [Stage.all, h.toReads.causeAt_eq_none, h.causeAt_eq_none, h.causeAt_showConfig, hshow]
  | invalid h hshow herror =>
    simp [Stage.all, h.toReads.causeAt_eq_none, h.causeAt_eq_none, h.causeAt_showConfig, hshow,
      h.causeAt_validation, herror]
  | unopened h hrefusal =>
    simp [Stage.all, h.toReads.causeAt_eq_none, h.toLoads.causeAt_eq_none, h.causeAt_showConfig,
      h.notShown, h.causeAt_validation, h.validated, h.causeAt_opening, hrefusal]
  | carriedOut h hrefusal =>
    simp [Stage.all, h.toReads.causeAt_eq_none, h.toLoads.causeAt_eq_none, h.causeAt_showConfig,
      h.notShown, h.causeAt_validation, h.validated, h.causeAt_opening, hrefusal,
      h.causeAt_operation]

/-! ## The end that a cause makes -/

/-- Notes stand on standard output. -/
theorem Cause.Makes.behind {invocation : Invocation} (h : cause.Makes invocation ending)
    (notes : String) : cause.Makes invocation (ending.behind notes) where
  stage_eq := h.stage_eq
  status_eq := h.status_eq
  stderr_eq := Eq.trans String.empty_append h.stderr_eq

theorem Cause.usage_eq (cause : Cause) :
    cause.usage = if cause.stage.showsUsage then helpText false ++ "\n" else "" := by
  cases cause <;> rfl

/-- An error makes its line, with the usage text behind it where its stage shows it. -/
theorem makes_ofError {invocation : Invocation} {message : String}
    (hmessage : cause.message invocation = Cause.errorLine invocation message) :
    cause.Makes invocation (.ofError invocation.colour cause.stage cause.status message) where
  stage_eq := rfl
  status_eq := rfl
  stderr_eq := by
    rw [hmessage, cause.usage_eq, Ending.ofError]
    split <;> rfl

theorem makes_showSettings (invocation : Invocation) (settings : Settings) :
    (Cause.shown settings.toToml).Makes invocation (invocation.showSettings settings) := by
  rw [Invocation.showSettings]
  cases settings.toToml with
  | ok text => exact ⟨rfl, rfl, rfl⟩
  | error error => exact makes_ofError rfl

theorem makes_outcome (invocation : Invocation) (journal : Journal) (verbose : Bool)
    (operation : Operation) (outcome : Outcome) :
    (Cause.carriedOut outcome).Makes invocation
      (outcome.ending journal invocation.colour verbose operation) where
  stage_eq := rfl
  status_eq := rfl
  stderr_eq := by
    cases outcome with
    | succeeded report => rfl
    | failed error =>
      change "" ++ _ ++ "" = _ ++ ""
      rw [String.empty_append]
      rfl

/-- The end of a course is the one that its cause makes. -/
theorem Course.makes (h : Course trial cause ending after) :
    cause.Makes trial.invocation ending := by
  cases h with
  | @stopped stop =>
    cases stop with
    | refused error => exact ⟨rfl, rfl, String.append_empty.symm⟩
    | _ => exact ⟨rfl, rfl, rfl⟩
  | script => exact ⟨rfl, rfl, String.append_empty.symm⟩
  | unusable => exact (makes_ofError rfl).behind _
  | shown => exact (makes_showSettings _ _).behind _
  | invalid => exact (makes_ofError rfl).behind _
  | unopened => exact (makes_ofError rfl).behind _
  | carriedOut => exact (makes_outcome _ _ _ _ _).behind _

/-! ## Exit statuses -/

theorem Course.status_mem (h : Course trial cause ending after) :
    ending.status ∈ ending.stage.statuses := by
  rw [h.makes.status_eq, h.makes.stage_eq]
  cases h with
  | @stopped stop => cases stop <;> simp [Cause.status, Cause.stage, Stage.statuses]
  | shown => cases Settings.toToml _ <;> simp [Cause.status, Cause.stage, Stage.statuses]
  | carriedOut => exact Operation.status_overLine_mem _ _
  | _ => simp [Cause.status, Cause.stage, Stage.statuses]

/-- Only the last stage touches the line. -/
theorem Course.after_eq (h : Course trial cause ending after) (hstage : ending.stage ≠ .operation) :
    after = trial.line := by
  have hmakes := h.makes
  cases h with
  | carriedOut => exact absurd hmakes.stage_eq hstage
  | _ => rfl

/-! ## Inputs of later stages -/

/-- What the stages up to the given one use of the arguments. The first only finds that there are
some. -/
def Arguments.upTo (arguments : Arguments) : Stage → Arguments
  | .arguments => {}
  | .completions => { completions := arguments.completions }
  | .settings => { completions := arguments.completions, verbosity := arguments.verbosity }
  | .showConfig =>
    { completions := arguments.completions, verbosity := arguments.verbosity
      showConfig := arguments.showConfig }
  | .validation => { arguments with device := none }
  | .opening | .operation => arguments

section

variable {others : Arguments} {stage : Stage}

theorem Arguments.completions_eq (h : others.upTo stage = arguments.upTo stage)
    (hle : Stage.completions.rank ≤ stage.rank) : others.completions = arguments.completions := by
  have hfield := congrArg Arguments.completions h
  cases stage with
  | arguments => contradiction
  | _ => exact hfield

theorem Arguments.verbosity_eq (h : others.upTo stage = arguments.upTo stage)
    (hle : Stage.settings.rank ≤ stage.rank) : others.verbosity = arguments.verbosity := by
  have hfield := congrArg Arguments.verbosity h
  cases stage with
  | arguments | completions => contradiction
  | _ => exact hfield

theorem Arguments.showConfig_eq (h : others.upTo stage = arguments.upTo stage)
    (hle : Stage.showConfig.rank ≤ stage.rank) : others.showConfig = arguments.showConfig := by
  have hfield := congrArg Arguments.showConfig h
  cases stage with
  | arguments | completions | settings => contradiction
  | _ => exact hfield

/-- The validation leaves the device alone. -/
theorem Arguments.validate_eq (h : others.upTo stage = arguments.upTo stage)
    (hle : Stage.validation.rank ≤ stage.rank) (settings : Settings) :
    (others.options settings).validate = (arguments.options settings).validate := by
  have hvalidate := congrArg (fun given : Arguments => (given.options settings).validate) h
  cases stage with
  | validation | opening | operation => exact hvalidate
  | _ => contradiction

theorem Arguments.eq_of_upTo (h : others.upTo stage = arguments.upTo stage)
    (hle : Stage.opening.rank ≤ stage.rank) : others = arguments := by
  cases stage with
  | opening | operation => exact h
  | _ => contradiction

end

/-- Two trials have the same inputs up to a stage. -/
structure Trial.AgreeUpTo (trial : Trial) (stage : Stage) (other : Trial) : Prop where
  words : (Arguments.parse trial.invocation.words).map (·.upTo stage) =
    (Arguments.parse other.invocation.words).map (·.upTo stage)
  colourOfArguments : trial.invocation.colourOfArguments = other.invocation.colourOfArguments
  completionScript : Stage.completions.rank ≤ stage.rank →
    trial.invocation.completionScript = other.invocation.completionScript
  environment : Stage.settings.rank ≤ stage.rank →
    trial.invocation.environment = other.invocation.environment
  settingsPath : Stage.settings.rank ≤ stage.rank →
    trial.invocation.settingsPath = other.invocation.settingsPath
  settingsFile : Stage.settings.rank ≤ stage.rank →
    trial.invocation.settingsFile = other.invocation.settingsFile
  accountHome : Stage.settings.rank ≤ stage.rank →
    trial.invocation.accountHome = other.invocation.accountHome
  refusal : Stage.opening.rank ≤ stage.rank → trial.refusal = other.refusal
  line : Stage.operation.rank ≤ stage.rank → trial.line = other.line

namespace Trial.AgreeUpTo

variable {stage : Stage} {others : Arguments}

theorem symm (h : trial.AgreeUpTo stage other) : other.AgreeUpTo stage trial where
  words := h.words.symm
  colourOfArguments := h.colourOfArguments.symm
  completionScript hle := (h.completionScript hle).symm
  environment hle := (h.environment hle).symm
  settingsPath hle := (h.settingsPath hle).symm
  settingsFile hle := (h.settingsFile hle).symm
  accountHome hle := (h.accountHome hle).symm
  refusal hle := (h.refusal hle).symm
  line hle := (h.line hle).symm

theorem stopped (h : trial.AgreeUpTo stage other) {stop : ArgumentStop}
    (hread : Arguments.parse trial.invocation.words = .error stop) :
    Arguments.parse other.invocation.words = .error stop :=
  eq_error_of_map_eq h.words hread

/-- Words that are read are read in the other trial as well, up to what comes later. -/
theorem read (h : trial.AgreeUpTo stage other)
    (hread : Arguments.parse trial.invocation.words = .ok arguments) :
    ∃ others, Arguments.parse other.invocation.words = .ok others ∧
      others.upTo stage = arguments.upTo stage :=
  exists_ok_of_map_eq h.words hread

theorem load_eq (h : trial.AgreeUpTo stage other) (hle : Stage.settings.rank ≤ stage.rank) :
    other.invocation.load = trial.invocation.load := by
  rw [Invocation.load, Invocation.load, h.environment hle, h.settingsPath hle, h.settingsFile hle,
    h.accountHome hle]

theorem colour_eq (h : trial.AgreeUpTo stage other) (hle : Stage.settings.rank ≤ stage.rank) :
    other.invocation.colour = trial.invocation.colour := by
  rw [Invocation.colour, Invocation.colour, h.environment hle]

theorem journal_eq (h : trial.AgreeUpTo stage other) (hle : Stage.settings.rank ≤ stage.rank)
    (hupTo : others.upTo stage = arguments.upTo stage) :
    other.invocation.journal others = trial.invocation.journal arguments := by
  rw [Invocation.journal, Invocation.journal, h.environment hle, Arguments.verbosity_eq hupTo hle]

/-- What is read is read in the other trial as well, up to what comes later. -/
theorem reads (h : trial.AgreeUpTo stage other) (hle : Stage.completions.rank ≤ stage.rank)
    (hreads : trial.Reads arguments) :
    ∃ others, other.Reads others ∧ others.upTo stage = arguments.upTo stage := by
  obtain ⟨others, hread, hupTo⟩ := h.read hreads.read
  exact ⟨others, ⟨hread, (Arguments.completions_eq hupTo hle).trans hreads.noScript⟩, hupTo⟩

/-- The settings are loaded in the other trial as well. -/
theorem loads (h : trial.AgreeUpTo stage other) (hle : Stage.settings.rank ≤ stage.rank)
    (hloads : trial.Loads arguments settings) :
    ∃ others, other.Loads others settings ∧ others.upTo stage = arguments.upTo stage := by
  obtain ⟨others, hreads, hupTo⟩ := h.reads (Nat.le_trans (by decide) hle) hloads.toReads
  exact ⟨others, ⟨hreads, (h.load_eq hle).trans hloads.loaded⟩, hupTo⟩

/-- The same operation is chosen in the other trial, for the same arguments from the opening on. -/
theorem chooses (h : trial.AgreeUpTo stage other) (hle : Stage.opening.rank ≤ stage.rank)
    (hchooses : trial.Chooses arguments settings operation) :
    other.Chooses arguments settings operation := by
  obtain ⟨others, hloads, hupTo⟩ := h.loads (Nat.le_trans (by decide) hle) hchooses.toLoads
  cases Arguments.eq_of_upTo hupTo hle
  exact ⟨hloads, hchooses.notShown, hchooses.validated⟩

end Trial.AgreeUpTo

/-- A trial that agrees with another up to the stage where that ends comes to the same end. -/
theorem Course.carry (h : Course trial cause ending after) {stage : Stage}
    (hagree : trial.AgreeUpTo stage other) (hle : ending.stage.rank ≤ stage.rank) :
    ∃ after', Course other cause ending after' := by
  rw [h.makes.stage_eq] at hle
  cases h with
  | stopped hread =>
    rw [hagree.colourOfArguments]
    exact ⟨_, .stopped (hagree.stopped hread)⟩
  | script hread hscript =>
    obtain ⟨others, hread', hupTo⟩ := hagree.read hread
    rw [hagree.completionScript hle]
    exact ⟨_, .script hread' ((Arguments.completions_eq hupTo hle).trans hscript)⟩
  | unusable h hload =>
    change Stage.settings.rank ≤ stage.rank at hle
    obtain ⟨others, hreads, hupTo⟩ := hagree.reads (Nat.le_trans (by decide) hle) h
    have hcourse := Course.unusable hreads ((hagree.load_eq hle).trans hload)
    rw [hagree.journal_eq hle hupTo, hagree.colour_eq hle] at hcourse
    exact ⟨_, hcourse⟩
  | shown h hshow =>
    change Stage.showConfig.rank ≤ stage.rank at hle
    have hsettings : Stage.settings.rank ≤ stage.rank := Nat.le_trans (by decide) hle
    obtain ⟨others, hloads, hupTo⟩ := hagree.loads hsettings h
    have hcourse := Course.shown hloads ((Arguments.showConfig_eq hupTo hle).trans hshow)
    rw [hagree.journal_eq hsettings hupTo, Invocation.showSettings,
      hagree.colour_eq hsettings] at hcourse
    exact ⟨_, hcourse⟩
  | invalid h hshow herror =>
    change Stage.validation.rank ≤ stage.rank at hle
    have hsettings : Stage.settings.rank ≤ stage.rank := Nat.le_trans (by decide) hle
    obtain ⟨others, hloads, hupTo⟩ := hagree.loads hsettings h
    have hshow' := (Arguments.showConfig_eq hupTo (Nat.le_trans (by decide) hle)).trans hshow
    have hcourse := Course.invalid hloads hshow'
      ((Arguments.validate_eq hupTo hle _).trans herror)
    rw [hagree.journal_eq hsettings hupTo, hagree.colour_eq hsettings] at hcourse
    exact ⟨_, hcourse⟩
  | unopened h hrefusal =>
    change Stage.opening.rank ≤ stage.rank at hle
    have hsettings : Stage.settings.rank ≤ stage.rank := Nat.le_trans (by decide) hle
    rw [hagree.refusal hle] at hrefusal
    have hcourse := Course.unopened (hagree.chooses hle h) hrefusal
    rw [hagree.journal_eq hsettings rfl, hagree.colour_eq hsettings] at hcourse
    exact ⟨_, hcourse⟩
  | carriedOut h hrefusal =>
    change Stage.operation.rank ≤ stage.rank at hle
    have hsettings : Stage.settings.rank ≤ stage.rank := Nat.le_trans (by decide) hle
    have hopening : Stage.opening.rank ≤ stage.rank := Nat.le_trans (by decide) hle
    rw [hagree.refusal hopening] at hrefusal
    have hcourse := Course.carriedOut (hagree.chooses hopening h) hrefusal
    rw [hagree.journal_eq hsettings rfl, hagree.colour_eq hsettings, ← hagree.line hle] at hcourse
    exact ⟨_, hcourse⟩

/-- Inputs of later stages do not show in the end of a trial. -/
theorem Trial.AgreeUpTo.ending_eq {stage : Stage} (h : trial.AgreeUpTo stage other)
    (hle : trial.ending.stage.rank ≤ stage.rank) : other.ending = trial.ending := by
  obtain ⟨cause, hcourse⟩ := trial.exists_course
  obtain ⟨after, hother⟩ := hcourse.carry h hle
  rw [Trial.ending, hother.finished_eq]

/-- **The first stage that has a cause ends an invocation.** Take any words, variables, settings
file, home directory on record, completion scripts, devices and line.

The end is the one that the first cause in the order of the stages makes: its stage, its exit
status, and its message with the usage text behind it exactly where the options describe no
operation. The exit status is one of those that the stage can have.

If one of two trials that agree up to a stage ends there or before, both end alike, whatever later
stages would have met.

Only an operation touches the line; with the statuses 64, 66 and 78 nothing is written to it. -/
theorem first_stage_decides (trial : Trial) :
    (∃ cause, Stage.all.findSome? trial.causeAt = some cause ∧
      cause.Makes trial.invocation trial.ending) ∧
    trial.ending.status ∈ trial.ending.stage.statuses ∧
    (∀ stage other, trial.AgreeUpTo stage other →
      trial.ending.stage.rank ≤ stage.rank ∨ other.ending.stage.rank ≤ stage.rank →
        other.ending = trial.ending) ∧
    (trial.ending.stage ≠ .operation → trial.after = trial.line) ∧
    (trial.ending.status ∈ [64, 66, 78] → trial.after.written = trial.line.written) := by
  obtain ⟨cause, hcourse⟩ := trial.exists_course
  refine ⟨⟨cause, hcourse.findSome?_eq, hcourse.makes⟩, hcourse.status_mem, ?_,
    hcourse.after_eq, ?_⟩
  · intro stage other hagree hle
    rcases hle with hle | hle
    · exact hagree.ending_eq hle
    · exact (hagree.symm.ending_eq hle).symm
  · intro hstatus
    rw [hcourse.after_eq]
    intro hstage
    -- None of these statuses is one of an operation.
    have hmem := hcourse.status_mem
    rw [hstage] at hmem
    have hdisjoint : ∀ status ∈ [64, 66, 78], status ∉ Stage.operation.statuses := by decide
    exact hdisjoint _ hstatus hmem

/-- The settings file cannot be read, a zone is missing, and the device is absent: the file decides,
the line is left alone, and the end is the same with a zone on a device that answers. -/
theorem first_stage_decides_unreadable_file :
    let file : SettingsFile := .unreadable "Permission denied"
    let trial : Trial :=
      { invocation :=
          { words := ["-c", "on", "-u", "1", "-d", "/dev/absent"], environment := []
            settingsPath := "rain8net.toml", settingsFile := file }
        refusal _ _ := some "No such file or directory"
        line := {} }
    let other : Trial :=
      { invocation := { trial.invocation with words := ["-c", "on", "-u", "1", "-z", "1"] }
        refusal _ _ := none
        line := { reads := [.data [0x40, 1, 0x31]] } }
    trial.ending.status = 78 ∧ trial.after = trial.line ∧
      trial.after.written = trial.line.written ∧ other.ending = trial.ending := by
  intro file trial other
  have hstage : trial.ending.stage = .settings := rfl
  have hagree : trial.AgreeUpTo .settings other :=
    ⟨rfl, rfl, fun _ => rfl, fun _ => rfl, fun _ => rfl, fun _ => rfl, fun _ => rfl,
      fun h => absurd h (by decide), fun h => absurd h (by decide)⟩
  obtain ⟨-, hstatus, hends, htouches, hwrites⟩ := first_stage_decides trial
  rw [hstage] at hstatus hends htouches
  have hstatus : trial.ending.status = 78 := List.mem_singleton.mp hstatus
  rw [hstatus] at hwrites
  exact ⟨hstatus, htouches nofun, hwrites (by decide),
    hends .settings other hagree (.inl (Nat.le_refl _))⟩

end Irrigation
