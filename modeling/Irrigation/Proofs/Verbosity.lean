import Irrigation.Proofs.Arguments
import Irrigation.Proofs.Stages

/-!
# Diagnostics

Requests for diagnostics change what stands on standard output, and nothing else.

* `Arguments.quiet`: values without any request.
* `Trial.AgreeButVerbosity`: two trials ask for diagnostics differently, and agree otherwise.
  `Trial.AgreeButVerbosity.course`: they have the same cause to end, and leave the same line behind.
* `Trial.DifferOnStdoutOnly`: two trials that can be told apart by standard output alone.
* `diagnostics_change_nothing_else`: invocations and runs of an operation are such, whatever the
  diagnostics.
-/

namespace Irrigation

/-- The values without any request for diagnostics. -/
def Arguments.quiet (arguments : Arguments) : Arguments := { arguments with verbosity := 0 }

/-! ## Two trials -/

namespace Trial

/-- Two trials ask for diagnostics differently, and agree otherwise. -/
structure AgreeButVerbosity (trial other : Trial) : Prop where
  words : (Arguments.parse trial.invocation.words).map Arguments.quiet =
    (Arguments.parse other.invocation.words).map Arguments.quiet
  environment : trial.invocation.environment = other.invocation.environment
  settingsPath : trial.invocation.settingsPath = other.invocation.settingsPath
  settingsFile : trial.invocation.settingsFile = other.invocation.settingsFile
  accountHome : trial.invocation.accountHome = other.invocation.accountHome
  completionScript : trial.invocation.completionScript = other.invocation.completionScript
  refusal : trial.refusal = other.refusal
  line : trial.line = other.line

/-- Two trials leave the same line behind, with what was written to it, what was flushed and what is
still unread, and end alike but for standard output. -/
structure DifferOnStdoutOnly (trial other : Trial) : Prop where
  after : trial.after = other.after
  stage : trial.ending.stage = other.ending.stage
  status : trial.ending.status = other.ending.status
  stderr : trial.ending.printout.stderr = other.ending.printout.stderr

/-- The trial with requests for diagnostics in front of its words. -/
def asking (count : Nat) (trial : Trial) : Trial :=
  { trial with
    invocation :=
      { trial.invocation with
        words := List.replicate count "-v" ++ trial.invocation.words } }

variable {trial other : Trial} {arguments others : Arguments} {settings : Settings}
  {operation : Operation} {cause : Cause} {ending : Ending} {after : SerialLine}

/-- Different requests in front of the same words are the only difference. -/
theorem agreeButVerbosity_asking (trial : Trial) (count more : Nat) :
    (trial.asking count).AgreeButVerbosity (trial.asking more) where
  words := by
    simp only [asking, Arguments.parse_replicate_verbose]
    cases Arguments.parse trial.invocation.words <;> rfl
  environment := rfl
  settingsPath := rfl
  settingsFile := rfl
  accountHome := rfl
  completionScript := rfl
  refusal := rfl
  line := rfl

namespace AgreeButVerbosity

theorem load_eq (h : trial.AgreeButVerbosity other) :
    other.invocation.load = trial.invocation.load := by
  rw [Invocation.load, Invocation.load, h.environment, h.settingsPath, h.settingsFile,
    h.accountHome]

theorem reads (h : trial.AgreeButVerbosity other) (hreads : trial.Reads arguments) :
    ∃ others, other.Reads others ∧ others.quiet = arguments.quiet := by
  obtain ⟨others, hread, hquiet⟩ := exists_ok_of_map_eq h.words hreads.read
  exact ⟨others, ⟨hread, (congrArg Arguments.completions hquiet).trans hreads.noScript⟩, hquiet⟩

theorem loads (h : trial.AgreeButVerbosity other) (hloads : trial.Loads arguments settings) :
    ∃ others, other.Loads others settings ∧ others.quiet = arguments.quiet := by
  obtain ⟨others, hreads, hquiet⟩ := h.reads hloads.toReads
  exact ⟨others, ⟨hreads, h.load_eq.trans hloads.loaded⟩, hquiet⟩

/-- The validation does not look at the verbosity. -/
theorem validate_eq (hquiet : others.quiet = arguments.quiet) (settings : Settings) :
    (others.options settings).validate = (arguments.options settings).validate := by
  have hvalidate := congrArg (fun given : Arguments => (given.options settings).validate) hquiet
  exact hvalidate

theorem device_eq (hquiet : others.quiet = arguments.quiet) (settings : Settings) :
    (others.options settings).device = (arguments.options settings).device := by
  have hdevice := congrArg (fun given : Arguments => (given.options settings).device) hquiet
  exact hdevice

/-- The same operation is chosen for the same device. -/
theorem chooses (h : trial.AgreeButVerbosity other)
    (hchooses : trial.Chooses arguments settings operation) :
    ∃ others, other.Chooses others settings operation ∧
      (others.options settings).device = (arguments.options settings).device := by
  obtain ⟨others, hloads, hquiet⟩ := h.loads hchooses.toLoads
  have hshow := congrArg Arguments.showConfig hquiet
  exact ⟨others, ⟨hloads, hshow.trans hchooses.notShown,
    (validate_eq hquiet settings).trans hchooses.validated⟩, device_eq hquiet settings⟩

/-- Trials that differ in diagnostics have the same cause to end, and the same line behind them. -/
theorem course (h : trial.AgreeButVerbosity other) (hcourse : Course trial cause ending after) :
    ∃ ending', Course other cause ending' after := by
  cases hcourse with
  | stopped hread =>
    rw [h.line]
    exact ⟨_, .stopped (eq_error_of_map_eq h.words hread)⟩
  | script hread hscript =>
    obtain ⟨others, hread', hquiet⟩ := exists_ok_of_map_eq h.words hread
    rw [h.line]
    exact ⟨_, .script hread' ((congrArg Arguments.completions hquiet).trans hscript)⟩
  | unusable hreads hload =>
    obtain ⟨others, hreads', -⟩ := h.reads hreads
    rw [h.line]
    exact ⟨_, .unusable hreads' (h.load_eq.trans hload)⟩
  | shown hloads hshow =>
    obtain ⟨others, hloads', hquiet⟩ := h.loads hloads
    rw [h.line]
    exact ⟨_, .shown hloads' ((congrArg Arguments.showConfig hquiet).trans hshow)⟩
  | invalid hloads hshow herror =>
    obtain ⟨others, hloads', hquiet⟩ := h.loads hloads
    rw [h.line]
    exact ⟨_, .invalid hloads' ((congrArg Arguments.showConfig hquiet).trans hshow)
      ((validate_eq hquiet _).trans herror)⟩
  | unopened hchooses hrefusal =>
    obtain ⟨others, hchooses', hdevice⟩ := h.chooses hchooses
    rw [h.refusal, ← hdevice] at hrefusal
    rw [h.line, ← hdevice]
    exact ⟨_, .unopened hchooses' hrefusal⟩
  | carriedOut hchooses hrefusal =>
    obtain ⟨others, hchooses', hdevice⟩ := h.chooses hchooses
    rw [h.refusal, ← hdevice] at hrefusal
    rw [h.line]
    exact ⟨_, .carriedOut hchooses' hrefusal⟩

end AgreeButVerbosity

end Trial

/-- Of an invocation only the variables show in a message. -/
theorem Cause.message_eq {invocation other : Invocation} (cause : Cause)
    (h : invocation.environment = other.environment) :
    cause.message invocation = cause.message other := by
  have hcolour : invocation.colour = other.colour := by
    rw [Invocation.colour, Invocation.colour, h]
  have hcolourOfArguments : invocation.colourOfArguments = other.colourOfArguments := by
    rw [Invocation.colourOfArguments, Invocation.colourOfArguments, h]
  unfold Cause.message
  split <;> simp only [errorLine, hcolour, hcolourOfArguments]

namespace Trial

variable {trial other : Trial}

theorem AgreeButVerbosity.differOnStdoutOnly (h : trial.AgreeButVerbosity other) :
    trial.DifferOnStdoutOnly other := by
  obtain ⟨cause, hcourse⟩ := trial.exists_course
  obtain ⟨ending', hother⟩ := h.course hcourse
  have hfinished := hother.finished_eq
  have hmakes := hcourse.makes
  have hothers := hother.makes
  have hending : other.ending = ending' := congrArg Prod.fst hfinished
  rw [← hending] at hothers
  exact {
    after := (congrArg Prod.snd hfinished).symm
    stage := hmakes.stage_eq.trans hothers.stage_eq.symm
    status := hmakes.status_eq.trans hothers.status_eq.symm
    stderr := by
      rw [hmakes.stderr_eq, hothers.stderr_eq, cause.message_eq h.environment] }

end Trial

/-! ## Runs of an operation -/

/-- The journal and the length of the report do not show on standard error. -/
theorem Outcome.stderr_ending_eq (outcome : Outcome) (journal other : Journal)
    (colour verbose verbosely : Bool) (operation : Operation) :
    (outcome.ending journal colour verbose operation).printout.stderr =
      (outcome.ending other colour verbosely operation).printout.stderr := by
  rw [printout_ending, printout_ending]
  cases outcome <;> rfl

/-- **Diagnostics change nothing else.** Take two invocations that start from the same but for their
words, with the same devices and line. Their words come to the same but for the verbosity, or are
refused for the same reason. They leave the same line behind, end at the same stage with the same exit status, and
say the same on standard error. Only their standard output may differ.

So do any two numbers of requests in front of the same words, none and more than 255 included.

An operation that is run by any client, with whatever journal and with a short or a long report,
ends with the same status, says the same on standard error, and leaves the same state behind: over a
serial line the bytes written, the flushes and the bytes still unread. -/
theorem diagnostics_change_nothing_else :
    (∀ trial other : Trial, trial.AgreeButVerbosity other → trial.DifferOnStdoutOnly other) ∧
    (∀ (trial : Trial) (count more : Nat),
      (trial.asking count).DifferOnStdoutOnly (trial.asking more)) ∧
    (∀ (σ : Type) (client : DeviceClient (StateM σ)) (operation : Operation)
      (journal other : Journal) (colour : Bool) (state : σ),
      let quietly := (operation.run client journal colour false).run state
      let verbosely := (operation.run client other colour true).run state
      quietly.2 = verbosely.2 ∧ quietly.1.status = verbosely.1.status ∧
        quietly.1.printout.stderr = verbosely.1.printout.stderr) := by
  refine ⟨fun _ _ h => h.differOnStdoutOnly, ?_, ?_⟩
  · intro trial count more
    exact (trial.agreeButVerbosity_asking count more).differOnStdoutOnly
  · intro σ client operation journal other colour state quietly verbosely
    exact ⟨rfl, rfl, Outcome.stderr_ending_eq _ _ _ _ _ _ _⟩

/-- Zone 8 of unit 5 is on, and a byte follows the reply: three requests for diagnostics, here and
there among the words, show on standard output and leave the query and its answer as they are. -/
theorem diagnostics_change_nothing_else_zone_query :
    let quietly : Trial :=
      { invocation :=
          { words := ["-c", "status", "-u", "5", "-z", "8"], environment := []
            settingsPath := "rain8net.toml", settingsFile := .absent }
        refusal _ _ := none
        line := { reads := [.data [0x40], .data [5, 0x80], .data [0xFF]] } }
    let verbosely : Trial :=
      { quietly with
        invocation :=
          { quietly.invocation with words := ["-v", "-c", "status", "-vvu5", "-z", "8"] } }
    verbosely.after.written = [0x40, 5, 0xF0] ∧ verbosely.after.reads = [.data [0xFF]] ∧
      verbosely.ending.status = 1 ∧ verbosely.ending.printout.stderr = "" ∧
      verbosely.ending.printout.stdout ≠ quietly.ending.printout.stdout := by
  intro quietly verbosely
  obtain ⟨htrials, -⟩ := diagnostics_change_nothing_else
  have hagree : quietly.AgreeButVerbosity verbosely := ⟨rfl, rfl, rfl, rfl, rfl, rfl, rfl, rfl⟩
  obtain ⟨hafter, -, hstatus, hstderr⟩ := htrials quietly verbosely hagree
  rw [← hafter, ← hstatus, ← hstderr]
  exact ⟨by decide +kernel, by decide +kernel, by decide +kernel, by decide +kernel,
    by decide +kernel⟩

end Irrigation
