import Irrigation.Arguments.Help
import Irrigation.Arguments.Message
import Irrigation.Journal.Record
import Irrigation.Terminal.Printout

/-!
# Endings

How an invocation ends: at which stage, with which exit status, and with what has been printed.

* `Stage`: the stages in order. `Stage.showsUsage`: whose errors the help text follows.
* `Ending`: the end at a stage.
* `ArgumentStop.ending`, `Shell.ending`, `Outcome.ending`: ends that depend on one value.
* `Operation.run`: carries out an operation and reports it.
-/

namespace Irrigation

/-- The stages of an invocation, in order. -/
inductive Stage
  | arguments
  | completions
  | settings
  | showConfig
  | validation
  | opening
  | operation
  deriving Repr, DecidableEq

/-- Whether the help text follows an error of the stage: it does where the options describe no
operation. -/
def Stage.showsUsage : Stage → Bool
  | validation => true
  | arguments | completions | settings | showConfig | opening | operation => false

/-- The end of an invocation. -/
structure Ending where
  stage : Stage
  status : ExitStatus
  printout : Printout
  deriving Repr, DecidableEq

/-- The end with a text in front of its standard output. -/
def Ending.behind (text : String) (ending : Ending) : Ending :=
  { ending with printout := { stdout := text } ++ ending.printout }

/-- The end where the words are not read to the end. -/
def ArgumentStop.ending (colour : Bool) : ArgumentStop → Ending
  | help => ⟨.arguments, .ok, { stdout := helpText colour }⟩
  | version => ⟨.arguments, .ok, { stdout := versionText }⟩
  | refused error => ⟨.arguments, .usage, { stderr := error.text colour }⟩

/-- The end with the completion script for a shell. -/
def Shell.ending (shell : Shell) (script : String) : Ending where
  stage := .completions
  status := .ok
  printout :=
    { stdout := script
      stderr := "Generating completion file for " ++ shell.title ++ "...\n" }

/-- The end with an error of a stage, and behind it the help text if the stage shows it. -/
def Ending.ofError (colour : Bool) (stage : Stage) (status : ExitStatus) (message : String) :
    Ending where
  stage := stage
  status := status
  printout :=
    .error colour message ++ if stage.showsUsage then .complaint (helpText false) else {}

/-- The end with settings that cannot be used or shown. -/
def SettingsError.ending (colour : Bool) (stage : Stage) (error : SettingsError) : Ending :=
  .ofError colour stage .config error.message

/-- The end with options that describe no operation. -/
def ValidationError.ending (colour : Bool) (error : ValidationError) : Ending :=
  .ofError colour .validation .usage error.message

/-- The end with a device that cannot be opened. -/
def DeviceError.ending (colour : Bool) (error : DeviceError) : Ending :=
  .ofError colour .opening error.status error.message

/-- The end with the outcome of an operation: its report stands between the lines of the
journal. -/
def Outcome.ending (journal : Journal) (colour verbose : Bool) (operation : Operation)
    (outcome : Outcome) : Ending where
  stage := .operation
  status := outcome.status
  printout :=
    { stdout := journal.beforeReport operation outcome } ++ outcome.printout colour verbose ++
      { stdout := journal.afterReport operation }

/-- Carries out an operation and reports it. -/
def Operation.run {m : Type → Type} [Monad m] (client : DeviceClient m) (journal : Journal)
    (colour verbose : Bool) (operation : Operation) : m Ending := do
  return (← operation.execute client).ending journal colour verbose operation

end Irrigation
