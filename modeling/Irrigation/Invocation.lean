import Irrigation.Arguments.Reader
import Irrigation.Ending
import Irrigation.Settings.Load

/-!
# Invocations

One run of the program, in stages; the first stage that ends it decides everything.

* `Invocation`: the words, the variables, the settings file, and what else an invocation finds.
* `Invocation.plan`: all stages up to the validation. They need nothing from outside, and the
  result is an end or a `Plan`.
* `Host`: how lines are opened. `Plan.run` opens the line and carries out the operation.
* `Invocation.run`: all stages.
-/

namespace Irrigation

/-- What an invocation starts from. -/
structure Invocation where
  words : List String
  environment : Environment
  settingsPath : String
  settingsFile : SettingsFile
  /-- The home directory that the system has on record for the account. -/
  accountHome : Option String := none
  /-- The scripts that complete the options, made by a generator for each shell. -/
  completionScript : Shell → String := fun _ => ""

/-- An operation to carry out on the line of a device. -/
structure Plan where
  operation : Operation
  device : String
  timeoutMs : Nat
  verbose : Bool
  journal : Journal
  colour : Bool
  /-- The journal up to here. -/
  noted : String
  deriving Repr, DecidableEq

/-- What runs an invocation: it opens the line of a device with a time to wait for answers, or says
why it cannot. -/
structure Host (m : Type → Type) where
  openLine : String → Nat → m (Except String (DeviceClient m))

namespace Invocation

/-- Whether messages about the arguments have colours. They may be refused. -/
def colourOfArguments (invocation : Invocation) : Bool :=
  invocation.environment.forcesArgumentColour && !invocation.environment.refusesColour

/-- Whether reports and errors have colours. They cannot be refused. -/
def colour (invocation : Invocation) : Bool := invocation.environment.forcesColour

/-- The journal that the arguments ask for. It has styles unless colours are refused. -/
def journal (invocation : Invocation) (arguments : Arguments) : Journal :=
  ⟨arguments.verbosity, !invocation.environment.refusesColour⟩

/-- The arguments, unless they end the invocation. -/
def readArguments (invocation : Invocation) : Except Ending Arguments :=
  match Arguments.parse invocation.words with
  | .error stop => .error (stop.ending invocation.colourOfArguments)
  | .ok arguments =>
    match arguments.completions with
    | some shell => .error (shell.ending (invocation.completionScript shell))
    | none => .ok arguments

/-- The settings that the invocation finds. -/
def load (invocation : Invocation) : Except SettingsError Settings :=
  Settings.load invocation.settingsPath invocation.settingsFile invocation.environment
    invocation.accountHome

/-- The settings, unless they end the invocation. -/
def loadSettings (invocation : Invocation) : Except Ending Settings :=
  invocation.load.mapError (SettingsError.ending invocation.colour .settings)

/-- The end with the settings as a file. -/
def showSettings (invocation : Invocation) (settings : Settings) : Ending :=
  match settings.toToml with
  | .error error => error.ending invocation.colour .showConfig
  | .ok text => ⟨.showConfig, .ok, .lines [text]⟩

/-- The operation of the arguments, unless the invocation ends without one. -/
def chooseOperation (invocation : Invocation) (arguments : Arguments) (settings : Settings) :
    Except Ending Operation :=
  if arguments.showConfig then .error (invocation.showSettings settings)
  else (arguments.options settings).validate.mapError (ValidationError.ending invocation.colour)

/-- The stages up to the validation. -/
def plan (invocation : Invocation) : Except Ending Plan := do
  let arguments ← invocation.readArguments
  let journal := invocation.journal arguments
  let noted := journal.note .detailed
  let settings ← invocation.loadSettings.mapError (Ending.behind noted)
  let noted := noted ++ journal.note (.loaded settings)
  let operation ← (invocation.chooseOperation arguments settings).mapError (Ending.behind noted)
  let options := arguments.options settings
  return {
    operation, journal, noted
    device := options.device
    timeoutMs := settings.timeoutMs
    verbose := options.verbose
    colour := invocation.colour }

end Invocation

/-- Opens the line and carries out the operation. -/
def Plan.run {m : Type → Type} [Monad m] (host : Host m) (plan : Plan) : m Ending := do
  let noted := plan.noted ++ plan.journal.note (.opens plan.device plan.timeoutMs)
  match ← host.openLine plan.device plan.timeoutMs with
  | .error reason =>
    return ((DeviceError.cannotOpen plan.device reason).ending plan.colour).behind noted
  | .ok client =>
    let noted := noted ++ plan.journal.note (.opened plan.device)
    let ending ← plan.operation.run client plan.journal plan.colour plan.verbose
    return ending.behind noted

/-- Runs an invocation. -/
def Invocation.run {m : Type → Type} [Monad m] (host : Host m) (invocation : Invocation) :
    m Ending :=
  match invocation.plan with
  | .error ending => return ending
  | .ok plan => plan.run host

end Irrigation
