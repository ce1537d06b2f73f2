import Irrigation.Address
import Irrigation.Command

/-!
# Operations

From the options of an invocation to one operation on the bus.

* `Options`: what was asked for, unchecked.
* `Operation`: a command with exactly the parameters that it needs, all in range.
* `Options.validate`: checks the options against the requirements of the command. The first
  violated check decides: command, unit, zone, timers. Unused parameters are ignored.
* `ValidationError`: why options are no operation.
-/

namespace Irrigation

/-- The options of an invocation, before any check. -/
structure Options where
  device : String
  command : Option String
  unit : Option Int
  zone : Option Int
  timers : Option TimerList
  verbose : Bool
  deriving Repr, DecidableEq

/-- Why options describe no operation. -/
inductive ValidationError
  | missingCommand
  | unknownCommand (text : String)
  | missingUnit (command : Command)
  | unitOutOfRange (number : Int)
  | missingZone (command : Command)
  | zoneOutOfRange (number : Int)
  | missingTimers (command : Command)
  deriving Repr, DecidableEq

/-- The text of the error. -/
def ValidationError.message : ValidationError → String
  | .missingCommand => "no command given"
  | .unknownCommand text => "unknown command: " ++ text
  | .missingUnit command => command.keyword ++ " requires a unit (-u)"
  | .unitOutOfRange number => "unit " ++ number.repr ++ " out of range (1-254)"
  | .missingZone command => command.keyword ++ " requires a zone (-z)"
  | .zoneOutOfRange number => "zone " ++ number.repr ++ " out of range (1-8)"
  | .missingTimers command => command.keyword ++ " requires all 8 timers (-t)"

/-- The unit of a number, or the error that names the number. -/
def UnitId.ofInt (number : Int) : Except ValidationError UnitId :=
  match UnitId.ofInt? number with
  | some unit => .ok unit
  | none => .error (.unitOutOfRange number)

/-- The zone of a number, or the error that names the number. -/
def Zone.ofInt (number : Int) : Except ValidationError Zone :=
  match Zone.ofInt? number with
  | some zone => .ok zone
  | none => .error (.zoneOutOfRange number)

/-- A command with the parameters it needs. -/
inductive Operation
  | on (unit : UnitId) (zone : Zone)
  | off (unit : UnitId) (zone : Zone)
  | allOff (unit : UnitId)
  | status (unit : UnitId) (zone : Option Zone)
  | globalAllOff
  | comCheck
  | getTimers (unit : UnitId)
  | setTimers (unit : UnitId) (timers : TimerList)
  deriving Repr, DecidableEq

namespace Operation

/-- The command of the operation. -/
def command : Operation → Command
  | on .. => .on
  | off .. => .off
  | allOff .. => .allOff
  | status .. => .status
  | globalAllOff => .globalAllOff
  | comCheck => .comCheck
  | getTimers .. => .getTimers
  | setTimers .. => .setTimers

/-- The unit the operation addresses, if it addresses one. -/
def unit? : Operation → Option UnitId
  | on unit _ | off unit _ | allOff unit | status unit _ | getTimers unit | setTimers unit _ =>
    some unit
  | globalAllOff | comCheck => none

/-- The zone the operation addresses, if it addresses one. -/
def zone? : Operation → Option Zone
  | on _ zone | off _ zone => some zone
  | status _ zone => zone
  | _ => none

/-- The timers the operation writes, if it writes any. -/
def timers? : Operation → Option TimerList
  | setTimers _ timers => some timers
  | _ => none

end Operation

/-- Applies a requirement to a parameter: the value to go on with, or `missing`. -/
def Requirement.check {α ε : Type} (requirement : Requirement) (missing : ε) :
    Option α → Except ε (Option α) :=
  fun value =>
    match requirement, value with
    | .required, none => .error missing
    | .unused, _ => .ok none
    | _, value => .ok value

/-- Applies a range check to a parameter that may be absent. -/
def checkRange {α β ε : Type} (check : α → Except ε β) : Option α → Except ε (Option β)
  | none => .ok none
  | some value => (check value).map some

/-- A parameter that has to be there. -/
def orMissing {α ε : Type} (missing : ε) : Option α → Except ε α
  | none => .error missing
  | some value => .ok value

/-- The operation of a command with checked parameters. -/
def Command.operation (command : Command) (unit : Option UnitId) (zone : Option Zone)
    (timers : Option TimerList) : Except ValidationError Operation :=
  let unit := orMissing (.missingUnit command) unit
  match command with
  | .on => do return .on (← unit) (← orMissing (.missingZone command) zone)
  | .off => do return .off (← unit) (← orMissing (.missingZone command) zone)
  | .allOff => do return .allOff (← unit)
  | .status => do return .status (← unit) zone
  | .globalAllOff => .ok .globalAllOff
  | .comCheck => .ok .comCheck
  | .getTimers => do return .getTimers (← unit)
  | .setTimers => do return .setTimers (← unit) (← orMissing (.missingTimers command) timers)

namespace Options

/-- The command that the options name. -/
def readCommand (options : Options) : Except ValidationError Command :=
  match options.command with
  | none => .error .missingCommand
  | some text =>
    match Command.ofKeyword? text with
    | none => .error (.unknownCommand text)
    | some command => .ok command

/-- The operation that the options describe. -/
def validate (options : Options) : Except ValidationError Operation := do
  let command ← options.readCommand
  let needs := command.requirements
  let unit ← needs.unit.check (.missingUnit command) options.unit
  let unit ← checkRange UnitId.ofInt unit
  let zone ← needs.zone.check (.missingZone command) options.zone
  let zone ← checkRange Zone.ofInt zone
  let timers ← needs.timers.check (.missingTimers command) options.timers
  command.operation unit zone timers

end Options

end Irrigation
