import Irrigation.Bus.Client

/-!
# Dispatch

* `Operation.execute`: carries out an operation by exactly one call of a client, in any monad.
* `Report`: what a call that succeeded has to tell.
* `Outcome`: a report or the error of the call, unchanged; `Outcome.status` is its exit status.
-/

namespace Irrigation

/-- What a call that succeeded has to tell. -/
inductive Report
  | done
  | zoneState (zone : Zone) (on : Bool)
  | mask (mask : ZoneMask)
  | timers (timers : TimerList)
  | online
  deriving Repr, DecidableEq

/-- How an operation ended. -/
inductive Outcome
  | succeeded (report : Report)
  | failed (error : DeviceError)
  deriving Repr, DecidableEq

namespace Outcome

/-- The exit status: the answer to a query for one zone, or the status of the error. -/
def status : Outcome → ExitStatus
  | succeeded (.zoneState _ true) => .zoneOn
  | succeeded _ => .ok
  | failed error => error.status

/-- Whether the operation succeeded. -/
def isSuccess : Outcome → Bool
  | succeeded _ => true
  | failed _ => false

/-- The outcome of a call whose answer is reported as `report` says. -/
def ofAnswer {α : Type} (report : α → Report) : Except DeviceError α → Outcome
  | .ok answer => succeeded (report answer)
  | .error error => failed error

end Outcome

/-- The report for a mask: one zone of it if a zone was asked for, else all of it. -/
def Report.ofMask : Option Zone → ZoneMask → Report
  | some zone, states => .zoneState zone (states.isOn zone)
  | none, states => .mask states

namespace Operation

/-- Carries out an operation by one call of the client. -/
def execute {m : Type → Type} [Monad m] (client : DeviceClient m) : Operation → m Outcome
  | on unit zone => return .ofAnswer (fun _ => .done) (← client.zoneOn unit zone)
  | off unit zone => return .ofAnswer (fun _ => .done) (← client.zoneOff unit zone)
  | allOff unit => return .ofAnswer (fun _ => .done) (← client.allOff unit)
  | status unit zone => return .ofAnswer (Report.ofMask zone) (← client.readStatus unit)
  | globalAllOff => return .ofAnswer (fun _ => .done) (← client.globalAllOff)
  | comCheck => return .ofAnswer (fun _ => .online) (← client.comCheck)
  | getTimers unit => return .ofAnswer Report.timers (← client.readTimers unit)
  | setTimers unit timers => return .ofAnswer (fun _ => .done) (← client.writeTimers unit timers)

end Operation

end Irrigation
