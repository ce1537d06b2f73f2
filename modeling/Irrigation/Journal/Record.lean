import Irrigation.Dispatch
import Irrigation.Journal.Basic
import Irrigation.Settings.Basic
import Irrigation.Text.Duration
import Irrigation.Timers.Token

/-!
# Records

What an invocation notes, in order: that details are shown, the settings, the device that it opens,
that it is open, the operation, how it ended, and the end of the two activities around it.

* `Operation.describe`: an operation with its parameters, as it stands in a record.
* `Operation.opening`, `Outcome.closing`: the texts before and after an operation.
* `Journal.beforeReport`, `Journal.afterReport`: the lines around the report of an operation.
-/

namespace Irrigation

namespace Operation

/-- A name with fields in braces. -/
def withFields (name : String) (fields : List (String × String)) : String :=
  name ++ " \x7b " ++ ", ".intercalate (fields.map fun (field, value) => field ++ ": " ++ value) ++
    " \x7d"

/-- A unit in a record. -/
def describeUnit (unit : UnitId) : String × String := ("unit", "Unit(" ++ unit.render ++ ")")

/-- A zone in a record. -/
def describeZone (zone : Zone) : String := "Zone(" ++ zone.render ++ ")"

/-- A zone that may be absent in a record. -/
def describeZone? : Option Zone → String
  | none => "None"
  | some zone => "Some(" ++ describeZone zone ++ ")"

/-- Timers in a record. -/
def describeTimers (timers : TimerList) : String :=
  "TimerList([" ++ ", ".intercalate (timers.toList.map fun v => decimal v.toNat) ++ "])"

/-- The operation with its parameters. -/
def describe : Operation → String
  | on unit zone => withFields "On" [describeUnit unit, ("zone", describeZone zone)]
  | off unit zone => withFields "Off" [describeUnit unit, ("zone", describeZone zone)]
  | allOff unit => withFields "AllOff" [describeUnit unit]
  | status unit zone => withFields "Status" [describeUnit unit, ("zone", describeZone? zone)]
  | globalAllOff => "GlobalAllOff"
  | comCheck => "ComCheck"
  | getTimers unit => withFields "GetTimers" [describeUnit unit]
  | setTimers unit timers =>
    withFields "SetTimers" [describeUnit unit, ("timers", describeTimers timers)]

/-- What is noted before the operation. -/
def opening : Operation → String
  | on unit zone => "ON -- Unit:[" ++ unit.render ++ "] Zone:[" ++ zone.render ++ "]"
  | off unit zone => "OFF -- Unit:[" ++ unit.render ++ "] Zone:[" ++ zone.render ++ "]"
  | allOff unit => "ALLOFF -- Unit:[" ++ unit.render ++ "]"
  | status unit _ => "STATUS -- Unit:[" ++ unit.render ++ "]"
  | globalAllOff => "GALLOFF -- Unit:[All] Zone:[All]"
  | comCheck => "COMCHECK"
  | getTimers unit => "GETTIMERS -- Unit:[" ++ unit.render ++ "]"
  | setTimers unit timers =>
    "SETTIMERS -- Unit:[" ++ unit.render ++ "] Timers:[" ++ timers.render ++ "]"

/-- The activity of an operation with its report. -/
def activity (operation : Operation) : Activity :=
  ⟨"run_operation", [("operation", operation.describe)]⟩

/-- The activity of the call on the bus. -/
def callActivity (operation : Operation) : Activity :=
  ⟨"execute", [("operation", operation.describe), ("command", operation.command.keyword)]⟩

end Operation

/-- What is noted after an operation. -/
def Outcome.closing (command : Command) : Outcome → String
  | succeeded _ => command.keyword ++ " succeeded"
  | failed error => command.keyword ++ " failed: " ++ error.message

namespace Record

/-- The part of the program that runs an invocation. -/
def invocationSource : String := "rain8net::cli::commands"

/-- The part of the program that carries out operations. -/
def dispatchSource : String := "rain8net::application::dispatch"

/-- Details are shown. -/
def detailed : Record := ⟨.detail, [], "rain8net", "Debug mode: debug"⟩

/-- The settings are loaded. -/
def loaded (settings : Settings) : Record :=
  ⟨.detail, [], invocationSource,
    "settings: Settings \x7b device: " ++ quoteText settings.device ++ ", response_timeout_ms: " ++
      decimal settings.timeoutMs ++ " \x7d"⟩

/-- A device is about to be opened. -/
def opens (device : String) (timeoutMs : Nat) : Record :=
  ⟨.detail, [], "rain8net::infrastructure::rain8",
    "open: device=" ++ device ++ " timeout=" ++ durationText timeoutMs⟩

/-- The device is open. -/
def opened (device : String) : Record :=
  ⟨.event, [], invocationSource, "Opened Rain8Net device:[" ++ device ++ "] successfully."⟩

/-- Something within the call of an operation. -/
def ofCall (kind : RecordKind) (operation : Operation) (text : String) : Record :=
  ⟨kind, [operation.activity, operation.callActivity], dispatchSource, text⟩

/-- The end of an operation with its report. -/
def ended (operation : Operation) : Record :=
  ⟨.ending, [operation.activity], invocationSource, "close"⟩

end Record

namespace Journal

/-- The lines before the report: the call with its outcome. -/
def beforeReport (journal : Journal) (operation : Operation) (outcome : Outcome) : String :=
  journal.note (.ofCall .event operation operation.opening) ++
    journal.note (.ofCall .event operation (outcome.closing operation.command)) ++
    journal.note (.ofCall .ending operation "close")

/-- The lines behind the report. -/
def afterReport (journal : Journal) (operation : Operation) : String :=
  journal.note (.ended operation)

end Journal

end Irrigation
