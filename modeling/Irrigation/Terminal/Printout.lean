import Irrigation.Timers.Token
import Irrigation.Dispatch
import Irrigation.Terminal.Style

/-!
# Printouts

What an invocation prints, as two texts.

* `Printout`: the text for standard output and the text for standard error; `++` joins printouts.
* `Outcome.printout`: the report or the failure of an operation. A failure goes to standard error
  and leaves standard output empty.
* `Printout.error`: the message of an error that ends an invocation.
-/

namespace Irrigation

/-- The texts for the two output streams. -/
structure Printout where
  stdout : String := ""
  stderr : String := ""
  deriving Repr, DecidableEq

namespace Printout

instance : Append Printout where
  append first second := ⟨first.stdout ++ second.stdout, first.stderr ++ second.stderr⟩

/-- Lines for standard output. -/
def lines (lines : List String) : Printout := { stdout := String.join (lines.map (· ++ "\n")) }

/-- One line for standard error. -/
def complaint (line : String) : Printout := { stderr := line ++ "\n" }

/-- The message of an error that ends an invocation. -/
def error (colour : Bool) (message : String) : Printout :=
  complaint (Style.boldRed.paint colour "error" ++ ": " ++ message)

end Printout

/-- The line for the state of a zone. -/
def zoneLine (colour : Bool) (zone : Zone) (on : Bool) : String :=
  let state := if on then Style.boldGreen.paint colour "on" else Style.yellow.paint colour "off"
  "zone " ++ zone.render ++ ": " ++ state

/-- The lines of a report. -/
def Report.lines (colour verbose : Bool) : Report → List String
  | done => []
  | zoneState zone on => [zoneLine colour zone on]
  | mask states => Zone.all.map fun zone => zoneLine colour zone (states.isOn zone)
  | timers times =>
    if verbose then
      times.entries.map fun (zone, value) =>
        "  zone " ++ zone.render ++ ": " ++ Style.cyan.paint colour (decimal value.toNat)
    else [times.render]
  | online => if verbose then ["At least 1 unit is online."] else []

/-- What is printed at the end of an operation. -/
def Outcome.printout (colour verbose : Bool) : Outcome → Printout
  | succeeded report =>
    .lines (report.lines colour verbose ++
      if verbose then [Style.green.paint colour "✓" ++ " SUCCESS"] else [])
  | failed error => .complaint (Style.red.paint colour "FAIL" ++ ": " ++ error.message)

end Irrigation
