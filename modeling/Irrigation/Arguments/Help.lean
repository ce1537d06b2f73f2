import Irrigation.Terminal.Style

/-!
# Help

* `HelpRow`: an option with its explanation; `helpRows` lists them all.
* `helpText`: the complete help text.
* `versionText`: the name and the version.
-/

namespace Irrigation

/-- An option in the help text. -/
structure HelpRow where
  letter : Option Char := none
  longName : Option String := none
  /-- What follows the names: a word for the value, or dots. -/
  tail : String := ""
  explanation : String
  deriving Repr, DecidableEq

/-- The options in the order of the help text. -/
def helpRows : List HelpRow :=
  [{ letter := some 'd', tail := " <DEVICE>"
     explanation :=
       "Serial device the bus is attached to [default: /dev/ttyUSB0, or from config]" },
   { letter := some 'c', tail := " <COMMAND>"
     explanation :=
       "One of: on, off, alloff, status, galloff, comcheck, gettimers, settimers" },
   { letter := some 'u', tail := " <UNIT>", explanation := "Unit number (1-254)" },
   { letter := some 'z', tail := " <ZONE>", explanation := "Zone number (1-8)" },
   { letter := some 't', tail := " <T1,...,T8>"
     explanation := "All 8 zone timers, comma separated, each 1-255" },
   { letter := some 'v', tail := "..."
     explanation := "Print diagnostics (-vv for debug output)" },
   { longName := some "show-config"
     explanation := "Print the effective configuration and exit" },
   { longName := some "completions", tail := " <SHELL>"
     explanation := "Generate shell completions and exit " ++
       "[possible values: bash, elvish, fish, powershell, zsh]" },
   { letter := some 'h', longName := some "help", explanation := "Print help" },
   { letter := some 'V', longName := some "version", explanation := "Print version" }]

namespace HelpRow

/-- The names of the option. A long name stands in its column also where there is no letter. -/
def names (colour : Bool) (row : HelpRow) : String :=
  let letter := row.letter.map fun c => Style.bold.paint colour (String.ofList ['-', c])
  let longName := row.longName.map fun name => Style.bold.paint colour ("--" ++ name)
  (match letter, longName with
    | some letter, some longName => letter ++ ", " ++ longName
    | some letter, none => letter
    | none, some longName => "    " ++ longName
    | none, none => "") ++ row.tail

/-- The width of the names on the screen. -/
def width (row : HelpRow) : Nat := (row.names false).length

/-- The line for the option, with the names padded to a width. -/
def line (colour : Bool) (column : Nat) (row : HelpRow) : String :=
  "  " ++ row.names colour ++ String.ofList (List.replicate (column - row.width) ' ') ++ "  " ++
    row.explanation ++ "\n"

end HelpRow

/-- What the program is for. -/
def purpose : String :=
  "Command-line controller for Rain8Net 8-zone irrigation valve modules on a serial bus"

/-- The lines about the commands and the exit status. -/
def helpNotes : List String :=
  ["Commands:",
   "  on, off      switch one zone          requires -u and -z",
   "  alloff       close all zones of unit  requires -u",
   "  status       read zone state          requires -u, -z optional",
   "  galloff      close all zones on bus",
   "  comcheck     check a unit answers",
   "  gettimers    read zone timers         requires -u",
   "  settimers    write zone timers        requires -u and -t",
   "",
   "Exit status:",
   "  0 or an error code for on/off/alloff/galloff/comcheck/gettimers/settimers",
   "  0 (off) or 1 (on) for status with -z",
   "  64 for invalid arguments"]

/-- The help text. The explanations stand in one column, behind the longest names. -/
def helpText (colour : Bool) : String :=
  let column := (helpRows.map HelpRow.width).foldl max 0
  purpose ++ "\n\n" ++
    Style.heading.paint colour "Usage:" ++ " " ++ Style.bold.paint colour "rain8net" ++
    " [OPTIONS]\n\n" ++
    Style.heading.paint colour "Options:" ++ "\n" ++
    String.join (helpRows.map (HelpRow.line colour column)) ++ "\n" ++
    String.join (helpNotes.map (· ++ "\n"))

/-- The name and the version. -/
def versionText : String := "rain8net 0.1.0\n"

end Irrigation
