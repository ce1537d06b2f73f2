import Irrigation.Operation
import Irrigation.Settings.Basic
import Irrigation.Text.Number

/-!
# Arguments

What the words after the name of the program say.

* `ValueOption`, `Switch`: the options, with a value and without. `OptionName` joins the two;
  `OptionName.ofLetter?` and `OptionName.ofLongName?` find an option.
* `Arguments`: the values that were given.
* `Arguments.options`: the options of the invocation, where the device falls back on the settings.
* `ArgumentError`, `ArgumentStop`: why words are not read to the end.
-/

namespace Irrigation

/-- The shells that have a completion script. -/
inductive Shell
  | bash
  | elvish
  | fish
  | powershell
  | zsh
  deriving Repr, DecidableEq

namespace Shell

/-- Every shell. -/
def all : List Shell := [bash, elvish, fish, powershell, zsh]

/-- The word for a shell. -/
def word : Shell → String
  | bash => "bash"
  | elvish => "elvish"
  | fish => "fish"
  | powershell => "powershell"
  | zsh => "zsh"

/-- The name of a shell in a sentence. -/
def title : Shell → String
  | bash => "Bash"
  | elvish => "Elvish"
  | fish => "Fish"
  | powershell => "PowerShell"
  | zsh => "Zsh"

/-- The shell of exactly this word. -/
def ofWord? (word : String) : Option Shell := all.find? (·.word = word)

end Shell

/-- The options that take a value. -/
inductive ValueOption
  | device
  | command
  | unit
  | zone
  | timers
  | completions
  deriving Repr, DecidableEq

/-- The options that take none. -/
inductive Switch
  | verbose
  | showConfig
  | help
  | version
  deriving Repr, DecidableEq

/-- An option of either kind. -/
inductive OptionName
  | value (option : ValueOption)
  | switch (option : Switch)
  deriving Repr, DecidableEq

/-- The option in a diagnostic, with a word for its value. -/
def ValueOption.label : ValueOption → String
  | device => "-d <DEVICE>"
  | command => "-c <COMMAND>"
  | unit => "-u <UNIT>"
  | zone => "-z <ZONE>"
  | timers => "-t <T1,...,T8>"
  | completions => "--completions <SHELL>"

/-- The option in a diagnostic. -/
def Switch.label : Switch → String
  | verbose => "-v..."
  | showConfig => "--show-config"
  | help => "--help"
  | version => "--version"

namespace OptionName

/-- The option in a diagnostic. -/
def label : OptionName → String
  | .value option => option.label
  | .switch option => option.label

/-- The option of a letter. -/
def ofLetter? : Char → Option OptionName
  | 'd' => some (value .device)
  | 'c' => some (value .command)
  | 'u' => some (value .unit)
  | 'z' => some (value .zone)
  | 't' => some (value .timers)
  | 'v' => some (switch .verbose)
  | 'h' => some (switch .help)
  | 'V' => some (switch .version)
  | _ => none

/-- The option of a long name. -/
def ofLongName? (name : String) : Option OptionName :=
  if name = "completions" then some (value .completions)
  else if name = "show-config" then some (switch .showConfig)
  else if name = "help" then some (switch .help)
  else if name = "version" then some (switch .version)
  else none

end OptionName

/-- The values that the words give. -/
structure Arguments where
  device : Option String := none
  command : Option String := none
  unit : Option Int := none
  zone : Option Int := none
  timers : Option TimerList := none
  verbosity : Nat := 0
  showConfig : Bool := false
  completions : Option Shell := none
  deriving Repr, DecidableEq

namespace Arguments

/-- The greatest verbosity; more requests for diagnostics change nothing. -/
def maxVerbosity : Nat := 255

/-- The options of the invocation. A device that was given is taken as it is. -/
def options (arguments : Arguments) (settings : Settings) : Options where
  device := arguments.device.getD settings.device
  command := arguments.command
  unit := arguments.unit
  zone := arguments.zone
  timers := arguments.timers
  verbose := 0 < arguments.verbosity

end Arguments

/-- Why the words cannot be read. -/
inductive ArgumentError
  | unexpected (word : String)
  | missingValue (option : ValueOption)
  | invalidNumber (option : ValueOption) (text : String) (reason : NumberError)
  | invalidTimers (text : String) (reason : TimerError)
  | unknownShell (text : String)
  | surplusValue (switch : Switch) (text : String)
  | repeated (option : OptionName)
  deriving Repr, DecidableEq

/-- What ends the reading before the last word: a request that is answered at once, or an
error. -/
inductive ArgumentStop
  | help
  | version
  | refused (error : ArgumentError)
  deriving Repr, DecidableEq

end Irrigation
