/-!
# Commands

What the controller can be asked to do.

* `Command`: the eight commands; `Command.all` lists them.
* `Command.keyword`, `Command.ofKeyword?`: the word for a command, in which the case of ASCII
  letters does not matter.
* `Command.requirements`: which parameters a command needs, takes or ignores.
-/

namespace Irrigation

/-- What the controller can be asked to do. -/
inductive Command
  | on
  | off
  | allOff
  | status
  | globalAllOff
  | comCheck
  | getTimers
  | setTimers
  deriving Repr, DecidableEq

/-- How a command treats a parameter. -/
inductive Requirement
  | required
  | optional
  | unused
  deriving Repr, DecidableEq

/-- How a command treats each of the three parameters. -/
structure Requirements where
  unit : Requirement
  zone : Requirement
  timers : Requirement
  deriving Repr, DecidableEq

namespace Command

/-- Every command. -/
def all : List Command :=
  [on, off, allOff, status, globalAllOff, comCheck, getTimers, setTimers]

/-- The word for a command, in lower case. -/
def keyword : Command → String
  | on => "on"
  | off => "off"
  | allOff => "alloff"
  | status => "status"
  | globalAllOff => "galloff"
  | comCheck => "comcheck"
  | getTimers => "gettimers"
  | setTimers => "settimers"

/-- The command of a word, whatever the case of its ASCII letters. -/
def ofKeyword? (text : String) : Option Command :=
  all.find? fun command => command.keyword.toList = text.toList.map Char.toLower

/-- What a command needs, takes and ignores. -/
def requirements : Command → Requirements
  | on | off => ⟨.required, .required, .unused⟩
  | allOff | getTimers => ⟨.required, .unused, .unused⟩
  | status => ⟨.required, .optional, .unused⟩
  | globalAllOff | comCheck => ⟨.unused, .unused, .unused⟩
  | setTimers => ⟨.required, .unused, .required⟩

end Command

end Irrigation
