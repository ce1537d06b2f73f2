import Irrigation.Arguments.Basic
import Irrigation.Timers.Token

/-!
# Reading arguments

The words are read from left to right.

* `ArgumentScan`: the values so far, and the last option with a value, which is checked only when
  the next option is met or the words end. So an unexpected word wins over a bad value before it.
* `ArgumentScan.step`: reads one word. `--` ends the options, a word of the form `--name` or
  `--name=value` is one option, any other word that begins with `-` holds letters of options, and
  all else is the value that the last option waits for.
* `Arguments.parse`: reads all words.

A letter of an option with a value takes the rest of its word as the value, without one leading
`=`. The options `-u` and `-z` also wait for negative numbers.
-/

namespace Irrigation

/-- Whether a text looks like an unsigned number: digits, perhaps a point and more digits, perhaps
an exponent. -/
def isNumberLike (chars : List Char) : Bool :=
  let fraction :=
    match chars.dropWhile Char.isDigit with
    | '.' :: rest => rest.dropWhile Char.isDigit
    | rest => rest
  chars.head?.any Char.isDigit &&
    match fraction with
    | [] => true
    | c :: exponent => (c = 'e' || c = 'E') && !exponent.isEmpty && exponent.all Char.isDigit

/-- Whether values that begin with a minus sign are numbers for the option. -/
def ValueOption.takesNumber : ValueOption → Bool
  | unit | zone => true
  | _ => false

namespace Arguments

/-- Whether the option has a value. -/
def isGiven (arguments : Arguments) : ValueOption → Bool
  | .device => arguments.device.isSome
  | .command => arguments.command.isSome
  | .unit => arguments.unit.isSome
  | .zone => arguments.zone.isSome
  | .timers => arguments.timers.isSome
  | .completions => arguments.completions.isSome

/-- Gives an option the value that a text stands for. -/
def assign (arguments : Arguments) : ValueOption → String → Except ArgumentError Arguments
  | .device, text => .ok { arguments with device := some text }
  | .command, text => .ok { arguments with command := some text }
  | .unit, text =>
    match readInt64 text with
    | .ok number => .ok { arguments with unit := some number }
    | .error reason => .error (.invalidNumber .unit text reason)
  | .zone, text =>
    match readInt64 text with
    | .ok number => .ok { arguments with zone := some number }
    | .error reason => .error (.invalidNumber .zone text reason)
  | .timers, text =>
    match TimerList.parse text with
    | .ok timers => .ok { arguments with timers := some timers }
    | .error reason => .error (.invalidTimers text reason)
  | .completions, text =>
    match Shell.ofWord? text with
    | some shell => .ok { arguments with completions := some shell }
    | none => .error (if text = "" then .missingValue .completions else .unknownShell text)

/-- Gives an option its only value. -/
def store (arguments : Arguments) (option : ValueOption) (text : String) :
    Except ArgumentError Arguments :=
  if arguments.isGiven option then .error (.repeated (.value option))
  else arguments.assign option text

/-- Carries out a switch. -/
def apply (arguments : Arguments) : Switch → Except ArgumentStop Arguments
  | .verbose => .ok { arguments with verbosity := min (arguments.verbosity + 1) maxVerbosity }
  | .showConfig =>
    if arguments.showConfig then .error (.refused (.repeated (.switch .showConfig)))
    else .ok { arguments with showConfig := true }
  | .help => .error .help
  | .version => .error .version

end Arguments

/-- An option whose value is not stored yet, or has not come yet. -/
structure PendingOption where
  option : ValueOption
  value : Option String
  deriving Repr, DecidableEq

/-- What has been read of the words. -/
structure ArgumentScan where
  settled : Arguments := {}
  pending : Option PendingOption := none
  optionsEnded : Bool := false
  deriving Repr, DecidableEq

namespace ArgumentScan

/-- The values once the pending option is stored. -/
def settle (scan : ArgumentScan) : Except ArgumentError Arguments :=
  match scan.pending with
  | none => .ok scan.settled
  | some ⟨option, none⟩ => .error (.missingValue option)
  | some ⟨option, some text⟩ => scan.settled.store option text

/-- The values once the pending option is stored, as a step on the way. -/
def settleOrStop (scan : ArgumentScan) : Except ArgumentStop Arguments :=
  scan.settle.mapError .refused

/-- Whether the next word is a value if it looks like a negative number. -/
def awaitsNumber (scan : ArgumentScan) : Bool :=
  match scan.pending with
  | some ⟨option, none⟩ => option.takesNumber
  | _ => false

/-- Meets an option with a value: the value is attached to it or has to follow. -/
def meet (scan : ArgumentScan) (option : ValueOption) (attached : Option String) :
    Except ArgumentStop ArgumentScan := do
  let settled ← scan.settleOrStop
  match attached with
  | none => return { settled, pending := some ⟨option, none⟩ }
  | some text => return { settled := ← (settled.store option text).mapError .refused }

/-- Meets a switch. -/
def meetSwitch (scan : ArgumentScan) (switch : Switch) : Except ArgumentStop ArgumentScan := do
  return { settled := ← (← scan.settleOrStop).apply switch }

/-- Takes a word as the value that the pending option waits for. -/
def supply (scan : ArgumentScan) (word : String) : Except ArgumentStop ArgumentScan :=
  match scan.pending with
  | some ⟨option, none⟩ => .ok { scan with pending := some ⟨option, some word⟩ }
  | _ => .error (.refused (.unexpected word))

/-- The value that the rest of a word gives to the letter before it. -/
def attachedValue : List Char → Option String
  | [] => none
  | '=' :: value => some (String.ofList value)
  | value => some (String.ofList value)

/-- Reads letters of options. -/
def readLetters (scan : ArgumentScan) : List Char → Except ArgumentStop ArgumentScan
  | [] => .ok scan
  | letter :: rest =>
    match OptionName.ofLetter? letter with
    | none => .error (.refused (.unexpected (String.ofList ['-', letter])))
    | some (.value option) => scan.meet option (attachedValue rest)
    | some (.switch switch) =>
      match scan.meetSwitch switch with
      | .error stop => .error stop
      | .ok next => next.readLetters rest

/-- Reads a long name with or without a value. -/
def readLong (scan : ArgumentScan) (chars : List Char) : Except ArgumentStop ArgumentScan :=
  let name := String.ofList (chars.takeWhile (· ≠ '='))
  let attached :=
    match chars.dropWhile (· ≠ '=') with
    | [] => none
    | _ :: value => some (String.ofList value)
  match OptionName.ofLongName? name, attached with
  | none, _ => .error (.refused (.unexpected ("--" ++ name)))
  | some (.value option), attached => scan.meet option attached
  | some (.switch switch), some text => .error (.refused (.surplusValue switch text))
  | some (.switch switch), none => scan.meetSwitch switch

/-- Reads one word. -/
def step (scan : ArgumentScan) (word : String) : Except ArgumentStop ArgumentScan :=
  if scan.optionsEnded then .error (.refused (.unexpected word))
  else
    match word.toList with
    | ['-', '-'] => .ok { scan with optionsEnded := true }
    | '-' :: '-' :: rest => scan.readLong rest
    | '-' :: c :: rest =>
      if scan.awaitsNumber && isNumberLike (c :: rest) then scan.supply word
      else scan.readLetters (c :: rest)
    | _ => scan.supply word

end ArgumentScan

/-- Reads all words. -/
def Arguments.parse (words : List String) : Except ArgumentStop Arguments := do
  let scan ← words.foldlM ArgumentScan.step {}
  scan.settleOrStop

end Irrigation
