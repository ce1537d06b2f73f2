import Irrigation.Settings.VariableName
import Irrigation.Text.Blank
import Irrigation.Text.Quoted
import Irrigation.Toml.Writer

/-!
# Settings

* `Settings`: the device that the bus is attached to, and how long to wait for an answer.
* `Settings.check`: the settings that can be used: a device that is not blank, and a time that is
  not zero.
* `Settings.toToml`: the settings as a file.
* `SettingsError`: why settings cannot be used or shown.
-/

namespace Irrigation

/-- The settings of the controller. -/
structure Settings where
  device : String
  /-- How long to wait for an answer, in milliseconds. -/
  timeoutMs : Nat
  deriving Repr, DecidableEq

/-- Why settings cannot be used or shown. -/
inductive SettingsError
  | unreadableFile (path reason : String)
  | malformedFile (path : String) (diagnosis : Option String)
  | timeoutVariable (text : String)
  | timeoutParts (part : KeyPart)
  | blankDevice
  | zeroTimeout
  | unwritableTimeout
  deriving Repr, DecidableEq

/-- The kind of value that has such a part. -/
def KeyPart.container : KeyPart → String
  | .member _ => "map"
  | .item _ => "sequence"

/-- The text of the error. The diagnosis of a malformed file stands behind its path, where there is
one. -/
def SettingsError.message (error : SettingsError) : String :=
  "config error: " ++
    match error with
    | .unreadableFile path reason => "read " ++ path ++ ": " ++ reason
    | .malformedFile path diagnosis => ": ".intercalate (("parse " ++ path) :: diagnosis.toList)
    | .timeoutVariable text =>
      "invalid type: string " ++ quoteText text ++
        ", expected an integer for key `response_timeout_ms` in the environment"
    | .timeoutParts part =>
      "invalid type: " ++ part.container ++ ", expected an integer for key `response_timeout_ms`"
    | .blankDevice => "device must not be empty"
    | .zeroTimeout => "response_timeout_ms must be greater than 0"
    | .unwritableTimeout => "serialize config: out-of-range value for u64 type"

namespace Settings

/-- The key of the device. -/
def deviceKey : String := "device"

/-- The key of the time to wait. -/
def timeoutKey : String := "response_timeout_ms"

/-- The settings where nothing else is said. -/
def default : Settings := ⟨"/dev/ttyUSB0", 1000⟩

/-- Settings that can be used: the device is checked first, then the time. -/
def check (settings : Settings) : Except SettingsError Settings :=
  if isBlankText settings.device then .error .blankDevice
  else if settings.timeoutMs = 0 then .error .zeroTimeout
  else .ok settings

/-- The settings as a file of two entries. TOML has no integers from 2^63 on. -/
def toToml (settings : Settings) : Except SettingsError String :=
  if settings.timeoutMs ≤ maxTomlInteger then
    .ok (String.ofList
      (writeTomlEntry deviceKey (writeTomlText settings.device) ++
        writeTomlEntry timeoutKey (Nat.toDigits 10 settings.timeoutMs)))
  else .error .unwritableTimeout

/-- The whole seconds of the time to wait. -/
def timeoutSeconds (settings : Settings) : Nat := settings.timeoutMs / 1000

/-- The rest of the time to wait, in nanoseconds. -/
def timeoutNanos (settings : Settings) : Nat := settings.timeoutMs % 1000 * 1000000

end Settings

end Irrigation
