import Irrigation.DevicePath
import Irrigation.Settings.Basic
import Irrigation.Toml.Reader

/-!
# Loading settings

Each setting comes from the highest layer that names it: the environment, the settings file, the
defaults. The two settings are chosen independently of each other.

* `SettingsFile`: what there is at the place of the file.
* `Overlay`: settings of one layer, each of them given or not; `Settings.overlaid` lays it over
  other settings.
* `Overlay.ofFile`, `Overlay.ofEnvironment`: the layers.
* `Settings.load`: lays the layers over the defaults, expands the device path and checks the
  result. The first error decides: the file, the environment, the device, the time.
-/

namespace Irrigation

/-- What there is at the place of a settings file: nothing, something that cannot be read, or
bytes. A diagnosis of these says in words where they are malformed. -/
inductive SettingsFile
  | absent
  | unreadable (reason : String)
  | bytes (content : ByteArray) (diagnosis : Option String := none)

/-- Settings of one layer. -/
structure Overlay where
  device : Option String := none
  timeoutMs : Option Nat := none
  deriving Repr, DecidableEq

/-- Settings with those of a layer laid over them. -/
def Settings.overlaid (settings : Settings) (overlay : Overlay) : Settings where
  device := overlay.device.getD settings.device
  timeoutMs := overlay.timeoutMs.getD settings.timeoutMs

namespace Overlay

/-! ## The settings file -/

/-- Adds an entry. It has to be one of the two settings, not given before, with a value that
fits. -/
def insertEntry (overlay : Overlay) : TomlEntry → Option Overlay
  | (key, value) =>
    if key = Settings.deviceKey then
      match overlay.device, value with
      | none, .text text => some { overlay with device := some text }
      | _, _ => none
    else if key = Settings.timeoutKey then
      match overlay.timeoutMs, value with
      | none, .integer (.ofNat n) => some { overlay with timeoutMs := some n }
      | _, _ => none
    else none

/-- The layer that a text describes. -/
def ofToml? (text : String) : Option Overlay :=
  (readToml? text).bind fun entries => entries.foldlM insertEntry {}

/-- The layer of a settings file. A file that is not there gives nothing. -/
def ofFile (path : String) : SettingsFile → Except SettingsError Overlay
  | .absent => .ok {}
  | .unreadable reason => .error (.unreadableFile path reason)
  | .bytes content diagnosis =>
    match String.fromUTF8? content with
    | none => .error (.unreadableFile path "stream did not contain valid UTF-8")
    | some text =>
      match ofToml? text with
      | none => .error (.malformedFile path diagnosis)
      | some overlay => .ok overlay

/-! ## The environment -/

/-- The last variable for a key: the parts that its name has behind the key, and its text. -/
def lastFor? (environment : Environment) (key : String) : Option (List KeyPart × String) :=
  environment.reverse.findSome? fun (name, text) =>
    match KeyPath.ofName? name with
    | some path => if path.key = key then some (path.parts, text) else none
    | none => none

/-- A time from a variable. Words for yes and no stand for 1 and 0. -/
def readTimeout (text : String) : Except SettingsError Nat :=
  let word := String.ofList (text.toList.map Char.toLower)
  if word = "true" ∨ word = "on" ∨ word = "yes" then .ok 1
  else if word = "false" ∨ word = "off" ∨ word = "no" then .ok 0
  else (readNat64 text).mapError fun _ => .timeoutVariable text

/-- The time that the environment gives. A map or a sequence is no time. -/
def timeoutOf (environment : Environment) : Except SettingsError (Option Nat) :=
  match lastFor? environment Settings.timeoutKey with
  | none => .ok none
  | some ([], text) => (readTimeout text).map some
  | some (part :: _, _) => .error (.timeoutParts part)

/-- The device that the environment gives. A map or a sequence gives none. -/
def deviceOf (environment : Environment) : Option String :=
  match lastFor? environment Settings.deviceKey with
  | some ([], text) => some text
  | _ => none

/-- The layer of the environment. -/
def ofEnvironment (environment : Environment) : Except SettingsError Overlay := do
  return { device := deviceOf environment, timeoutMs := ← timeoutOf environment }

end Overlay

namespace Settings

/-- The settings that a file and the environment lead to, with the home directory on record for the
account. -/
def load (path : String) (file : SettingsFile) (environment : Environment)
    (account : Option String := none) : Except SettingsError Settings := do
  let fromFile ← Overlay.ofFile path file
  let fromEnvironment ← Overlay.ofEnvironment environment
  let settings := (default.overlaid fromFile).overlaid fromEnvironment
  check { settings with device := expandPath environment settings.device account }

end Settings

end Irrigation
