import Irrigation.Proofs.ExceptLemmas
import Irrigation.Proofs.Settings.File
import Irrigation.Proofs.Text.Letters

/-!
# The layers of settings

What the environment says beside the settings file, and what comes of it.

* `Environment.Plain`: no name of a variable leads to settings other than the two plain ones.
  `Environment.Gives`: the layer of such variables.
* `Overlay.deviceOver`, `Overlay.timeoutOver`: the choice between the layers.
* `Settings.load_eq_ok_iff`, `Settings.load_eq_error_iff`: loading is both layers, the choice and
  the check.
* `Settings.Refused`: the first condition that fails. `settings_layered`: when settings are loaded,
  which they are, and with which error all else is refused.
-/

namespace Irrigation

/-! ## Names of variables -/

/-- The variable for the device. -/
def Settings.deviceVariable : String := "RAIN8NET_DEVICE"

/-- The variable for the time to wait. -/
def Settings.timeoutVariable : String := "RAIN8NET_RESPONSE_TIMEOUT_MS"

/-- The name begins with `RAIN8NET_`, in whatever case of letters. -/
def IsSettingsName (name : String) : Prop :=
  ∃ lead rest, name.toList = lead ++ rest ∧ List.Forall₂ SameLetter lead "RAIN8NET_".toList

namespace KeyPath

/-- Only of a K may the lower case differ from that in ASCII. -/
theorem lowerCase_eq_toLower {c : Char} (h : lowerCase c ≠ 'k') : lowerCase c = c.toLower := by
  unfold lowerCase at h ⊢
  split at h
  · exact absurd rfl h
  · next hc => exact if_neg hc

theorem isSettingsName_of_isPrefixOf {name : String}
    (h : nameLead.isPrefixOf (name.toList.map lowerCase)) : IsSettingsName name := by
  obtain ⟨behind, hbehind⟩ := List.isPrefixOf_iff_prefix.mp h
  obtain ⟨lead, rest, hname, hlead, -⟩ := List.map_eq_append_iff.mp hbehind.symm
  refine ⟨lead, rest, hname, ?_⟩
  have hk : 'k' ∉ nameLead := by decide
  have hlower : nameLead = "RAIN8NET_".toList.map Char.toLower := by decide
  have hascii : lead.map lowerCase = lead.map Char.toLower :=
    List.map_congr_left fun c hc =>
      lowerCase_eq_toLower fun heq => hk (hlead ▸ heq ▸ List.mem_map_of_mem hc)
  rw [hascii, hlower, ← List.forall₂_eq_eq_eq, List.forall₂_map_left_iff,
    List.forall₂_map_right_iff] at hlead
  exact hlead.imp fun _ _ => toLower_eq_toLower_iff.mp

/-- A name without the lead is no path. -/
theorem ofName?_eq_none {name : String} (h : ¬IsSettingsName name) : ofName? name = none := by
  unfold ofName?
  exact if_neg (mt isSettingsName_of_isPrefixOf h)

theorem ofName?_deviceVariable :
    ofName? Settings.deviceVariable = some ⟨Settings.deviceKey, []⟩ := by
  decide +kernel

theorem ofName?_timeoutVariable :
    ofName? Settings.timeoutVariable = some ⟨Settings.timeoutKey, []⟩ := by
  decide +kernel

end KeyPath

/-! ## The environment -/

namespace Environment

/-- The text of the last variable of a name. -/
def last? (environment : Environment) (name : String) : Option String :=
  environment.reverse.lookup name

/-- Of the names that begin with `RAIN8NET_`, in whatever case of letters, there are none but those
of the two settings. -/
def Plain (environment : Environment) : Prop :=
  ∀ name text, (name, text) ∈ environment → IsSettingsName name →
    name = Settings.deviceVariable ∨ name = Settings.timeoutVariable

/-- The environment gives a layer: the text for the device as it is, and the time that the text for
the time stands for. -/
structure Gives (environment : Environment) (layer : Overlay) : Prop where
  device : layer.device = environment.last? Settings.deviceVariable
  timeout : Option.Rel (fun text timeoutMs => Overlay.readTimeout text = .ok timeoutMs)
    (environment.last? Settings.timeoutVariable) layer.timeoutMs

variable {environment : Environment}

theorem findSome?_eq_lookup {α β γ : Type} [BEq α] {f : α × β → Option γ} {g : β → γ} {key : α}
    {entries : List (α × β)}
    (h : ∀ entry ∈ entries, f entry = if key == entry.1 then some (g entry.2) else none) :
    entries.findSome? f = (entries.lookup key).map g := by
  induction entries with
  | nil => rfl
  | cons entry entries ih =>
    obtain ⟨hentry, hentries⟩ := List.forall_mem_cons.mp h
    rw [List.findSome?_cons, hentry, ih hentries, List.lookup_cons]
    cases key == entry.1 <;> rfl

/-- The paths that the names in a plain environment hold. -/
theorem Plain.ofName? (h : environment.Plain) {name text : String}
    (hentry : (name, text) ∈ environment) :
    KeyPath.ofName? name =
      if Settings.deviceVariable == name then some ⟨Settings.deviceKey, []⟩
      else if Settings.timeoutVariable == name then some ⟨Settings.timeoutKey, []⟩
      else none := by
  split
  · next hname =>
    rw [← eq_of_beq hname]
    exact KeyPath.ofName?_deviceVariable
  · next hdevice =>
    split
    · next hname =>
      rw [← eq_of_beq hname]
      exact KeyPath.ofName?_timeoutVariable
    · next htimeout =>
      refine KeyPath.ofName?_eq_none fun hname => ?_
      rcases h name text hentry hname with rfl | rfl
      · exact hdevice (beq_self_eq_true _)
      · exact htimeout (beq_self_eq_true _)

theorem Plain.lastFor?_deviceKey (h : environment.Plain) :
    Overlay.lastFor? environment Settings.deviceKey =
      (environment.last? Settings.deviceVariable).map ([], ·) := by
  refine findSome?_eq_lookup fun (name, text) hentry => ?_
  simp only [h.ofName? (List.mem_reverse.mp hentry)]
  cases Settings.deviceVariable == name <;> cases Settings.timeoutVariable == name <;>
    simp [Settings.deviceKey_ne_timeoutKey.symm]

theorem Plain.lastFor?_timeoutKey (h : environment.Plain) :
    Overlay.lastFor? environment Settings.timeoutKey =
      (environment.last? Settings.timeoutVariable).map ([], ·) := by
  refine findSome?_eq_lookup fun (name, text) hentry => ?_
  simp only [h.ofName? (List.mem_reverse.mp hentry)]
  cases hdevice : Settings.deviceVariable == name
  · cases Settings.timeoutVariable == name <;> rfl
  · have hne : (Settings.timeoutVariable == name) = false := by
      rw [← eq_of_beq hdevice]
      decide
    simp [hne, Settings.deviceKey_ne_timeoutKey]

end Environment

namespace Overlay

variable {environment : Environment} {layer : Overlay} {error : SettingsError} {text : String}

/-- A text that is no time is refused with the text itself. -/
theorem readTimeout_eq_error_iff :
    readTimeout text = .error error ↔
      error = .timeoutVariable text ∧ ∀ timeoutMs, readTimeout text ≠ .ok timeoutMs := by
  simp only [readTimeout]
  split_ifs
  · simp
  · simp
  · cases readNat64 text <;> simp [mapError_ok, mapError_error, eq_comm]

theorem deviceOf_eq (h : environment.Plain) :
    deviceOf environment = environment.last? Settings.deviceVariable := by
  rw [deviceOf, h.lastFor?_deviceKey]
  cases environment.last? Settings.deviceVariable <;> rfl

theorem timeoutOf_eq_ok_iff (h : environment.Plain) {timeoutMs : Option Nat} :
    timeoutOf environment = .ok timeoutMs ↔
      Option.Rel (fun text timeoutMs => readTimeout text = .ok timeoutMs)
        (environment.last? Settings.timeoutVariable) timeoutMs := by
  rw [timeoutOf, h.lastFor?_timeoutKey]
  cases environment.last? Settings.timeoutVariable with
  | none => cases timeoutMs <;> simp
  | some text =>
    simp only [Option.map_some]
    cases hread : readTimeout text <;> cases timeoutMs <;> simp [Except.map, hread]

theorem timeoutOf_eq_error_iff (h : environment.Plain) :
    timeoutOf environment = .error error ↔
      ∃ text, environment.last? Settings.timeoutVariable = some text ∧
        error = .timeoutVariable text ∧ ∀ timeoutMs, readTimeout text ≠ .ok timeoutMs := by
  rw [timeoutOf, h.lastFor?_timeoutKey]
  cases environment.last? Settings.timeoutVariable with
  | none => simp
  | some text => simp [map_eq_error_iff, readTimeout_eq_error_iff]

theorem ofEnvironment_eq_ok_iff (h : environment.Plain) :
    ofEnvironment environment = .ok layer ↔ environment.Gives layer := by
  simp only [ofEnvironment, bind_eq_ok_iff, timeoutOf_eq_ok_iff h, deviceOf_eq h]
  constructor
  · rintro ⟨timeoutMs, htimeout, ⟨⟩⟩
    exact ⟨rfl, htimeout⟩
  · rintro ⟨hdevice, htimeout⟩
    exact ⟨layer.timeoutMs, htimeout, by rw [← hdevice]; rfl⟩

theorem ofEnvironment_eq_error_iff :
    ofEnvironment environment = .error error ↔ timeoutOf environment = .error error := by
  cases h : timeoutOf environment <;> simp [ofEnvironment, h]

end Overlay

/-! ## Loading -/

namespace Overlay

/-- The device of the upper layer, else that of the lower one, else the default. -/
def deviceOver (upper lower : Overlay) : String :=
  (upper.device.or lower.device).getD Settings.default.device

/-- The time of the upper layer, else that of the lower one, else the default. -/
def timeoutOver (upper lower : Overlay) : Nat :=
  (upper.timeoutMs.or lower.timeoutMs).getD Settings.default.timeoutMs

theorem overlaid_overlaid (upper lower : Overlay) :
    (Settings.default.overlaid lower).overlaid upper =
      ⟨upper.deviceOver lower, upper.timeoutOver lower⟩ := by
  rw [deviceOver, timeoutOver]
  cases hdevice : upper.device <;> cases htimeout : upper.timeoutMs <;>
    simp [Settings.overlaid, hdevice, htimeout]

end Overlay

namespace Settings

variable {path : String} {file : SettingsFile} {environment : Environment}
  {account : Option String} {settings checked : Settings} {error : SettingsError}

theorem check_eq_ok_iff :
    settings.check = .ok checked ↔
      ¬isBlankText settings.device ∧ settings.timeoutMs ≠ 0 ∧ checked = settings := by
  unfold check
  by_cases hdevice : isBlankText settings.device
  · simp [hdevice]
  · by_cases htimeout : settings.timeoutMs = 0 <;> simp [hdevice, htimeout, eq_comm]

theorem check_eq_error_iff :
    settings.check = .error error ↔
      isBlankText settings.device ∧ error = .blankDevice ∨
        ¬isBlankText settings.device ∧ settings.timeoutMs = 0 ∧ error = .zeroTimeout := by
  unfold check
  by_cases hdevice : isBlankText settings.device
  · simp [hdevice, eq_comm]
  · by_cases htimeout : settings.timeoutMs = 0 <;> simp [hdevice, htimeout, eq_comm]

/-- Settings are loaded exactly if both layers are there and what they lead to passes the check. -/
theorem load_eq_ok_iff :
    load path file environment account = .ok settings ↔
      ∃ lower upper, Overlay.ofFile path file = .ok lower ∧
        Overlay.ofEnvironment environment = .ok upper ∧
        ¬isBlankText (expandPath environment (upper.deviceOver lower) account) ∧
        upper.timeoutOver lower ≠ 0 ∧
        settings =
          ⟨expandPath environment (upper.deviceOver lower) account, upper.timeoutOver lower⟩ := by
  simp only [load, bind_eq_ok_iff, Overlay.overlaid_overlaid, check_eq_ok_iff,
    exists_and_left]

/-- The first layer that is not there decides, and then the check. -/
theorem load_eq_error_iff :
    load path file environment account = .error error ↔
      Overlay.ofFile path file = .error error ∨
      ∃ lower, Overlay.ofFile path file = .ok lower ∧
        (Overlay.ofEnvironment environment = .error error ∨
          ∃ upper, Overlay.ofEnvironment environment = .ok upper ∧
            check ⟨expandPath environment (upper.deviceOver lower) account,
              upper.timeoutOver lower⟩ = .error error) := by
  simp only [load, bind_eq_error_iff, Overlay.overlaid_overlaid]

/-- Why settings are refused: the file cannot be used; with a file that can, the text for the time
is no time; with both layers, the device is blank; with a device that is not, the time is zero. -/
inductive Refused (path : String) (file : SettingsFile) (environment : Environment)
    (account : Option String) : SettingsError → Prop
  | file {error : SettingsError} :
    file.Fails path error → Refused path file environment account error
  | time {lower : Overlay} {text : String} :
    file.Gives lower →
    environment.last? timeoutVariable = some text →
    (∀ timeoutMs, Overlay.readTimeout text ≠ .ok timeoutMs) →
    Refused path file environment account (.timeoutVariable text)
  | blankDevice {lower upper : Overlay} :
    file.Gives lower → environment.Gives upper →
    isBlankText (expandPath environment (upper.deviceOver lower) account) →
    Refused path file environment account .blankDevice
  | zeroTimeout {lower upper : Overlay} :
    file.Gives lower → environment.Gives upper →
    ¬isBlankText (expandPath environment (upper.deviceOver lower) account) →
    upper.timeoutOver lower = 0 →
    Refused path file environment account .zeroTimeout

theorem load_eq_error_iff_refused (h : environment.Plain) :
    load path file environment account = .error error ↔
      Refused path file environment account error := by
  simp only [load_eq_error_iff, Overlay.ofFile_eq_error_iff, Overlay.ofFile_eq_ok_iff,
    Overlay.ofEnvironment_eq_error_iff, Overlay.timeoutOf_eq_error_iff h,
    Overlay.ofEnvironment_eq_ok_iff h, check_eq_error_iff]
  constructor
  · rintro (hfile | ⟨lower, hlower, ⟨text, htext, rfl, htime⟩ |
      ⟨upper, hupper, ⟨hblank, rfl⟩ | ⟨hdevice, hzero, rfl⟩⟩⟩)
    · exact .file hfile
    · exact .time hlower htext htime
    · exact .blankDevice hlower hupper hblank
    · exact .zeroTimeout hlower hupper hdevice hzero
  · rintro (hfile | ⟨hlower, htext, htime⟩ | ⟨hlower, hupper, hblank⟩ |
      ⟨hlower, hupper, hdevice, hzero⟩)
    · exact .inl hfile
    · exact .inr ⟨_, hlower, .inl ⟨_, htext, rfl, htime⟩⟩
    · exact .inr ⟨_, hlower, .inr ⟨_, hupper, .inl ⟨hblank, rfl⟩⟩⟩
    · exact .inr ⟨_, hlower, .inr ⟨_, hupper, .inr ⟨hdevice, hzero, rfl⟩⟩⟩

/-- Of the lower layer only the settings matter that the upper one does not give. -/
theorem load_congr {otherPath : String} {otherFile : SettingsFile} {lower other : Overlay}
    (hlower : Overlay.ofFile path file = .ok lower)
    (hother : Overlay.ofFile otherPath otherFile = .ok other)
    (hdevice : ∀ upper, Overlay.ofEnvironment environment = .ok upper →
      upper.deviceOver other = upper.deviceOver lower)
    (htimeout : ∀ upper, Overlay.ofEnvironment environment = .ok upper →
      upper.timeoutOver other = upper.timeoutOver lower) :
    load otherPath otherFile environment account = load path file environment account := by
  simp only [load, hlower, hother, ok_bind, Overlay.overlaid_overlaid]
  cases hupper : Overlay.ofEnvironment environment with
  | error error => rfl
  | ok upper => simp only [ok_bind, hdevice upper hupper, htimeout upper hupper]

end Settings

namespace Environment

variable {environment : Environment} {upper lower other : Overlay}

theorem Gives.deviceOver_eq (h : environment.Gives upper)
    (hagree : environment.last? Settings.deviceVariable = none → other.device = lower.device) :
    upper.deviceOver other = upper.deviceOver lower := by
  unfold Overlay.deviceOver
  cases hdevice : upper.device with
  | none => rw [hagree (h.device.symm.trans hdevice)]
  | some device => rfl

theorem Gives.timeoutOver_eq (h : environment.Gives upper)
    (hagree : environment.last? Settings.timeoutVariable = none →
      other.timeoutMs = lower.timeoutMs) :
    upper.timeoutOver other = upper.timeoutOver lower := by
  unfold Overlay.timeoutOver
  have htimeout := h.timeout
  cases hgiven : upper.timeoutMs with
  | none =>
    cases hlast : environment.last? Settings.timeoutVariable with
    | none => rw [hagree hlast]
    | some text => simp [hgiven, hlast] at htimeout
  | some timeoutMs => rfl

end Environment

/-- **Each setting comes from the highest layer that names it.** Take any settings file, any home
directory on record for the account, or none, and any environment in which no name begins with
`RAIN8NET_`, in whatever case of letters, but those of the two variables.

Settings are loaded exactly if the file gives a layer, the text for the time in the environment is a
time if there is one, the device, expanded, is not blank, and the time is not zero, where device and
time are, each for itself, that of the environment, else that of the file, else the default. The
settings are these two. All else is refused for the first of the four that fails. What the file says
of a setting is of no account if the environment names it, be it blank or zero. -/
theorem settings_layered {environment : Environment} (h : environment.Plain) (path : String)
    (file : SettingsFile) (account : Option String) :
    (∀ settings, Settings.load path file environment account = .ok settings ↔
      ∃ lower upper, file.Gives lower ∧ environment.Gives upper ∧
        ¬isBlankText (expandPath environment (upper.deviceOver lower) account) ∧
        upper.timeoutOver lower ≠ 0 ∧
        settings =
          ⟨expandPath environment (upper.deviceOver lower) account, upper.timeoutOver lower⟩) ∧
    (∀ error, Settings.load path file environment account = .error error ↔
      Settings.Refused path file environment account error) ∧
    ∀ otherPath otherFile lower other, file.Gives lower → otherFile.Gives other →
      (environment.last? Settings.deviceVariable = none → other.device = lower.device) →
      (environment.last? Settings.timeoutVariable = none → other.timeoutMs = lower.timeoutMs) →
      Settings.load otherPath otherFile environment account =
        Settings.load path file environment account := by
  refine ⟨fun settings => ?_, fun error => Settings.load_eq_error_iff_refused h, ?_⟩
  · simp only [Settings.load_eq_ok_iff, Overlay.ofFile_eq_ok_iff, Overlay.ofEnvironment_eq_ok_iff h]
  · intro otherPath otherFile lower other hlower hother hdevice htimeout
    refine Settings.load_congr (Overlay.ofFile_eq_ok_iff.mpr hlower)
      (Overlay.ofFile_eq_ok_iff.mpr hother) (fun upper hupper => ?_) (fun upper hupper => ?_)
    · exact ((Overlay.ofEnvironment_eq_ok_iff h).mp hupper).deviceOver_eq hdevice
    · exact ((Overlay.ofEnvironment_eq_ok_iff h).mp hupper).timeoutOver_eq htimeout

/-- The blank device of the file does no harm below that of the environment, and the time of the
file stands. -/
theorem settings_layered_blank_file :
    let environment : Environment := [("HOME", "/root"), ("RAIN8NET_DEVICE", "~/bus")]
    let file : SettingsFile := .bytes "device = ' '\nresponse_timeout_ms = 250\n".toUTF8
    environment.Plain ∧ file.Gives ⟨some " ", some 250⟩ ∧
      Settings.load "rain8net.toml" file environment = .ok ⟨"/root/bus", 250⟩ := by
  intro environment file
  have hplain : environment.Plain := by
    intro name text hentry hname
    simp only [environment, List.mem_cons, Prod.mk.injEq, List.not_mem_nil, or_false] at hentry
    rcases hentry with ⟨rfl, -⟩ | ⟨rfl, -⟩
    · obtain ⟨lead, rest, happend, hlead⟩ := hname
      have hlength := congrArg List.length happend
      rw [List.length_append, hlead.length_eq] at hlength
      simp at hlength
      omega
    · exact .inl rfl
  have hfile : file.Gives ⟨some " ", some 250⟩ := by
    have hlayer : Overlay.ofToml? "device = ' '\nresponse_timeout_ms = 250\n" =
        some ⟨some " ", some 250⟩ := by decide +kernel
    exact Overlay.ofFile_eq_ok_iff.mp (Overlay.ofFile_toUTF8 hlayer "rain8net.toml" none)
  have hupper : environment.Gives ⟨some "~/bus", none⟩ := by
    have hdevice : environment.last? Settings.deviceVariable = some "~/bus" := rfl
    have htimeout : environment.last? Settings.timeoutVariable = none := rfl
    exact ⟨hdevice.symm, by rw [htimeout]; exact .none⟩
  have hexpand : expandPath environment "~/bus" = "/root/bus" := by decide +kernel
  refine ⟨hplain, hfile, ?_⟩
  refine ((settings_layered hplain "rain8net.toml" file none).1 ⟨"/root/bus", 250⟩).mpr
    ⟨_, _, hfile, hupper, ?_, ?_, ?_⟩
  · change ¬isBlankText (expandPath environment "~/bus")
    rw [hexpand]
    decide +kernel
  · exact Nat.succ_ne_zero 249
  · exact congrArg (Settings.mk · 250) hexpand.symm

end Irrigation
