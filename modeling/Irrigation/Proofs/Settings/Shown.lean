import Irrigation.Proofs.Arguments
import Irrigation.Proofs.Settings.Layers
import Irrigation.Proofs.Settings.Written
import Irrigation.Proofs.Stages

/-!
# What is shown of the settings

* `Settings.timeout_of_unwritable`: a time that TOML cannot hold is one of the environment.
* `settings_shown`: settings that are loaded are shown exactly if TOML can hold their time.
* `Trial.showing`: a trial with the request to show the settings in front of its words.
  `Trial.Shows`: a trial shows a device.
* `opened_device_shown`: the device that is shown is the one that is opened, unless the words give
  another one than the settings.
-/

namespace Irrigation

/-! ## Times -/

theorem SettingsFile.Gives.timeoutMs_le {file : SettingsFile} {layer : Overlay} {timeoutMs : Nat}
    (h : file.Gives layer) (htimeout : layer.timeoutMs = some timeoutMs) :
    timeoutMs ≤ maxTomlInteger := by
  cases h with
  | absent => contradiction
  | bytes htext hentries hfit htells =>
    have hentry := (htells.timeout timeoutMs).mp htimeout
    exact Int.ofNat_le.mp (le_of_readTomlLines hentries hentry)

namespace Settings

variable {path : String} {file : SettingsFile} {environment : Environment}
  {account : Option String} {settings : Settings} {error : SettingsError}

theorem timeoutMs_lt_iff : settings.timeoutMs < 2 ^ 63 ↔ settings.timeoutMs ≤ maxTomlInteger :=
  Nat.lt_succ_iff

theorem toToml_eq_error_iff :
    settings.toToml = .error error ↔
      maxTomlInteger < settings.timeoutMs ∧ error = .unwritableTimeout := by
  unfold toToml
  split
  · next hle => simp [Nat.not_lt.mpr hle]
  · next hgt => simp [Nat.not_le.mp hgt, eq_comm]

/-- Neither a file nor the defaults give a time that TOML cannot hold. -/
theorem timeout_of_unwritable (h : load path file environment account = .ok settings)
    (hgt : maxTomlInteger < settings.timeoutMs) :
    ∃ upper, Overlay.ofEnvironment environment = .ok upper ∧
      upper.timeoutMs = some settings.timeoutMs := by
  obtain ⟨lower, upper, hlower, hupper, -, -, rfl⟩ := load_eq_ok_iff.mp h
  refine ⟨upper, hupper, ?_⟩
  cases hgiven : upper.timeoutMs with
  | some timeoutMs => simp [Overlay.timeoutOver, hgiven]
  | none =>
    cases hfile : lower.timeoutMs with
    | none => simp [Overlay.timeoutOver, hgiven, hfile, default, maxTomlInteger] at hgt
    | some timeoutMs =>
      have hle := (Overlay.ofFile_eq_ok_iff.mp hlower).timeoutMs_le hfile
      simp [Overlay.timeoutOver, hgiven, hfile] at hgt
      omega

end Settings

/-! ## Showing the settings -/

namespace Trial

variable {trial : Trial} {arguments : Arguments} {settings : Settings}

theorem Loads.ending_of_showConfig (h : trial.Loads arguments settings)
    (hshow : arguments.showConfig = true) :
    trial.ending = (trial.invocation.showSettings settings).behind
      ((trial.invocation.journal arguments).notesLoading settings) := by
  rw [ending, (Course.shown h hshow).finished_eq]

end Trial

/-- **Settings that are loaded are shown exactly if their time is below 2^63.** Take any settings
file, any environment and any home directory on record, or none, that settings are loaded from.

The settings are written if TOML can hold the time, and an invocation with the request ends with
them and the status 0. A time that TOML cannot hold comes from the environment, whose numbers may
have one bit more than those of a file. It is loaded, but the same invocation then ends with the
status 78. -/
theorem settings_shown {path : String} {file : SettingsFile} {environment : Environment}
    {account : Option String} {settings : Settings}
    (h : Settings.load path file environment account = .ok settings) :
    ((∃ text, settings.toToml = .ok text) ↔ settings.timeoutMs < 2 ^ 63) ∧
    (2 ^ 63 ≤ settings.timeoutMs → settings.toToml = .error .unwritableTimeout ∧
      ∃ upper, Overlay.ofEnvironment environment = .ok upper ∧
        upper.timeoutMs = some settings.timeoutMs) ∧
    ∀ words completionScript arguments refusal line,
      let trial : Trial :=
        ⟨⟨words, environment, path, file, account, completionScript⟩, refusal, line⟩
      trial.Reads arguments → arguments.showConfig = true →
        trial.ending.stage = .showConfig ∧
        trial.ending.status = if settings.timeoutMs < 2 ^ 63 then 0 else 78 := by
  refine ⟨?_, ?_, ?_⟩
  · rw [Settings.timeoutMs_lt_iff]
    constructor
    · rintro ⟨text, htext⟩
      exact (Settings.toToml_eq_ok_iff.mp htext).1
    · intro hle
      exact ⟨_, Settings.toToml_eq_ok_iff.mpr ⟨hle, rfl⟩⟩
  · intro hge
    have hgt : maxTomlInteger < settings.timeoutMs := hge
    exact ⟨Settings.toToml_eq_error_iff.mpr ⟨hgt, rfl⟩, Settings.timeout_of_unwritable h hgt⟩
  · intro words completionScript arguments refusal line trial hreads hshow
    have hloads : trial.Loads arguments settings := ⟨hreads, h⟩
    have hmakes := (Course.shown hloads hshow).makes
    rw [hloads.ending_of_showConfig hshow]
    refine ⟨hmakes.stage_eq, hmakes.status_eq.trans ?_⟩
    split
    · next hlt =>
      rw [Settings.toToml_eq_ok_iff.mpr ⟨Settings.timeoutMs_lt_iff.mp hlt, rfl⟩]
      rfl
    · next hge =>
      rw [Settings.toToml_eq_error_iff.mpr ⟨Nat.not_lt.mp hge, rfl⟩]
      rfl

/-- The greatest time that a file can give is shown. -/
theorem settings_shown_greatest :
    let file : SettingsFile := .bytes "response_timeout_ms = 9223372036854775807\n".toUTF8
    let trial : Trial :=
      { invocation :=
          { words := ["--show-config"], environment := []
            settingsPath := "rain8net.toml", settingsFile := file }
        refusal _ _ := none
        line := {} }
    Settings.load "rain8net.toml" file [] = .ok ⟨"/dev/ttyUSB0", 2 ^ 63 - 1⟩ ∧
      trial.ending.status = 0 := by
  intro file trial
  have hload : Settings.load "rain8net.toml" file [] = .ok ⟨"/dev/ttyUSB0", 2 ^ 63 - 1⟩ :=
    toOption_eq_some_iff.mp (by decide +kernel)
  obtain ⟨-, -, hends⟩ := settings_shown hload
  have hreads : trial.Reads { showConfig := true } := ⟨rfl, rfl⟩
  exact ⟨hload, (hends _ _ _ _ _ hreads rfl).2⟩

/-- The time in the environment that is one greater is loaded, but it is not shown. -/
theorem settings_not_shown :
    ¬∀ path file environment account settings,
      Settings.load path file environment account = .ok settings →
        ∃ text, settings.toToml = .ok text := by
  intro h
  have hload : Settings.load "" .absent [("RAIN8NET_RESPONSE_TIMEOUT_MS", "9223372036854775808")] =
      .ok ⟨"/dev/ttyUSB0", 2 ^ 63⟩ :=
    toOption_eq_some_iff.mp (by decide +kernel)
  obtain ⟨text, htext⟩ := h _ _ _ _ _ hload
  exact absurd (Settings.toToml_eq_ok_iff.mp htext).1 (by decide)

/-! ## Showing the device -/

namespace Trial

variable {trial : Trial} {arguments : Arguments} {settings : Settings} {plan : Plan}

/-- The trial with the request to show the settings in front of its words. -/
def showing (trial : Trial) : Trial :=
  { trial with
    invocation := { trial.invocation with words := "--show-config" :: trial.invocation.words } }

/-- Behind the notes, the trial shows a text that gives the device as a settings file does. -/
def Shows (trial : Trial) (notes device : String) : Prop :=
  ∃ text layer, trial.ending = (Ending.mk .showConfig .ok (.lines [text])).behind notes ∧
    Overlay.ofToml? text = some layer ∧ layer.device = some device

theorem Loads.showing (h : trial.Loads arguments settings) (hnot : arguments.showConfig = false) :
    trial.showing.Loads arguments.showing settings :=
  ⟨⟨Arguments.parse_showConfig_cons h.read hnot, h.noScript⟩, h.loaded⟩

/-- The text of an end behind notes is determined by it. -/
theorem eq_of_behind_lines {stage stage' : Stage} {status status' : ExitStatus}
    {text text' notes : String}
    (h : (Ending.mk stage status (.lines [text])).behind notes =
      (Ending.mk stage' status' (.lines [text'])).behind notes) : text = text' := by
  have hstdout := congrArg (fun ending => ending.printout.stdout) h
  have hline : notes ++ (text ++ "\n") = notes ++ (text' ++ "\n") := hstdout
  rwa [String.append_right_inj, String.append_left_inj] at hline

theorem Loads.shows_iff (h : trial.Loads arguments settings) (hshow : arguments.showConfig = true)
    {device : String} :
    trial.Shows ((trial.invocation.journal arguments).notesLoading settings) device ↔
      settings.timeoutMs ≤ maxTomlInteger ∧ device = settings.device := by
  rw [Shows, h.ending_of_showConfig hshow, Invocation.showSettings]
  constructor
  · rintro ⟨text, layer, hending, hlayer, hdevice⟩
    cases htoml : settings.toToml with
    | error error =>
      rw [htoml] at hending
      have hstatus : ExitStatus.config = ExitStatus.ok := congrArg Ending.status hending
      exact absurd hstatus (by decide)
    | ok written =>
      rw [htoml] at hending
      cases eq_of_behind_lines hending
      rw [Settings.ofToml?_of_toToml htoml] at hlayer
      cases hlayer
      exact ⟨(Settings.toToml_eq_ok_iff.mp htoml).1, (Option.some.inj hdevice).symm⟩
  · rintro ⟨hle, rfl⟩
    have htoml := Settings.toToml_eq_ok_iff.mpr ⟨hle, rfl⟩
    rw [htoml]
    exact ⟨_, settings.layer, rfl, Settings.ofToml?_of_toToml htoml, rfl⟩

/-- Without the request, the plan follows from the operation that is chosen. -/
theorem Loads.toOption_plan_eq (h : trial.Loads arguments settings)
    (hnot : arguments.showConfig = false) :
    trial.invocation.plan.toOption = (arguments.options settings).validate.toOption.map
      fun operation =>
        ⟨operation, (arguments.options settings).device, settings.timeoutMs,
          (arguments.options settings).verbose, trial.invocation.journal arguments,
          trial.invocation.colour, (trial.invocation.journal arguments).notesLoading settings⟩ := by
  simp only [Invocation.plan, h.readArguments_eq, h.loadSettings_eq, Invocation.chooseOperation,
    hnot, ok_bind, mapError_ok]
  cases (arguments.options settings).validate <;> rfl

end Trial

/-- **The device that is opened is shown unless the words give another one than the settings.** Take
any words that are read and any settings that are loaded, and the same words with the request to
show the settings in front.

With the request, the device of the settings is shown, if TOML can hold the time beside it. Without
it, the device that is opened is that of the words, and only if these name none that of the
settings. So both are the same exactly if the words give none, or the one of the settings. -/
theorem opened_device_shown {trial : Trial} {arguments : Arguments} {settings : Settings}
    (h : trial.Loads arguments settings) (hnot : arguments.showConfig = false) :
    let notes := (trial.invocation.journal arguments).notesLoading settings
    (∀ device, trial.showing.Shows notes device ↔
      settings.timeoutMs < 2 ^ 63 ∧ device = settings.device) ∧
    ((∃ plan, trial.invocation.plan = .ok plan) ↔
      ∃ operation, (arguments.options settings).validate = .ok operation) ∧
    ∀ plan, trial.invocation.plan = .ok plan →
      plan.device = arguments.device.getD settings.device ∧
      (trial.showing.Shows notes plan.device ↔ settings.timeoutMs < 2 ^ 63 ∧
        ∀ device, arguments.device = some device → device = settings.device) := by
  intro notes
  have hshows : ∀ device, trial.showing.Shows notes device ↔
      settings.timeoutMs < 2 ^ 63 ∧ device = settings.device := by
    intro device
    rw [Settings.timeoutMs_lt_iff]
    exact (h.showing hnot).shows_iff rfl
  have hplan := h.toOption_plan_eq hnot
  refine ⟨hshows, ?_, fun plan hok => ?_⟩
  · simp only [← toOption_eq_some_iff, hplan, Option.map_eq_some_iff]
    constructor
    · rintro ⟨_, operation, hvalid, -⟩
      exact ⟨operation, hvalid⟩
    · rintro ⟨operation, hvalid⟩
      exact ⟨_, operation, hvalid, rfl⟩
  · rw [toOption_eq_some_iff.mpr hok] at hplan
    obtain ⟨operation, -, rfl⟩ := Option.map_eq_some_iff.mp hplan.symm
    refine ⟨rfl, (hshows _).trans (and_congr_right fun _ => ?_)⟩
    change arguments.device.getD settings.device = settings.device ↔ _
    cases arguments.device <;> simp

/-- A device of the environment is shown, and it is the one that is opened. -/
theorem opened_device_shown_environment :
    let environment : Environment := [("RAIN8NET_DEVICE", "/dev/ttyS1")]
    let trial : Trial :=
      { invocation :=
          { words := ["-c", "comcheck"], environment
            settingsPath := "rain8net.toml", settingsFile := .absent }
        refusal _ _ := none
        line := {} }
    ∃ plan, trial.invocation.plan = .ok plan ∧ plan.device = "/dev/ttyS1" ∧
      trial.showing.Shows "" plan.device := by
  intro environment trial
  have hload : Settings.load "rain8net.toml" .absent environment = .ok ⟨"/dev/ttyS1", 1000⟩ :=
    toOption_eq_some_iff.mp (by decide +kernel)
  have hloads : trial.Loads { command := some "comcheck" } ⟨"/dev/ttyS1", 1000⟩ :=
    ⟨⟨rfl, rfl⟩, hload⟩
  obtain ⟨-, hplan, hdevice⟩ := opened_device_shown hloads rfl
  obtain ⟨plan, hok⟩ := hplan.mpr ⟨.comCheck, rfl⟩
  obtain ⟨hgiven, hshows⟩ := hdevice plan hok
  exact ⟨plan, hok, hgiven, hshows.mpr ⟨by decide, nofun⟩⟩

/-- A device of the words is opened, but it is not shown, though the settings are. -/
theorem opened_device_not_shown :
    ¬∀ (trial : Trial) (arguments : Arguments) (settings : Settings) (plan : Plan),
      trial.Loads arguments settings → arguments.showConfig = false →
      settings.timeoutMs < 2 ^ 63 → trial.invocation.plan = .ok plan →
      trial.showing.Shows ((trial.invocation.journal arguments).notesLoading settings)
        plan.device := by
  intro h
  let trial : Trial :=
    { invocation :=
        { words := ["-d", "/dev/ttyS9", "-c", "comcheck"], environment := []
          settingsPath := "rain8net.toml", settingsFile := .absent }
      refusal _ _ := none
      line := {} }
  have hload : Settings.load "rain8net.toml" .absent [] = .ok .default :=
    toOption_eq_some_iff.mp (by decide +kernel)
  have hloads : trial.Loads { device := some "/dev/ttyS9", command := some "comcheck" } .default :=
    ⟨⟨rfl, rfl⟩, hload⟩
  have hplan := toOption_eq_some_iff.mp (hloads.toOption_plan_eq rfl)
  have hshows := h trial _ _ _ hloads rfl (by decide) hplan
  have hdevice : "/dev/ttyS9" = "/dev/ttyUSB0" := (((hloads.showing rfl).shows_iff rfl).mp hshows).2
  exact absurd hdevice (by decide)

end Irrigation
