import Irrigation.Proofs.Course
import Irrigation.Proofs.Paths.Expansion
import Irrigation.Proofs.Settings.Layers

/-!
# The device that is opened

A device comes from the words, the environment, the settings file or the defaults. Only that of the
settings is expanded and checked.

* `Host.noting`, `Invocation.opens`: the devices that an invocation wants opened.
  `Trial.Chooses.opens_eq`: it is the one of the options.
* `Arguments.deviceText`: the text for the device in the highest layer that names one.
* `opened_device`: when the device that is opened is the expansion of this text, and when it is
  blank. `opened_device_not_alike`: the words are not treated as the other layers are.
-/

namespace Irrigation

/-! ## Opening -/

/-- The system that keeps the names of the devices it is asked for, and opens none. -/
def Host.noting : Host (StateM (List String)) where
  openLine device _ := do
    modify (· ++ [device])
    return .error "not opened"

/-- The devices that an invocation wants opened, in order. -/
def Invocation.opens (invocation : Invocation) : List String :=
  ((invocation.run Host.noting).run []).2

/-- The text for the device in the highest layer that names one: the words, the layer of the
environment, that of the file, and the defaults. -/
def Arguments.deviceText (arguments : Arguments) (upper lower : Overlay) : String :=
  arguments.device.getD (upper.deviceOver lower)

variable {trial : Trial} {arguments : Arguments} {settings : Settings} {operation : Operation}

/-- The device of the options is opened, and nothing else. -/
theorem Trial.Chooses.opens_eq (h : trial.Chooses arguments settings operation) :
    trial.invocation.opens = [arguments.device.getD settings.device] := by
  simp only [Invocation.opens, Invocation.run, Invocation.plan, h.readArguments_eq,
    h.loadSettings_eq, h.chooseOperation_eq, ok_bind, mapError_ok]
  rfl

theorem Overlay.device_of_ofEnvironment {environment : Environment} {upper : Overlay}
    (h : ofEnvironment environment = .ok upper) : upper.device = deviceOf environment := by
  obtain ⟨timeoutMs, -, ⟨⟩⟩ := bind_eq_ok_iff.mp h
  rfl

/-- Settings whose device the environment names have the expansion of that text. -/
theorem Trial.Loads.device_eq (h : trial.Loads arguments settings) {given : String}
    (hgiven : Overlay.deviceOf trial.invocation.environment = some given) :
    settings.device =
      expandPath trial.invocation.environment given trial.invocation.accountHome := by
  obtain ⟨lower, upper, -, hupper, -, -, rfl⟩ := Settings.load_eq_ok_iff.mp h.loaded
  have hdevice := Overlay.device_of_ofEnvironment hupper
  simp only [Overlay.deviceOver, hdevice, hgiven, Option.some_or, Option.getD_some]

/-- **A device of the words is opened as it is, one of another layer is expanded.** Take any words,
environment, settings file and home directory on record that lead to an operation.

One device is opened: the text of the words if they give one, else the expansion of the text in the
highest layer below. So it is the expansion of the text in the highest layer exactly if a text of
the words stands for itself, which it does if it holds no `$` and does not begin with `~`. It is
blank exactly if the words give a blank text.

A text of the words and the same text of the environment in another invocation open the same device
exactly if the text stands for itself there. -/
theorem opened_device (h : trial.Chooses arguments settings operation) :
    let environment := trial.invocation.environment
    let account := trial.invocation.accountHome
    ∃ lower upper device, trial.invocation.settingsFile.Gives lower ∧
      Overlay.ofEnvironment environment = .ok upper ∧
      trial.invocation.opens = [device] ∧
      device = arguments.device.getD (expandPath environment (upper.deviceOver lower) account) ∧
      (device = expandPath environment (arguments.deviceText upper lower) account ↔
        ∀ given, arguments.device = some given → expandPath environment given account = given) ∧
      ((∀ given, arguments.device = some given →
          '$' ∉ given.toList ∧ given.toList.head? ≠ some '~') →
        device = expandPath environment (arguments.deviceText upper lower) account) ∧
      (isBlankText device ↔ ∃ given, arguments.device = some given ∧ isBlankText given) ∧
      ∀ (other : Trial) (others : Arguments) (settings' : Settings) (operation' : Operation)
        (given : String),
        other.Chooses others settings' operation' → others.device = none →
        Overlay.deviceOf other.invocation.environment = some given →
        arguments.device = some given →
        (other.invocation.opens = trial.invocation.opens ↔
          expandPath other.invocation.environment given other.invocation.accountHome = given) := by
  intro environment account
  obtain ⟨lower, upper, hlower, hupper, hnotBlank, -, rfl⟩ := Settings.load_eq_ok_iff.mp h.loaded
  have hiff : arguments.device.getD (expandPath environment (upper.deviceOver lower) account) =
        expandPath environment (arguments.deviceText upper lower) account ↔
      ∀ given, arguments.device = some given → expandPath environment given account = given := by
    rw [Arguments.deviceText]
    cases arguments.device <;> simp [eq_comm]
  refine ⟨lower, upper, _, Overlay.ofFile_eq_ok_iff.mp hlower, hupper, h.opens_eq, rfl, hiff, ?_,
    ?_, ?_⟩
  · intro hplain
    refine hiff.mpr fun given hgiven => ?_
    obtain ⟨hreference, hhome⟩ := hplain given hgiven
    exact expandPath_eq_self environment account hreference hhome
  · cases arguments.device with
    | none => simpa using hnotBlank
    | some given => simp
  · intro other others settings' operation' given hother hnone hvariable hgiven
    rw [hother.opens_eq, h.opens_eq, hnone, hgiven, Option.getD_none, Option.getD_some,
      hother.toLoads.device_eq hvariable, List.singleton_inj]

/-- A plain path opens the same device, be it given by the words or by the environment. -/
theorem opened_device_plain_path :
    let trial : Trial :=
      { invocation :=
          { words := ["-d", "/dev/ttyS1", "-c", "comcheck"], environment := []
            settingsPath := "rain8net.toml", settingsFile := .absent }
        refusal _ _ := none
        line := {} }
    let other : Trial :=
      { trial with
        invocation :=
          { trial.invocation with
            words := ["-c", "comcheck"], environment := [("RAIN8NET_DEVICE", "/dev/ttyS1")] } }
    trial.invocation.opens = ["/dev/ttyS1"] ∧ other.invocation.opens = ["/dev/ttyS1"] := by
  intro trial other
  have hload : Settings.load "rain8net.toml" .absent [] = .ok .default :=
    toOption_eq_some_iff.mp (by decide +kernel)
  have hload' : Settings.load "rain8net.toml" .absent [("RAIN8NET_DEVICE", "/dev/ttyS1")] =
      .ok ⟨"/dev/ttyS1", 1000⟩ :=
    toOption_eq_some_iff.mp (by decide +kernel)
  have htrial : trial.Chooses { device := some "/dev/ttyS1", command := some "comcheck" } .default
      .comCheck :=
    ⟨⟨⟨rfl, rfl⟩, hload⟩, rfl, rfl⟩
  have hother : other.Chooses { command := some "comcheck" } ⟨"/dev/ttyS1", 1000⟩ .comCheck :=
    ⟨⟨⟨rfl, rfl⟩, hload'⟩, rfl, rfl⟩
  obtain ⟨_, _, device, -, -, hopens, hdevice, -, -, -, hsame⟩ := opened_device htrial
  change device = "/dev/ttyS1" at hdevice
  have hvariable : Overlay.deviceOf other.invocation.environment = some "/dev/ttyS1" := by
    decide +kernel
  have hself : expandPath other.invocation.environment "/dev/ttyS1" = "/dev/ttyS1" := by
    decide +kernel
  have heq := (hsame other _ _ _ "/dev/ttyS1" hother rfl hvariable rfl).mpr hself
  rw [heq, hopens, hdevice]
  exact ⟨rfl, rfl⟩

/-- A path of the words is not expanded, and a blank one is opened. -/
theorem opened_device_not_alike :
    (¬∀ (trial : Trial) (arguments : Arguments) (settings : Settings) (operation : Operation)
        (lower upper : Overlay),
      trial.Chooses arguments settings operation → trial.invocation.settingsFile.Gives lower →
      Overlay.ofEnvironment trial.invocation.environment = .ok upper →
      trial.invocation.opens =
        [expandPath trial.invocation.environment (arguments.deviceText upper lower)
          trial.invocation.accountHome]) ∧
    ¬∀ (trial : Trial) (arguments : Arguments) (settings : Settings) (operation : Operation),
      trial.Chooses arguments settings operation →
      ∀ device ∈ trial.invocation.opens, ¬isBlankText device := by
  let environment : Environment := [("HOME", "/home/user")]
  let trial (path : String) : Trial :=
    { invocation :=
        { words := ["-d", path, "-c", "comcheck"], environment
          settingsPath := "rain8net.toml", settingsFile := .absent }
      refusal _ _ := none
      line := {} }
  have hload : Settings.load "rain8net.toml" .absent environment = .ok .default :=
    toOption_eq_some_iff.mp (by decide +kernel)
  constructor
  · intro h
    have hchooses : (trial "~/tty").Chooses
        { device := some "~/tty", command := some "comcheck" } .default .comCheck :=
      ⟨⟨⟨rfl, rfl⟩, hload⟩, rfl, rfl⟩
    have hopens := h _ _ _ _ {} {} hchooses .absent rfl
    rw [hchooses.opens_eq, List.singleton_inj] at hopens
    have hexpand : expandPath environment "~/tty" = "/home/user/tty" := by decide +kernel
    have hpath : "~/tty" = "/home/user/tty" := hopens.trans hexpand
    exact absurd hpath (by decide)
  · intro h
    have hchooses : (trial "").Chooses
        { device := some "", command := some "comcheck" } .default .comCheck :=
      ⟨⟨⟨rfl, rfl⟩, hload⟩, rfl, rfl⟩
    have hopens : (trial "").invocation.opens = [""] := hchooses.opens_eq
    exact h _ _ _ _ hchooses "" (hopens ▸ List.mem_singleton_self _) (by decide +kernel)

end Irrigation
