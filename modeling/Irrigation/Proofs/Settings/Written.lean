import Irrigation.Proofs.Settings.File
import Irrigation.Proofs.Toml.Lines

/-!
# Settings are read back

* `Settings.entries`, `Settings.layer`: what a file tells that names both settings.
* `Settings.lines`: the two written lines. `Settings.toToml_eq_ok_iff`: settings are written so, if
  TOML can hold the time.
* `Settings.readToml?_of_toToml`, `Settings.ofToml?_of_toToml`: what is read from these lines.
* `settings_read_back`: the file gives the settings again, whatever other settings it is laid over.
-/

namespace Irrigation

namespace Settings

/-- The entries that tell settings. -/
def entries (settings : Settings) : List TomlEntry :=
  [(deviceKey, .text settings.device), (timeoutKey, .integer settings.timeoutMs)]

/-- The layer that names both settings. -/
def layer (settings : Settings) : Overlay := ⟨some settings.device, some settings.timeoutMs⟩

/-- The two written lines. -/
def lines (settings : Settings) : List Char :=
  writeTomlEntry deviceKey (writeTomlText settings.device) ++
    writeTomlEntry timeoutKey (Nat.toDigits 10 settings.timeoutMs)

theorem isBareKey_deviceKey : IsBareKey deviceKey := ⟨by decide, List.all_eq_true.mp (by decide)⟩

theorem isBareKey_timeoutKey : IsBareKey timeoutKey := ⟨by decide, List.all_eq_true.mp (by decide)⟩

variable {settings : Settings} {text : String}

theorem toToml_eq_ok_iff :
    settings.toToml = .ok text ↔
      settings.timeoutMs ≤ maxTomlInteger ∧ text = String.ofList settings.lines := by
  unfold toToml
  split
  · next hle => simp [hle, lines, eq_comm]
  · next hgt => simp [hgt]

/-- Written settings are read as the entries that tell them. -/
theorem readToml?_of_toToml (h : settings.toToml = .ok text) :
    readToml? text = some settings.entries := by
  obtain ⟨hle, rfl⟩ := toToml_eq_ok_iff.mp h
  have htext : (String.ofList settings.lines).toList = settings.lines := String.toList_ofList
  have hmark : (String.ofList settings.lines).toList.head? ≠ some '\ufeff' := by
    rw [htext]
    exact nofun
  -- Each of the two lines takes one of the bound, and the end of the file one more.
  obtain ⟨bound, hbound⟩ : ∃ bound, settings.lines.length + 1 = bound + 1 + 1 + 1 := by
    refine ⟨settings.lines.length - 2, ?_⟩
    have hlength : 2 ≤ settings.lines.length := by
      simp [lines, writeTomlEntry]
      omega
    omega
  have hlast := readTomlLines_writeTomlEntry isBareKey_timeoutKey (isWritten_toDigits hle)
    (bound + 1) []
  rw [List.append_nil] at hlast
  rw [readToml?_eq hmark, htext, hbound, lines,
    readTomlLines_writeTomlEntry isBareKey_deviceKey (isWritten_text _), hlast]
  rfl

theorem ofToml?_of_toToml (h : settings.toToml = .ok text) :
    Overlay.ofToml? text = some settings.layer := by
  rw [Overlay.ofToml?, readToml?_of_toToml h]
  rfl

end Settings

/-- **Settings are read back from the file that they are written to.** Take any text as the device
and any time that TOML can hold.

The settings are written, the text has exactly two entries, one for each setting, and it gives a
layer, also as the bytes of a settings file. Laid over any other settings, this layer gives back the
settings that were written. -/
theorem settings_read_back (settings : Settings) (h : settings.timeoutMs < 2 ^ 63) :
    ∃ text, settings.toToml = .ok text ∧
      readToml? text = some [(Settings.deviceKey, .text settings.device),
        (Settings.timeoutKey, .integer settings.timeoutMs)] ∧
      ∃ layer, Overlay.ofToml? text = some layer ∧
        (∀ path diagnosis, Overlay.ofFile path (.bytes text.toUTF8 diagnosis) = .ok layer) ∧
        ∀ base : Settings, base.overlaid layer = settings := by
  have hle : settings.timeoutMs ≤ maxTomlInteger := Nat.le_of_lt_succ h
  have hwritten := Settings.toToml_eq_ok_iff.mpr ⟨hle, rfl⟩
  have hlayer := Settings.ofToml?_of_toToml hwritten
  exact ⟨_, hwritten, Settings.readToml?_of_toToml hwritten, settings.layer,
    hlayer, Overlay.ofFile_toUTF8 hlayer, fun _ => rfl⟩

/-- Quotes, apostrophes, a backslash, both characters of a line end, a control character, one
outside ASCII and the greatest time: nothing is lost. -/
theorem settings_read_back_controls :
    let settings : Settings := ⟨"\"\"\"'''\\\r\n\x7f é", 2 ^ 63 - 1⟩
    settings.timeoutMs < 2 ^ 63 ∧ ∃ text, settings.toToml = .ok text ∧
      text = "device = \"\"\"\n\"\"\\\"'''\\\\\\r\n\\u007F é\"\"\"\nresponse_timeout_ms = " ++
        "9223372036854775807\n" ∧
      ∃ layer, Overlay.ofToml? text = some layer ∧ Settings.default.overlaid layer = settings := by
  intro settings
  have htime : settings.timeoutMs < 2 ^ 63 := by decide
  obtain ⟨text, hwritten, -, layer, hlayer, -, hover⟩ := settings_read_back settings htime
  refine ⟨htime, text, hwritten, ?_, layer, hlayer, hover .default⟩
  obtain ⟨-, rfl⟩ := Settings.toToml_eq_ok_iff.mp hwritten
  decide +kernel

end Irrigation
