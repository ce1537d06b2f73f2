import Irrigation.Settings.Load
import Mathlib.Data.Int.CharZero
import Mathlib.Data.List.Induction
import Mathlib.Data.List.Nodup

/-!
# Settings files and their entries

* `FitSettings`, `Overlay.Tells`: entries that are settings, and the layer that they tell.
  `Overlay.foldlM_insertEntry_eq_some_iff`: such entries make this layer, and others make none.
* `SettingsFile.Gives`, `SettingsFile.Fails`: a file gives a layer, or it cannot be used.
  `Overlay.ofFile_eq_ok_iff` and `Overlay.ofFile_eq_error_iff`: the layer or the error is found.
-/

namespace Irrigation

/-! ## Entries of a file -/

theorem Settings.deviceKey_ne_timeoutKey : deviceKey ≠ timeoutKey := by decide

/-- An entry that is a setting: a text for the device, or a natural number for the time. -/
inductive FitsSetting : TomlEntry → Prop
  | device (text : String) : FitsSetting (Settings.deviceKey, .text text)
  | timeout (n : Nat) : FitsSetting (Settings.timeoutKey, .integer n)

theorem fitsSetting_iff {entry : TomlEntry} :
    FitsSetting entry ↔
      (∃ text, entry = (Settings.deviceKey, .text text)) ∨
        ∃ n : Nat, entry = (Settings.timeoutKey, .integer n) := by
  constructor
  · rintro (text | n)
    · exact .inl ⟨text, rfl⟩
    · exact .inr ⟨n, rfl⟩
  · rintro (⟨text, rfl⟩ | ⟨n, rfl⟩)
    · exact .device text
    · exact .timeout n

/-- All entries are settings, and none of them is given twice. -/
structure FitSettings (entries : List TomlEntry) : Prop where
  fits : ∀ entry ∈ entries, FitsSetting entry
  nodup : (entries.map Prod.fst).Nodup

namespace Overlay

variable {overlay next : Overlay} {entries : List TomlEntry} {entry : TomlEntry}

/-- The layer names the settings that the entries give, with their values. -/
structure Tells (overlay : Overlay) (entries : List TomlEntry) : Prop where
  device : ∀ text, overlay.device = some text ↔ (Settings.deviceKey, .text text) ∈ entries
  timeout : ∀ n : Nat, overlay.timeoutMs = some n ↔ (Settings.timeoutKey, .integer n) ∈ entries

/-- Entries tell one layer. -/
theorem Tells.unique {other : Overlay} (h : overlay.Tells entries) (hother : other.Tells entries) :
    overlay = other := by
  have hdevice : overlay.device = other.device :=
    Option.ext fun text => (h.device text).trans (hother.device text).symm
  have htimeout : overlay.timeoutMs = other.timeoutMs :=
    Option.ext fun n => (h.timeout n).trans (hother.timeout n).symm
  cases overlay
  cases other
  cases hdevice
  cases htimeout
  rfl

theorem tells_nil : Tells {} [] := ⟨fun _ => ⟨nofun, nofun⟩, fun _ => ⟨nofun, nofun⟩⟩

/-- An entry is added exactly if it is a setting that has no value yet. -/
theorem insertEntry_eq_some_iff :
    insertEntry overlay entry = some next ↔
      (∃ text, entry = (Settings.deviceKey, .text text) ∧ overlay.device = none ∧
        next = { overlay with device := some text }) ∨
      ∃ n : Nat, entry = (Settings.timeoutKey, .integer n) ∧ overlay.timeoutMs = none ∧
        next = { overlay with timeoutMs := some n } := by
  obtain ⟨key, value⟩ := entry
  by_cases hdevice : key = Settings.deviceKey
  · subst hdevice
    cases hgiven : overlay.device <;> cases value <;>
      simp [insertEntry, hgiven, Settings.deviceKey_ne_timeoutKey, eq_comm]
  · by_cases htimeout : key = Settings.timeoutKey
    · subst htimeout
      cases hgiven : overlay.timeoutMs <;> rcases value with _ | (_ | _) <;>
        simp [insertEntry, hgiven, hdevice, eq_comm]
    · simp [insertEntry, hdevice, htimeout]

theorem tells_append_singleton (h : overlay.Tells entries)
    (hinsert : insertEntry overlay entry = some next) : next.Tells (entries ++ [entry]) := by
  rcases insertEntry_eq_some_iff.mp hinsert with ⟨text, rfl, hnone, rfl⟩ | ⟨n, rfl, hnone, rfl⟩
  · constructor
    · intro other
      have hfresh := (not_congr (h.device other)).mp (by rw [hnone]; exact nofun)
      simp [hfresh, eq_comm]
    · intro n
      simp [h.timeout n, Settings.deviceKey_ne_timeoutKey.symm]
  · constructor
    · intro text
      simp [h.device text, Settings.deviceKey_ne_timeoutKey]
    · intro m
      have hfresh := (not_congr (h.timeout m)).mp (by rw [hnone]; exact nofun)
      simp [hfresh, eq_comm]

/-- Among settings there is a device exactly if the layer names one. -/
theorem Tells.deviceKey_mem_iff (h : overlay.Tells entries)
    (hfits : ∀ entry ∈ entries, FitsSetting entry) :
    Settings.deviceKey ∈ entries.map Prod.fst ↔ overlay.device ≠ none := by
  rw [Option.ne_none_iff_exists']
  constructor
  · intro hkey
    obtain ⟨entry, hentry, hdevice⟩ := List.mem_map.mp hkey
    rcases fitsSetting_iff.mp (hfits entry hentry) with ⟨text, rfl⟩ | ⟨n, rfl⟩
    · exact ⟨text, (h.device text).mpr hentry⟩
    · exact absurd hdevice.symm Settings.deviceKey_ne_timeoutKey
  · rintro ⟨text, htext⟩
    exact List.mem_map.mpr ⟨_, (h.device text).mp htext, rfl⟩

theorem Tells.timeoutKey_mem_iff (h : overlay.Tells entries)
    (hfits : ∀ entry ∈ entries, FitsSetting entry) :
    Settings.timeoutKey ∈ entries.map Prod.fst ↔ overlay.timeoutMs ≠ none := by
  rw [Option.ne_none_iff_exists']
  constructor
  · intro hkey
    obtain ⟨entry, hentry, htimeout⟩ := List.mem_map.mp hkey
    rcases fitsSetting_iff.mp (hfits entry hentry) with ⟨text, rfl⟩ | ⟨n, rfl⟩
    · exact absurd htimeout Settings.deviceKey_ne_timeoutKey
    · exact ⟨n, (h.timeout n).mpr hentry⟩
  · rintro ⟨n, hn⟩
    exact List.mem_map.mpr ⟨_, (h.timeout n).mp hn, rfl⟩

/-- An entry can be added to settings exactly if it is one more setting. -/
theorem exists_insertEntry_iff (h : overlay.Tells entries)
    (hfits : ∀ entry ∈ entries, FitsSetting entry) :
    (∃ next, insertEntry overlay entry = some next) ↔
      FitsSetting entry ∧ entry.1 ∉ entries.map Prod.fst := by
  simp only [insertEntry_eq_some_iff]
  constructor
  · rintro ⟨next, ⟨text, rfl, hnone, -⟩ | ⟨n, rfl, hnone, -⟩⟩
    · exact ⟨.device text, fun hkey => (h.deviceKey_mem_iff hfits).mp hkey hnone⟩
    · exact ⟨.timeout n, fun hkey => (h.timeoutKey_mem_iff hfits).mp hkey hnone⟩
  · rintro ⟨⟨text⟩ | ⟨n⟩, hkey⟩
    · rw [h.deviceKey_mem_iff hfits, not_not] at hkey
      exact ⟨_, .inl ⟨text, rfl, hkey, rfl⟩⟩
    · rw [h.timeoutKey_mem_iff hfits, not_not] at hkey
      exact ⟨_, .inr ⟨n, rfl, hkey, rfl⟩⟩

theorem fitSettings_append_singleton_iff :
    FitSettings (entries ++ [entry]) ↔
      FitSettings entries ∧ FitsSetting entry ∧ entry.1 ∉ entries.map Prod.fst := by
  constructor
  · rintro ⟨hfits, hnodup⟩
    obtain ⟨hfits, hentry⟩ := List.forall_mem_append.mp hfits
    rw [List.map_append, List.map_singleton, List.nodup_append] at hnodup
    obtain ⟨hnodup, -, hkey⟩ := hnodup
    refine ⟨⟨hfits, hnodup⟩, hentry entry (List.mem_singleton.mpr rfl), fun hmem => ?_⟩
    exact hkey _ hmem _ (List.mem_singleton.mpr rfl) rfl
  · rintro ⟨⟨hfits, hnodup⟩, hentry, hkey⟩
    refine ⟨List.forall_mem_append.mpr ⟨hfits, by simpa using hentry⟩, ?_⟩
    rw [List.map_append, List.map_singleton, List.nodup_append]
    refine ⟨hnodup, List.nodup_singleton _, ?_⟩
    rintro key hmem _ hsingle rfl
    exact hkey (List.mem_singleton.mp hsingle ▸ hmem)

theorem tells_of_foldlM (h : entries.foldlM insertEntry {} = some overlay) :
    overlay.Tells entries := by
  induction entries using List.reverseRecOn generalizing overlay with
  | nil =>
    cases h
    exact tells_nil
  | append_singleton entries entry ih =>
    rw [List.foldlM_append] at h
    obtain ⟨before, hbefore, hentry⟩ := Option.bind_eq_some_iff.mp h
    rw [List.foldlM_cons] at hentry
    obtain ⟨next, hinsert, hlast⟩ := Option.bind_eq_some_iff.mp hentry
    cases hlast
    exact tells_append_singleton (ih hbefore) hinsert

theorem exists_foldlM_iff :
    (∃ overlay, entries.foldlM insertEntry {} = some overlay) ↔ FitSettings entries := by
  induction entries using List.reverseRecOn with
  | nil => exact ⟨fun _ => ⟨nofun, List.nodup_nil⟩, fun _ => ⟨{}, rfl⟩⟩
  | append_singleton entries entry ih =>
    rw [fitSettings_append_singleton_iff, ← ih]
    simp only [List.foldlM_append, List.foldlM_cons, List.foldlM_nil, bind_pure]
    constructor
    · rintro ⟨overlay, h⟩
      obtain ⟨before, hbefore, hinsert⟩ := Option.bind_eq_some_iff.mp h
      have hfits := (ih.mp ⟨before, hbefore⟩).fits
      exact ⟨⟨before, hbefore⟩,
        (exists_insertEntry_iff (tells_of_foldlM hbefore) hfits).mp ⟨overlay, hinsert⟩⟩
    · rintro ⟨⟨before, hbefore⟩, hentry⟩
      have hfits := (ih.mp ⟨before, hbefore⟩).fits
      obtain ⟨overlay, hinsert⟩ :=
        (exists_insertEntry_iff (tells_of_foldlM hbefore) hfits).mpr hentry
      exact ⟨overlay, Option.bind_eq_some_iff.mpr ⟨before, hbefore, hinsert⟩⟩

/-- Entries make a layer exactly if they are settings, and then the one that they tell. -/
theorem foldlM_insertEntry_eq_some_iff :
    entries.foldlM insertEntry {} = some overlay ↔ FitSettings entries ∧ overlay.Tells entries := by
  constructor
  · intro h
    exact ⟨exists_foldlM_iff.mp ⟨overlay, h⟩, tells_of_foldlM h⟩
  · rintro ⟨hfit, htells⟩
    obtain ⟨other, hother⟩ := exists_foldlM_iff.mpr hfit
    rw [hother, htells.unique (tells_of_foldlM hother)]

end Overlay

/-! ## The settings file -/

namespace SettingsFile

/-- A file gives a layer: the empty one if it is absent, else the one that the entries of its text
tell, if they are settings. -/
inductive Gives : SettingsFile → Overlay → Prop
  | absent : Gives .absent {}
  | bytes {content : ByteArray} {diagnosis : Option String} {text : String}
      {entries : List TomlEntry} {layer : Overlay} :
    String.fromUTF8? content = some text → readToml? text = some entries →
    FitSettings entries → layer.Tells entries → Gives (.bytes content diagnosis) layer

/-- A file cannot be used: it cannot be read, it is no text, or the text is no settings. Only then
its diagnosis matters. -/
inductive Fails (path : String) : SettingsFile → SettingsError → Prop
  | unreadable {reason : String} : Fails path (.unreadable reason) (.unreadableFile path reason)
  | noText {content : ByteArray} {diagnosis : Option String} :
    String.fromUTF8? content = none →
    Fails path (.bytes content diagnosis)
      (.unreadableFile path "stream did not contain valid UTF-8")
  | noSettings {content : ByteArray} {diagnosis : Option String} {text : String} :
    String.fromUTF8? content = some text →
    (∀ entries, readToml? text = some entries → ¬FitSettings entries) →
    Fails path (.bytes content diagnosis) (.malformedFile path diagnosis)

end SettingsFile

namespace Overlay

variable {path : String} {file : SettingsFile} {layer : Overlay} {error : SettingsError}

theorem ofToml?_eq_some_iff {text : String} :
    ofToml? text = some layer ↔
      ∃ entries, readToml? text = some entries ∧ FitSettings entries ∧ layer.Tells entries := by
  rw [ofToml?, Option.bind_eq_some_iff]
  simp only [foldlM_insertEntry_eq_some_iff]

theorem ofToml?_eq_none_iff {text : String} :
    ofToml? text = none ↔ ∀ entries, readToml? text = some entries → ¬FitSettings entries := by
  rw [ofToml?, Option.bind_eq_none_iff]
  simp only [← exists_foldlM_iff, Option.eq_none_iff_forall_ne_some, not_exists, ne_eq]

/-- The layer of a text is that of the file of its bytes. -/
theorem ofFile_toUTF8 {text : String} (h : ofToml? text = some layer) (path : String)
    (diagnosis : Option String) : ofFile path (.bytes text.toUTF8 diagnosis) = .ok layer := by
  have hdecoded : String.fromUTF8? text.toUTF8 = some text := dif_pos text.isValidUTF8
  simp only [ofFile, hdecoded, h]

theorem ofFile_eq_ok_iff : ofFile path file = .ok layer ↔ file.Gives layer := by
  constructor
  · intro h
    unfold ofFile at h
    split at h
    · cases h
      exact .absent
    · contradiction
    · split at h
      · contradiction
      · next htext =>
        split at h
        · contradiction
        · next hlayer =>
          cases h
          obtain ⟨entries, hentries, hfit, htells⟩ := ofToml?_eq_some_iff.mp hlayer
          exact .bytes htext hentries hfit htells
  · rintro (_ | ⟨htext, hentries, hfit, htells⟩)
    · rfl
    · have hlayer := ofToml?_eq_some_iff.mpr ⟨_, hentries, hfit, htells⟩
      simp only [ofFile, htext, hlayer]

theorem ofFile_eq_error_iff : ofFile path file = .error error ↔ file.Fails path error := by
  constructor
  · intro h
    unfold ofFile at h
    split at h
    · contradiction
    · cases h
      exact .unreadable
    · split at h
      · next hnone =>
        cases h
        exact .noText hnone
      · next htext =>
        split at h
        · next hnone =>
          cases h
          exact .noSettings htext (ofToml?_eq_none_iff.mp hnone)
        · contradiction
  · rintro (_ | hnone | ⟨htext, hentries⟩)
    · rfl
    · simp only [ofFile, hnone]
    · simp only [ofFile, htext, ofToml?_eq_none_iff.mpr hentries]

end Overlay

end Irrigation
