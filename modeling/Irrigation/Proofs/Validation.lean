import Irrigation.Operation
import Irrigation.Proofs.ExceptLemmas

/-!
# What options describe

Validation read backwards: which options an operation comes from.

* `UnitId.number`, `Zone.number`: the integer of a unit and of a zone. `ofInt_eq_ok_iff`: an integer
  is accepted exactly for the unit or the zone whose number it is.
* `Zone.toNat_add_byte`: the opcode of a zone is its base and its number.
* `Requirement.Admits`: what a requirement makes of a parameter.
* `Options.readCommand_eq_ok_iff`, `Options.validate_eq_ok_iff`: the options that are accepted.
-/

namespace Irrigation

/-! ## Numbers -/

/-- The number of a unit. -/
def UnitId.number (unit : UnitId) : Int := unit.byte.toNat

/-- The number of a zone. -/
def Zone.number (zone : Zone) : Int := zone.byte.toNat

/-- A byte made of an integer in range is that integer. -/
theorem ofNat_toNat_eq_iff {number : Int} {byte : UInt8} (h : 0 ≤ number ∧ number < 256) :
    UInt8.ofNat number.toNat = byte ↔ number = byte.toNat := by
  rw [← UInt8.toNat_inj, UInt8.toNat_ofNat']
  omega

theorem UnitId.ofInt_eq_ok_iff {number : Int} {unit : UnitId} :
    ofInt number = .ok unit ↔ number = unit.number := by
  obtain ⟨byte, hlow, hhigh⟩ := unit
  unfold ofInt ofInt? UnitId.number
  by_cases h : 1 ≤ number ∧ number ≤ 254
  · rw [dif_pos h]
    simp only [Except.ok.injEq, UnitId.mk.injEq]
    exact ofNat_toNat_eq_iff (by omega)
  · rw [dif_neg h]
    exact ⟨nofun, fun hn => absurd (by simp only at hn; omega) h⟩

theorem Zone.ofInt_eq_ok_iff {number : Int} {zone : Zone} :
    ofInt number = .ok zone ↔ number = zone.number := by
  obtain ⟨byte, hlow, hhigh⟩ := zone
  unfold ofInt ofInt? Zone.number
  by_cases h : 1 ≤ number ∧ number ≤ 8
  · rw [dif_pos h]
    simp only [Except.ok.injEq, Zone.mk.injEq]
    exact ofNat_toNat_eq_iff (by omega)
  · rw [dif_neg h]
    exact ⟨nofun, fun hn => absurd (by simp only at hn; omega) h⟩

theorem UnitId.ofInt?_number (unit : UnitId) : ofInt? unit.number = some unit := by
  have h := ofInt_eq_ok_iff.mpr (Eq.refl unit.number)
  unfold ofInt at h
  split at h
  · next unit' hunit =>
    cases h
    exact hunit
  · contradiction

theorem Zone.ofInt?_number (zone : Zone) : ofInt? zone.number = some zone := by
  have h := ofInt_eq_ok_iff.mpr (Eq.refl zone.number)
  unfold ofInt at h
  split at h
  · next zone' hzone =>
    cases h
    exact hzone
  · contradiction

/-- Behind a low base the number of a zone still has room in one byte. -/
theorem Zone.toNat_add_byte (zone : Zone) {base : UInt8} (h : base.toNat ≤ 247) :
    (base + zone.byte).toNat = base.toNat + zone.byte.toNat := by
  have hhigh := zone.le_max
  rw [UInt8.toNat_add, Nat.mod_eq_of_lt (by omega)]

/-! ## Keywords -/

namespace Command

theorem mem_all (command : Command) : command ∈ all := by
  cases command <;> decide

theorem keyword_inj {command other : Command}
    (h : command.keyword.toList = other.keyword.toList) : command = other := by
  revert h
  cases command <;> cases other <;> decide

/-- A word names a command exactly if it is the keyword of the command up to the case of its ASCII
letters. -/
theorem ofKeyword?_eq_some_iff {text : String} {command : Command} :
    ofKeyword? text = some command ↔ command.keyword.toList = text.toList.map Char.toLower := by
  unfold ofKeyword?
  constructor
  · intro h
    simpa using List.find?_some h
  · intro h
    cases hfound : all.find? fun other => other.keyword.toList = text.toList.map Char.toLower with
    | none =>
      have hnone := List.find?_eq_none.mp hfound command command.mem_all
      exact absurd h (by simpa using hnone)
    | some other =>
      have hother : other.keyword.toList = text.toList.map Char.toLower := by
        simpa using List.find?_some hfound
      rw [keyword_inj (hother.trans h.symm)]

end Command

/-! ## Requirements -/

section

variable {α β ε : Type}

/-- What a requirement makes of a parameter: a value of the given number, which has to be there if
it is required, and nothing if it is unused. -/
def Requirement.Admits (number : β → α) : Requirement → Option α → Option β → Prop
  | .required, value, result => ∃ b, value = some (number b) ∧ result = some b
  | .optional, value, result => value = result.map number
  | .unused, _, result => result = none

theorem checkRange_eq_ok_iff {check : α → Except ε β} {number : β → α}
    (h : ∀ a b, check a = .ok b ↔ a = number b) {value : Option α} {result : Option β} :
    checkRange check value = .ok result ↔ value = result.map number := by
  cases value with
  | none => cases result <;> simp [checkRange]
  | some a =>
    have hmap :
        checkRange check (some a) = .ok result ↔ ∃ b, check a = .ok b ∧ result = some b := by
      simp only [checkRange]
      cases check a <;> simp [Except.map, eq_comm]
    rw [hmap]
    cases result <;> simp [h]

theorem Requirement.check_eq_ok_iff {requirement : Requirement} {missing : ε}
    {value result : Option α} :
    requirement.check missing value = .ok result ↔ requirement.Admits id value result := by
  cases requirement with
  | required => cases value <;> simp [check, Admits, eq_comm]
  | optional => cases value <;> simp [check, Admits]
  | unused => simp [check, Admits, eq_comm]

/-- A parameter is first held against the requirement and then against its range. -/
theorem Requirement.admits_iff {check : α → Except ε β} {number : β → α}
    (h : ∀ a b, check a = .ok b ↔ a = number b) {requirement : Requirement} {missing : ε}
    {value : Option α} {result : Option β} :
    (∃ given, requirement.check missing value = .ok given ∧ checkRange check given = .ok result) ↔
      requirement.Admits number value result := by
  simp only [check_eq_ok_iff, checkRange_eq_ok_iff h]
  cases requirement with
  | required => cases result <;> simp [Admits]
  | optional => simp [Admits]
  | unused => cases result <;> simp [Admits]

end

namespace Options

theorem readCommand_eq_ok_iff {options : Options} {command : Command} :
    options.readCommand = .ok command ↔
      ∃ text, options.command = some text ∧
        command.keyword.toList = text.toList.map Char.toLower := by
  simp only [← Command.ofKeyword?_eq_some_iff]
  cases htext : options.command with
  | none => simp [readCommand, htext]
  | some text => cases hcommand : Command.ofKeyword? text <;> simp [readCommand, htext, hcommand]

/-- Options describe an operation exactly if they name its command, each parameter is as the
command requires, and the operation is made of these parameters. -/
theorem validate_eq_ok_iff {options : Options} {operation : Operation} :
    options.validate = .ok operation ↔
      ∃ command unit zone timers, options.readCommand = .ok command ∧
        command.requirements.unit.Admits UnitId.number options.unit unit ∧
        command.requirements.zone.Admits Zone.number options.zone zone ∧
        command.requirements.timers.Admits id options.timers timers ∧
        command.operation unit zone timers = .ok operation := by
  unfold validate
  simp only [bind_eq_ok_iff]
  constructor
  · rintro ⟨command, hcommand, unit₀, hunit₀, unit, hunit, zone₀, hzone₀, zone, hzone, timers,
      htimers, h⟩
    exact ⟨command, unit, zone, timers, hcommand,
      (Requirement.admits_iff fun _ _ => UnitId.ofInt_eq_ok_iff).mp ⟨unit₀, hunit₀, hunit⟩,
      (Requirement.admits_iff fun _ _ => Zone.ofInt_eq_ok_iff).mp ⟨zone₀, hzone₀, hzone⟩,
      Requirement.check_eq_ok_iff.mp htimers, h⟩
  · rintro ⟨command, unit, zone, timers, hcommand, hunit, hzone, htimers, h⟩
    obtain ⟨unit₀, hunit₀, hunit⟩ :=
      (Requirement.admits_iff fun _ _ => UnitId.ofInt_eq_ok_iff).mpr hunit
    obtain ⟨zone₀, hzone₀, hzone⟩ :=
      (Requirement.admits_iff fun _ _ => Zone.ofInt_eq_ok_iff).mpr hzone
    exact ⟨command, hcommand, unit₀, hunit₀, unit, hunit, zone₀, hzone₀, zone, hzone, timers,
      Requirement.check_eq_ok_iff.mpr htimers, h⟩

end Options

end Irrigation
