import Irrigation.Proofs.Timers.Grammar

/-!
# Canonical timer tokens

* `TimerList.toList_render`: the text of a list is its numerals with commas between them.
* `TimerList.isTimerToken_render`: it is a timer token.
* `TimerList.parse_render`: it is read back as the list.
-/

namespace Irrigation

/-- The digits of a byte that is not zero are a timer field. -/
theorem isTimerField_toDigits {byte : UInt8} (h : byte ≠ 0) :
    IsTimerField (Nat.toDigits 10 byte.toNat) := by
  have hvalue : digitsValue (Nat.toDigits 10 byte.toNat) = byte.toNat := Nat.ofDigitChars_ten_toDigits
  have hpos : byte.toNat ≠ 0 := by
    intro hzero
    exact h (UInt8.toNat_inj.mp hzero)
  have hlt : byte.toNat < 256 := byte.toNat_lt
  refine ⟨Nat.toDigits_ne_nil, forall_isDigit_toDigits _, ?_, ?_⟩ <;> omega

namespace TimerList

variable {timers other : TimerList}

theorem ne_zero_of_mem {byte : UInt8} (h : byte ∈ timers.toList) : byte ≠ 0 :=
  timers.nonzero byte (Vector.mem_toList_iff.mp h)

theorem toList_inj : timers.toList = other.toList ↔ timers = other := by
  cases timers
  cases other
  simp [toList, Vector.toList_inj]

/-- Lists with the same values are the same. -/
theorem eq_of_map_toNat (h : timers.toList.map UInt8.toNat = other.toList.map UInt8.toNat) :
    timers = other := by
  have hinj : timers.toList = other.toList :=
    (List.map_inj_right fun _ _ => UInt8.toNat_inj.mp).mp h
  exact toList_inj.mp hinj

/-- The numerals of the values: the digits of each of them. -/
def numerals (timers : TimerList) : List (List Char) :=
  timers.toList.map fun byte => Nat.toDigits 10 byte.toNat

theorem toList_render (timers : TimerList) :
    timers.render.toList = [','].intercalate timers.numerals := by
  simp [render, numerals, Function.comp_def]

theorem map_digitsValue_numerals (timers : TimerList) :
    timers.numerals.map digitsValue = timers.toList.map UInt8.toNat := by
  simp [numerals]

theorem isTimerToken_render (timers : TimerList) :
    IsTimerToken timers.render timers.numerals where
  length_eq := by simp [numerals]
  isTimerField := by
    intro field hfield
    obtain ⟨byte, hbyte, rfl⟩ := List.mem_map.mp hfield
    exact isTimerField_toDigits (ne_zero_of_mem hbyte)
  text := .inl timers.toList_render

/-- The text of a list is read back as the list. -/
theorem parse_render (timers : TimerList) : parse timers.render = .ok timers := by
  obtain ⟨read, hread, hvalues⟩ := parse_isTimerToken timers.isTimerToken_render
  rw [timers.map_digitsValue_numerals] at hvalues
  rw [hread, eq_of_map_toNat hvalues]

end TimerList

end Irrigation
