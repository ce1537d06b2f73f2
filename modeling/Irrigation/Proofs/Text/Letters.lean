import Mathlib.Data.List.Forall2

/-!
# The case of letters

* `SameLetter`, `SameUpToCase`: characters and texts that differ at most in the case of ASCII
  letters.
* `sameUpToCase_iff`: these are the texts that are equal in lower case.
-/

namespace Irrigation

/-- Two characters are the same, or one ASCII letter in its two cases. -/
def SameLetter (c d : Char) : Prop :=
  c = d ∨ c.isUpper ∧ d.toNat = c.toNat + 32 ∨ d.isUpper ∧ c.toNat = d.toNat + 32

/-- Two texts differ at most in the case of ASCII letters. -/
def SameUpToCase (text other : String) : Prop :=
  List.Forall₂ SameLetter text.toList other.toList

/-- An upper-case letter is a character from `A` to `Z`. -/
theorem isUpper_iff_toNat {c : Char} : c.isUpper ↔ 65 ≤ c.toNat ∧ c.toNat ≤ 90 := by
  have hbounds : c.isUpper ↔ c.val ≥ 'A'.val ∧ c.val ≤ 'Z'.val := decide_eq_true_iff
  rw [hbounds, ge_iff_le, UInt32.le_iff_toNat_le, UInt32.le_iff_toNat_le]
  rfl

theorem toNat_toLower (c : Char) :
    c.toLower.toNat = if c.isUpper then c.toNat + 32 else c.toNat := by
  by_cases h : c.isUpper
  · have hval := decide_eq_true_iff.mp h
    obtain ⟨-, hhigh⟩ := isUpper_iff_toNat.mp h
    have hsum : (c.val + 32).toNat = c.val.toNat + 32 := by
      rw [UInt32.toNat_add, Nat.mod_eq_of_lt]
      · rfl
      · rw [Char.toNat_val]
        exact Nat.lt_of_le_of_lt (Nat.add_le_add_right hhigh _) (by decide)
    rw [if_pos h]
    change Char.toNat (dite (c.val ≥ 'A'.val ∧ c.val ≤ 'Z'.val) _ _) = _
    rw [dif_pos hval]
    exact hsum
  · have hval : ¬(c.val ≥ 'A'.val ∧ c.val ≤ 'Z'.val) := fun hc => h (decide_eq_true_iff.mpr hc)
    have hlower : c.toLower = c := dif_neg hval
    rw [if_neg h, hlower]

theorem toLower_eq_toLower_iff {c d : Char} : c.toLower = d.toLower ↔ SameLetter c d := by
  unfold SameLetter
  rw [← Char.toNat_inj, ← Char.toNat_inj, toNat_toLower, toNat_toLower]
  simp only [isUpper_iff_toNat]
  split <;> split <;> omega

theorem sameUpToCase_iff {text other : String} :
    SameUpToCase text other ↔
      text.toList.map Char.toLower = other.toList.map Char.toLower := by
  rw [← List.forall₂_eq_eq_eq, List.forall₂_map_left_iff, List.forall₂_map_right_iff]
  simp only [toLower_eq_toLower_iff, SameUpToCase]

end Irrigation
