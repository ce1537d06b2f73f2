import Irrigation.Text.Number
import Mathlib.Algebra.Group.Int.Defs
import Mathlib.Data.List.Induction

/-!
# Rows of digits

* `digitsValue`: the value of a row of decimal digits, leading zeros or not.
* `digitsValue_le_append`: more digits never make it less.
* `digit?_of_isDigit`, `digit?_of_not_isDigit`: what counts as a digit.
* `withoutLeadingZeros`: a row of digits without the zeros in front. `withoutLeadingZeros_eq`: these
  are the digits of its value.
* `readMagnitude_of_isDigit`, `readInt64_repr`: digits within bounds are read as their value, and
  the text of a 64-bit integer is read back.
-/

namespace Irrigation

/-- The value of a row of decimal digits. -/
abbrev digitsValue (chars : List Char) : Nat := Nat.ofDigitChars 10 chars 0

theorem digitsValue_append_singleton (chars : List Char) (c : Char) :
    digitsValue (chars ++ [c]) = 10 * digitsValue chars + (c.toNat - 48) :=
  Nat.ofDigitChars_append 0

theorem digitsValue_le_append (chars rest : List Char) :
    digitsValue chars ≤ digitsValue (chars ++ rest) := by
  have hpow : 0 < 10 ^ rest.length := Nat.pow_pos (by decide)
  rw [digitsValue, digitsValue, Nat.ofDigitChars_append,
    @Nat.ofDigitChars_eq_ofDigitChars_zero rest]
  exact Nat.le_add_right_of_le (Nat.le_mul_of_pos_left _ hpow)

theorem digit?_of_isDigit {c : Char} (h : c.isDigit) : digit? c = some (c.toNat - 48) := if_pos h

theorem digit?_of_not_isDigit {c : Char} (h : ¬c.isDigit) : digit? c = none := if_neg h

theorem utf8Size_of_isDigit {c : Char} (h : c.isDigit) : c.utf8Size = 1 := by
  obtain ⟨-, hhigh⟩ := Char.isDigit_iff_toNat.mp h
  rw [Char.utf8Size_eq_one_iff, UInt32.le_iff_toNat_le]
  exact Nat.le_trans hhigh (by decide)

/-! ## Zeros in front -/

/-- A row of digits without the zeros in front. -/
def withoutLeadingZeros (digits : List Char) : List Char := digits.dropWhile (· = '0')

theorem digitsValue_withoutLeadingZeros (digits : List Char) :
    digitsValue (withoutLeadingZeros digits) = digitsValue digits := by
  induction digits with
  | nil => rfl
  | cons c digits ih =>
    by_cases hc : c = '0'
    · subst hc
      exact ih
    · rw [withoutLeadingZeros, List.dropWhile_cons_of_neg (by simpa using hc)]

/-- Where the zeros in front are left out, everything but zeros stays. -/
theorem eq_zero_or_mem_withoutLeadingZeros {digits : List Char} {c : Char} (h : c ∈ digits) :
    c = '0' ∨ c ∈ withoutLeadingZeros digits := by
  rw [← List.takeWhile_append_dropWhile (p := (· = '0')) (l := digits)] at h
  rcases List.mem_append.mp h with hc | hc
  · left
    simpa using List.all_eq_true.mp List.all_takeWhile c hc
  · exact .inr hc

theorem withoutLeadingZeros_append (digits rest : List Char) :
    withoutLeadingZeros (digits ++ rest) =
      if withoutLeadingZeros digits = [] then withoutLeadingZeros rest
      else withoutLeadingZeros digits ++ rest := by
  rw [withoutLeadingZeros, List.dropWhile_append, ← withoutLeadingZeros, ← withoutLeadingZeros]
  simp only [List.isEmpty_iff]

theorem digitChar_toNat_sub {c : Char} (h : c.isDigit) : Nat.digitChar (c.toNat - 48) = c := by
  obtain ⟨hlow, hhigh⟩ : 48 ≤ c.toNat ∧ c.toNat ≤ 57 := Char.isDigit_iff_toNat.mp h
  rw [← Char.toNat_inj, Nat.toNat_digitChar_of_lt_ten (by omega)]
  omega

/-- Digits without the zeros in front are those of their value, unless they are all zeros. -/
theorem withoutLeadingZeros_eq {digits : List Char} (h : ∀ c ∈ digits, c.isDigit) :
    withoutLeadingZeros digits =
      if digitsValue digits = 0 then [] else Nat.toDigits 10 (digitsValue digits) := by
  induction digits using List.reverseRecOn with
  | nil => rfl
  | append_singleton digits c ih =>
    obtain ⟨hdigits, hc⟩ := List.forall_mem_append.mp h
    have hc := hc c (List.mem_singleton_self c)
    obtain ⟨hlow, hhigh⟩ : 48 ≤ c.toNat ∧ c.toNat ≤ 57 := Char.isDigit_iff_toNat.mp hc
    have hlt : c.toNat - 48 < 10 := by omega
    have hlast : Nat.toDigits 10 (c.toNat - 48) = [c] := by
      rw [Nat.toDigits_of_lt_base hlt, digitChar_toNat_sub hc]
    rw [withoutLeadingZeros_append, ih hdigits, digitsValue_append_singleton]
    by_cases hzero : digitsValue digits = 0
    · have hsingle : c = '0' ↔ c.toNat - 48 = 0 := by
        have hcode : '0'.toNat = 48 := rfl
        rw [← Char.toNat_inj, hcode]
        omega
      simp only [hzero, ↓reduceIte, Nat.mul_zero, Nat.zero_add, hlast, ← hsingle,
        withoutLeadingZeros, List.dropWhile_cons, decide_eq_true_eq, List.dropWhile_nil]
    · have hdigits := Nat.toDigits_append_toDigits (by decide) (Nat.pos_of_ne_zero hzero) hlt
      rw [if_neg hzero, if_neg Nat.toDigits_ne_nil, if_neg (by omega), ← hdigits, hlast]

/-! ## Reading -/

theorem appendDigits_of_isDigit {limit : Nat} {overflow : NumberError} {before digits : List Char}
    (hdigits : ∀ d ∈ digits, d.isDigit) (hle : digitsValue (before ++ digits) ≤ limit) :
    appendDigits limit overflow (digitsValue before) digits =
      .ok (digitsValue (before ++ digits)) := by
  induction digits generalizing before with
  | nil => rw [List.append_nil]; rfl
  | cons d digits ih =>
    obtain ⟨hd, hdigits⟩ := List.forall_mem_cons.mp hdigits
    rw [List.append_cons] at hle ⊢
    have hnext := Nat.le_trans (digitsValue_le_append (before ++ [d]) digits) hle
    rw [digitsValue_append_singleton] at hnext
    simp only [appendDigits, digit?_of_isDigit hd, if_pos hnext]
    rw [← digitsValue_append_singleton]
    exact ih hdigits hle

/-- Digits with a value within bounds are read as this value. -/
theorem readMagnitude_of_isDigit {limit : Nat} {overflow : NumberError} {digits : List Char}
    (hne : digits ≠ []) (hdigits : ∀ d ∈ digits, d.isDigit) (hle : digitsValue digits ≤ limit) :
    readMagnitude limit overflow digits = .ok (digitsValue digits) := by
  obtain ⟨d, rest, rfl⟩ := List.exists_cons_of_ne_nil hne
  exact @appendDigits_of_isDigit limit overflow [] (d :: rest) hdigits hle

theorem forall_isDigit_toDigits (n : Nat) : ∀ c ∈ Nat.toDigits 10 n, c.isDigit :=
  fun _ => Nat.isDigit_of_mem_toDigits (by decide) (by decide)

theorem readMagnitude_toDigits {limit n : Nat} (h : n ≤ limit) (overflow : NumberError) :
    readMagnitude limit overflow (Nat.toDigits 10 n) = .ok n := by
  have hvalue : digitsValue (Nat.toDigits 10 n) = n := Nat.ofDigitChars_ten_toDigits
  have hread := @readMagnitude_of_isDigit limit overflow (Nat.toDigits 10 n) Nat.toDigits_ne_nil
    (forall_isDigit_toDigits n) (by rwa [hvalue])
  rwa [hvalue] at hread

/-- The text of a number begins with a digit. -/
theorem exists_toDigits_eq_cons (n : Nat) :
    ∃ d digits, Nat.toDigits 10 n = d :: digits ∧ d.isDigit := by
  obtain ⟨d, digits, hdigits⟩ := List.exists_cons_of_ne_nil (@Nat.toDigits_ne_nil n 10)
  have hd : d ∈ Nat.toDigits 10 n := by
    rw [hdigits]
    exact List.mem_cons_self
  exact ⟨d, digits, hdigits, forall_isDigit_toDigits n d hd⟩

/-- A text that begins with a digit has no sign. -/
theorem readInt64_of_isDigit {text : String} {d : Char} {digits : List Char}
    (htext : text.toList = d :: digits) (hd : d.isDigit) :
    readInt64 text =
      (readMagnitude 0x7FFFFFFFFFFFFFFF .tooLarge (d :: digits)).map Int.ofNat := by
  unfold readInt64
  rw [htext]
  split
  · contradiction
  · next h =>
    cases h
    exact absurd hd (by decide)
  · next h =>
    cases h
    exact absurd hd (by decide)
  · rfl

/-- The text of an integer that fits 64 bits is read back as the integer. -/
theorem readInt64_repr {i : Int} (hlow : -2 ^ 63 ≤ i) (hhigh : i < 2 ^ 63) :
    readInt64 i.repr = .ok i := by
  rw [Int.repr_eq_if]
  by_cases hpos : 0 ≤ i
  · have hread := @readMagnitude_toDigits 0x7FFFFFFFFFFFFFFF i.toNat (by omega) .tooLarge
    have hi : (i.toNat : Int) = i := by omega
    obtain ⟨d, digits, hdigits, hd⟩ := exists_toDigits_eq_cons i.toNat
    have htext : i.toNat.repr.toList = d :: digits := by rw [Nat.toList_repr, hdigits]
    rw [if_pos hpos, readInt64_of_isDigit htext hd, ← hdigits, hread]
    exact congrArg Except.ok hi
  · have hread := @readMagnitude_toDigits 0x8000000000000000 (-i).toNat (by omega) .tooSmall
    have hi : -((-i).toNat : Int) = i := by omega
    have htext : ("-" ++ (-i).toNat.repr).toList = '-' :: Nat.toDigits 10 (-i).toNat := by
      rw [String.toList_append, Nat.toList_repr]
      rfl
    rw [if_neg hpos, readInt64, htext]
    simp only [hread]
    exact congrArg Except.ok hi

end Irrigation
