import Irrigation.Proofs.Text.Digits
import Irrigation.Timers.Token

/-!
# The scan of a timer token

What the scan holds behind some characters, told from the fields that these characters make.

* `TokenScan.behind`: what a scan holds behind closed fields and the digits of an open one.
* `step_digit`, `step_comma`, `step_other`: each step of the scan as an equation between such scans.
* `IsTimerField`, `TokenScan.Fits`: a field with a value that a timer can have; fields that a scan
  can have read. `run_eq_ok`: a scan that meets no error has read such fields, and these characters.
* `run_fields`, `Fits.run_eq`: a scan meets no error in such fields.
* `closeLast_behind`, `closeLast_eq_ok`: what the end of the token does to the open field.
-/

namespace Irrigation

/-- A field of a token: digits, at least one, with a value that a timer can have. -/
structure IsTimerField (field : List Char) : Prop where
  ne_nil : field ≠ []
  digits : ∀ c ∈ field, c.isDigit
  one_le : 1 ≤ digitsValue field
  le_max : digitsValue field ≤ 255

instance (field : List Char) : Decidable (IsTimerField field) :=
  decidable_of_iff
    (field ≠ [] ∧ field.all Char.isDigit ∧ 1 ≤ digitsValue field ∧ digitsValue field ≤ 255)
    ⟨fun ⟨hne, hdigits, hone, hmax⟩ => ⟨hne, List.all_eq_true.mp hdigits, hone, hmax⟩,
      fun h => ⟨h.ne_nil, List.all_eq_true.mpr h.digits, h.one_le, h.le_max⟩⟩

/-- The characters of closed fields, each with its comma. -/
def closedChars (fields : List (List Char)) : List Char := fields.flatMap (· ++ [','])

theorem closedChars_append_singleton (fields : List (List Char)) (field : List Char) :
    closedChars (fields ++ [field]) = closedChars fields ++ (field ++ [',']) := by
  rw [closedChars, List.flatMap_append, List.flatMap_singleton]
  rfl

namespace TokenScan

/-- What a scan holds behind closed fields and the digits of an open one. -/
def behind (closed : List (List Char)) (current : List Char) : TokenScan where
  slots := Vector.ofFn fun i => UInt8.ofNat (digitsValue (closed.getD i []))
  count := closed.length
  openField := if current = [] then none else some (UInt16.ofNat (digitsValue current))

theorem behind_nil : behind [] [] = start := rfl

variable {closed : List (List Char)} {current : List Char} {position : Nat}

/-! ## Steps -/

theorem openField_behind (closed : List (List Char)) (current : List Char) :
    (behind closed current).openField.getD 0 = UInt16.ofNat (digitsValue current) := by
  by_cases h : current = []
  · rw [h]
    rfl
  · simp only [behind, if_neg h, Option.getD_some]

/-- The next digit of the open field goes into its value as into that of its digits. -/
theorem append_digit (current : List Char) (c : Char) :
    UInt16.ofNat (digitsValue current) * 10 + UInt16.ofNat (c.toNat - 48) =
      UInt16.ofNat (digitsValue (current ++ [c])) := by
  rw [digitsValue_append_singleton, UInt16.ofNat_add, UInt16.ofNat_mul, UInt16.mul_comm]
  rfl

/-- A value in range stays in its sixteen bits with one more digit. -/
theorem lt_ofNat_append_iff {c : Char} (h : c.isDigit) (hle : digitsValue current ≤ 255) :
    UInt16.ofNat (digitsValue (current ++ [c])) > 255 ↔ 255 < digitsValue (current ++ [c]) := by
  obtain ⟨-, hhigh⟩ : 48 ≤ c.toNat ∧ c.toNat ≤ 57 := Char.isDigit_iff_toNat.mp h
  have hlt : digitsValue (current ++ [c]) < UInt16.size := by
    rw [digitsValue_append_singleton, UInt16.size]
    omega
  rw [gt_iff_lt, UInt16.lt_iff_toNat_lt, UInt16.toNat_ofNat_of_lt' hlt]
  rfl

theorem step_digit {c : Char} (h : c.isDigit) (hle : digitsValue current ≤ 255) :
    (behind closed current).step position c =
      if 255 < digitsValue (current ++ [c]) then .error (.outOfRange (closed.length + 1))
      else .ok (behind closed (current ++ [c])) := by
  have hopen : (behind closed (current ++ [c])).openField =
      some (UInt16.ofNat (digitsValue (current ++ [c]))) := if_neg (by simp)
  simp only [step, digit?_of_isDigit h, openField_behind, append_digit, lt_ofNat_append_iff h hle,
    ← hopen]
  rfl

/-- Closing a field puts its value into the first free slot, as one byte. -/
theorem slots_behind_append (hfree : closed.length < 8) :
    (behind closed current).slots.set closed.length (UInt8.ofNat (digitsValue current)) hfree =
      (behind (closed ++ [current]) []).slots := by
  apply Vector.ext
  intro i hi
  simp only [behind, Vector.getElem_set, Vector.getElem_ofFn, List.getD_eq_getElem?_getD]
  by_cases h : closed.length = i
  · subst h
    rw [if_pos rfl, List.getElem?_concat_length, Option.getD_some]
  · rw [if_neg h]
    rcases Nat.lt_or_gt_of_ne h with hlt | hgt
    · rw [List.getElem?_eq_none (by omega), List.getElem?_eq_none (by simp; omega)]
    · rw [List.getElem?_append_left hgt]

/-- The slots are the closed fields as bytes, and zeros behind them. -/
theorem toList_slots_behind (hle : closed.length ≤ 8) :
    (behind closed current).slots.toList =
      closed.map (fun field => UInt8.ofNat (digitsValue field)) ++
        List.replicate (8 - closed.length) 0 := by
  apply List.ext_getElem
  · rw [Vector.length_toList, List.length_append, List.length_map, List.length_replicate]
    omega
  · intro i hi _
    rw [List.getElem_append]
    split
    · next h =>
      rw [List.length_map] at h
      simp [behind, h]
    · next h =>
      have hzero : digitsValue [] = 0 := rfl
      rw [List.length_map] at h
      simp [behind, h, hzero]

/-- As bytes the values of fields stay what they are. -/
theorem map_toNat_bytes {fields : List (List Char)}
    (hle : ∀ field ∈ fields, digitsValue field ≤ 255) :
    (fields.map fun field => UInt8.ofNat (digitsValue field)).map UInt8.toNat =
      fields.map digitsValue := by
  rw [List.map_map]
  exact List.map_congr_left fun field hfield =>
    UInt8.toNat_ofNat_of_lt' (Nat.lt_succ_of_le (hle field hfield))

theorem close_behind (hle : digitsValue current ≤ 255) :
    (behind closed current).close (UInt16.ofNat (digitsValue current)) =
      if digitsValue current = 0 then .error (.zeroValue (closed.length + 1))
      else if closed.length < 8 then .ok (behind (closed ++ [current]) [])
      else .error .tooManyValues := by
  have hzero : UInt16.ofNat (digitsValue current) = 0 ↔ digitsValue current = 0 := by
    rw [← UInt16.toNat_inj, UInt16.toNat_ofNat_of_lt' (by rw [UInt16.size]; omega)]
    rfl
  simp only [close, hzero]
  by_cases hfree : closed.length < 8
  · have hslots := @slots_behind_append closed current hfree
    have hcount : (behind (closed ++ [current]) []).count = closed.length + 1 :=
      List.length_append
    simp only [hfree, ↓reduceIte, ↓reduceDIte, behind, UInt16.toUInt8_ofNat'] at hslots hcount ⊢
    rw [hslots, hcount]
    rfl
  · simp only [behind, hfree, ↓reduceIte, ↓reduceDIte]
    rfl

/-- A timer field is closed while a slot is free. -/
theorem close_isTimerField (h : IsTimerField current) (hfree : closed.length < 8) :
    (behind closed current).close (UInt16.ofNat (digitsValue current)) =
      .ok (behind (closed ++ [current]) []) := by
  rw [close_behind h.le_max, if_neg (Nat.one_le_iff_ne_zero.mp h.one_le), if_pos hfree]

theorem step_comma :
    (behind closed current).step position ',' =
      if current = [] then .error (.emptyField (closed.length + 1))
      else (behind closed current).close (UInt16.ofNat (digitsValue current)) := by
  have hdigit : digit? ',' = none := rfl
  simp only [step, hdigit, ↓reduceIte]
  by_cases h : current = []
  · subst h
    rfl
  · simp only [behind, if_neg h]

theorem step_other {c : Char} (hdigit : ¬c.isDigit) (hcomma : c ≠ ',') :
    (behind closed current).step position c = .error (.invalidCharacter c position) := by
  simp only [step, digit?_of_not_isDigit hdigit, if_neg hcomma]

/-! ## Runs -/

/-- The fields that a scan can have read without an error. -/
structure Fits (closed : List (List Char)) (current : List Char) : Prop where
  fields : ∀ field ∈ closed, IsTimerField field
  length_le : closed.length ≤ 8
  digits : ∀ c ∈ current, c.isDigit
  le_max : digitsValue current ≤ 255

theorem Fits.nil : Fits [] [] :=
  ⟨List.forall_mem_nil _, Nat.zero_le 8, List.forall_mem_nil _, Nat.zero_le 255⟩

/-- Where an open field is closed without an error, it is a timer field, and a slot was free. -/
theorem Fits.close {next : TokenScan} (h : Fits closed current) (hne : current ≠ [])
    (hclose : (behind closed current).close (UInt16.ofNat (digitsValue current)) = .ok next) :
    next = behind (closed ++ [current]) [] ∧ Fits (closed ++ [current]) [] := by
  rw [close_behind h.le_max] at hclose
  split at hclose
  · contradiction
  · next hzero =>
    split at hclose
    · next hfree =>
      cases hclose
      have hfield : IsTimerField current :=
        ⟨hne, h.digits, Nat.one_le_iff_ne_zero.mpr hzero, h.le_max⟩
      refine ⟨rfl, List.forall_mem_append.mpr ⟨h.fields, ?_⟩, ?_, List.forall_mem_nil _,
        Nat.zero_le 255⟩
      · intro field hmem
        rwa [List.mem_singleton.mp hmem]
      · rw [List.length_append, List.length_singleton]
        exact hfree
    · contradiction

/-- A step without an error goes from fields that fit to fields that fit, and has read its
character. -/
theorem step_eq_ok {c : Char} {next : TokenScan} (h : Fits closed current)
    (hstep : (behind closed current).step position c = .ok next) :
    ∃ closed' current', next = behind closed' current' ∧ Fits closed' current' ∧
      closedChars closed' ++ current' = closedChars closed ++ current ++ [c] := by
  by_cases hdigit : c.isDigit
  · rw [step_digit hdigit h.le_max] at hstep
    split at hstep
    · contradiction
    · next hle =>
      cases hstep
      refine ⟨closed, current ++ [c], rfl, ⟨h.fields, h.length_le, ?_, Nat.not_lt.mp hle⟩, ?_⟩
      · intro d hd
        rcases List.mem_append.mp hd with hd | hd
        · exact h.digits d hd
        · rwa [List.mem_singleton.mp hd]
      · rw [List.append_assoc]
  · by_cases hcomma : c = ','
    · subst hcomma
      rw [step_comma] at hstep
      split at hstep
      · contradiction
      · next hne =>
        obtain ⟨rfl, hfits⟩ := h.close hne hstep
        refine ⟨closed ++ [current], [], rfl, hfits, ?_⟩
        rw [closedChars_append_singleton, List.append_nil, List.append_assoc]
    · rw [step_other hdigit hcomma] at hstep
      contradiction

/-- A scan that meets no error has read fields that fit, and its characters are theirs. -/
theorem run_eq_ok {chars : List Char} {last : TokenScan} (h : Fits closed current)
    (hrun : (behind closed current).run position chars = .ok last) :
    ∃ closed' current', last = behind closed' current' ∧ Fits closed' current' ∧
      closedChars closed' ++ current' = closedChars closed ++ current ++ chars := by
  induction chars generalizing closed current position with
  | nil =>
    cases hrun
    exact ⟨closed, current, rfl, h, (List.append_nil _).symm⟩
  | cons c chars ih =>
    rw [run] at hrun
    split at hrun
    · contradiction
    · next next hstep =>
      obtain ⟨closed₁, current₁, rfl, hfits, hchars⟩ := step_eq_ok h hstep
      obtain ⟨closed₂, current₂, rfl, hfits, hchars'⟩ := ih hfits hrun
      refine ⟨closed₂, current₂, rfl, hfits, ?_⟩
      rw [hchars', hchars, List.append_assoc _ [c], List.singleton_append]

/-- A scan reads digits into the open field as long as its value stays in range. -/
theorem run_digits {field rest : List Char} (hdigits : ∀ c ∈ field, c.isDigit)
    (hle : digitsValue (current ++ field) ≤ 255) :
    (behind closed current).run position (field ++ rest) =
      (behind closed (current ++ field)).run (position + field.length) rest := by
  induction field generalizing current position with
  | nil => rw [List.append_nil]; rfl
  | cons c field ih =>
    obtain ⟨hc, hdigits⟩ := List.forall_mem_cons.mp hdigits
    rw [List.append_cons] at hle
    have hnext := Nat.le_trans (digitsValue_le_append (current ++ [c]) field) hle
    have hnow := Nat.le_trans (digitsValue_le_append current [c]) hnext
    rw [List.cons_append, run, step_digit hc hnow, if_neg (Nat.not_lt.mpr hnext)]
    simp only
    rw [ih hdigits hle, utf8Size_of_isDigit hc, ← List.append_cons, List.length_cons,
      Nat.add_assoc, Nat.add_comm 1]

/-- A scan closes a timer field at its comma while a slot is free. -/
theorem run_field {field rest : List Char} (h : IsTimerField field) (hfree : closed.length < 8) :
    (behind closed []).run position (field ++ ',' :: rest) =
      (behind (closed ++ [field]) []).run (position + (field.length + 1)) rest := by
  have hdigits := @run_digits closed [] position field (',' :: rest) h.digits h.le_max
  rw [hdigits, List.nil_append, run, step_comma, if_neg h.ne_nil, close_isTimerField h hfree,
    ← Nat.add_assoc]
  rfl

/-- A scan closes timer fields one by one as long as there are slots for them. -/
theorem run_fields {fields : List (List Char)} {rest : List Char}
    (h : ∀ field ∈ fields, IsTimerField field) (hfree : closed.length + fields.length ≤ 8) :
    (behind closed []).run position (closedChars fields ++ rest) =
      (behind (closed ++ fields) []).run (position + (closedChars fields).length) rest := by
  induction fields generalizing closed position with
  | nil => rw [List.append_nil]; rfl
  | cons field fields ih =>
    obtain ⟨hfield, h⟩ := List.forall_mem_cons.mp h
    rw [List.length_cons] at hfree
    have hchars : closedChars (field :: fields) = field ++ ',' :: closedChars fields := by
      rw [closedChars, List.flatMap_cons, List.append_assoc]
      rfl
    rw [hchars, List.append_assoc, List.cons_append, run_field hfield (by omega), ih h ?_,
      ← List.append_cons closed, List.length_append, List.length_cons]
    · congr 1
      omega
    · rw [List.length_append, List.length_singleton]
      omega

/-- Fields that fit are read without an error. -/
theorem Fits.run_eq (h : Fits closed current) :
    start.run 0 (closedChars closed ++ current) = .ok (behind closed current) := by
  have hfree : ([] : List (List Char)).length + closed.length ≤ 8 := by simpa using h.length_le
  have hdigits : (behind closed []).run (0 + (closedChars closed).length) (current ++ []) =
      .ok (behind closed current) := run_digits h.digits h.le_max
  rw [List.append_nil] at hdigits
  rw [← behind_nil, run_fields h.fields hfree, List.nil_append, hdigits]

/-! ## The end of a token -/

theorem closeLast_behind :
    (behind closed current).closeLast =
      if current = [] then .ok (behind closed [])
      else (behind closed current).close (UInt16.ofNat (digitsValue current)) := by
  by_cases h : current = []
  · subst h
    rfl
  · simp only [closeLast, behind, if_neg h]

/-- The fields of a scan at the end of its token: one that is still open is the last of them. -/
theorem closeLast_eq_ok {last : TokenScan} (h : Fits closed current)
    (hclose : (behind closed current).closeLast = .ok last) :
    ∃ fields, last = behind fields [] ∧ Fits fields [] ∧
      (current = [] ∧ fields = closed ∨ fields = closed ++ [current]) := by
  rw [closeLast_behind] at hclose
  split at hclose
  · next hnil =>
    subst hnil
    cases hclose
    exact ⟨closed, rfl, h, .inl ⟨rfl, rfl⟩⟩
  · next hne =>
    obtain ⟨rfl, hfits⟩ := h.close hne hclose
    exact ⟨closed ++ [current], rfl, hfits, .inr rfl⟩

end TokenScan

end Irrigation
