import Irrigation.Proofs.Timers.Spelling

/-!
# What a scan holds on its way

Behind each character of a timer token the scan of it holds what the text up to there tells.

* `closedFields`, `openChars`: the fields of a text that commas close, and what stands behind the
  last comma.
* `TokenScan.AccountsFor`: a scan holds in its slots and in its open field what a text tells.
  `AccountsFor.unique`: there is only one such scan. `Fits.accountsFor`: it is the one behind the
  fields of the text.
* `TokenScan.parse_append`: the reading of a text goes through the scan of each of its beginnings.
* `TokenScan.run_eq_ok_iff`: the scans that come behind a text without an error are those that
  account for it.
* `TokenScan.Exact`: sixteen bits, one byte and eight slots are enough for what the scan does next.
  `AccountsFor.exact`: they are for a scan that accounts for a text.
* `scan_accounts_for_text`: so they are on the whole way.
-/

namespace Irrigation

/-- The fields of a text that a comma closes. -/
def closedFields (text : String) : List (List Char) := (timerPieces text).dropLast

/-- What stands behind the last comma of a text. -/
def openChars (text : String) : List Char := (timerPieces text).getLastD []

theorem timerPieces_eq_append (text : String) :
    timerPieces text = closedFields text ++ [openChars text] := by
  have hne : timerPieces text ≠ [] := List.splitOn_ne_nil ',' text.toList
  rw [closedFields, openChars, List.getLastD_eq_getLast?, List.getLast?_eq_some_getLast hne,
    Option.getD_some, List.dropLast_concat_getLast hne]

theorem toList_eq_closedChars_append (text : String) :
    text.toList = closedChars (closedFields text) ++ openChars text := by
  have htext := toList_eq_of_timerPieces (timerPieces_eq_append text)
  rwa [List.flatMap_nil, List.append_nil] at htext

namespace TokenScan

/-- A scan holds what a text tells. The text has digits and commas only, and at most eight fields
that are closed. The first slots hold the values of these fields, the other slots have not been
touched, and the open field has the value of the digits behind the last comma. -/
structure AccountsFor (scan : TokenScan) (text : String) : Prop where
  digits : ∀ piece ∈ timerPieces text, ∀ c ∈ piece, c.isDigit
  closed_ne_nil : ∀ field ∈ closedFields text, field ≠ []
  count_eq : scan.count = (closedFields text).length
  count_le : scan.count ≤ 8
  filled : (scan.slots.toList.take scan.count).map UInt8.toNat = (closedFields text).map digitsValue
  nonzero : ∀ byte ∈ scan.slots.toList.take scan.count, byte ≠ 0
  untouched : scan.slots.toList.drop scan.count = start.slots.toList.drop scan.count
  openField_eq : scan.openField.map UInt16.toNat =
    if openChars text = [] then none else some (digitsValue (openChars text))
  openField_le : ∀ value ∈ scan.openField, value.toNat ≤ 255

/-- From one scan to the next the slots stay as they are, or the first free one of the eight takes
the value of the open field. -/
def FillsNextSlot (scan next : TokenScan) : Prop :=
  next.count = scan.count ∧ next.slots = scan.slots ∨
    ∃ value ∈ scan.openField, ∃ free : scan.count < 8, next.count = scan.count + 1 ∧
      next.slots = scan.slots.set scan.count value.toUInt8 free

/-- The machine words and the slots are enough for whatever a scan does next. -/
structure Exact (scan : TokenScan) : Prop where
  /-- With one more digit the value of the open field stays in its sixteen bits. -/
  appended : ∀ c d, digit? c = some d →
    (scan.openField.getD 0 * 10 + UInt16.ofNat d).toNat = (scan.openField.getD 0).toNat * 10 + d
  /-- As a byte the value of the open field is the same. -/
  narrowed : ∀ value ∈ scan.openField, value.toUInt8.toNat = value.toNat
  /-- A character fills one of the eight slots or none. -/
  stepped : ∀ position c next, scan.step position c = .ok next → scan.FillsNextSlot next
  /-- So does the end of the text. -/
  ended : ∀ last, scan.closeLast = .ok last → scan.FillsNextSlot last

variable {scan other next : TokenScan} {text : String} {closed : List (List Char)}
  {current : List Char} {position : Nat}

/-! ## Beginnings of a text -/

theorem run_append (scan : TokenScan) (position : Nat) (front back : List Char) :
    scan.run position (front ++ back) =
      (scan.run position front).bind fun next =>
        next.run (position + (String.ofList front).utf8ByteSize) back := by
  induction front generalizing scan position with
  | nil => rfl
  | cons c front ih =>
    rw [List.cons_append, run, run, String.ofList_cons, String.utf8ByteSize_append,
      String.utf8ByteSize_singleton, ← Nat.add_assoc]
    cases scan.step position c with
    | error e => rfl
    | ok next => exact ih next (position + c.utf8Size)

/-- The reading of a text goes through the scan of its beginning. -/
theorem parse_append (before after : String) :
    TimerList.parse (before ++ after) =
      (start.run 0 before.toList).bind fun scan =>
        (scan.run before.utf8ByteSize after.toList).bind fun last =>
          last.closeLast.bind finish := by
  rw [TimerList.parse, String.toList_append, run_append, String.ofList_toList, Nat.zero_add]
  cases start.run 0 before.toList <;> rfl

/-! ## Scans that account for a text -/

/-- Two scans that account for a text hold the same. -/
theorem AccountsFor.unique (h : scan.AccountsFor text) (hother : other.AccountsFor text) :
    scan = other := by
  have hcount : scan.count = other.count := h.count_eq.trans hother.count_eq.symm
  have hfilled : scan.slots.toList.take scan.count = other.slots.toList.take scan.count := by
    apply List.map_injective_iff.mpr fun _ _ => UInt8.toNat_inj.mp
    rw [h.filled, hcount, hother.filled]
  have hslots : scan.slots = other.slots := by
    rw [← Vector.toList_inj, ← List.take_append_drop scan.count scan.slots.toList, hfilled,
      h.untouched, hcount, ← hother.untouched, List.take_append_drop]
  have hopen : scan.openField = other.openField :=
    Option.map_injective (fun _ _ => UInt16.toNat_inj.mp)
      (h.openField_eq.trans hother.openField_eq.symm)
  calc scan = ⟨scan.slots, scan.count, scan.openField⟩ := rfl
    _ = other := by rw [hslots, hcount, hopen]

/-- What a scan accounts for has fields that fit. -/
theorem AccountsFor.fits (h : scan.AccountsFor text) :
    Fits (closedFields text) (openChars text) := by
  have hpieces := timerPieces_eq_append text
  refine ⟨fun field hfield => ?fields, h.count_eq ▸ h.count_le, h.digits _ ?digits, ?le_max⟩
  case fields =>
    -- The value of a closed field is that of its slot, which is a byte and not zero.
    have hvalue : digitsValue field ∈ (closedFields text).map digitsValue :=
      List.mem_map_of_mem hfield
    rw [← h.filled] at hvalue
    obtain ⟨byte, hbyte, hvalue⟩ := List.mem_map.mp hvalue
    have hzero : byte.toNat ≠ 0 := fun hzero => h.nonzero byte hbyte (UInt8.toNat_inj.mp hzero)
    have hlt := byte.toNat_lt
    have hdigits : ∀ c ∈ field, c.isDigit := h.digits field (by simp [hpieces, hfield])
    exact ⟨h.closed_ne_nil field hfield, hdigits, by omega, by omega⟩
  case digits => simp [hpieces]
  case le_max =>
    by_cases hnil : openChars text = []
    · rw [hnil]
      exact Nat.zero_le 255
    · have hopen := h.openField_eq
      rw [if_neg hnil] at hopen
      obtain ⟨value, hvalue, hnat⟩ := Option.map_eq_some_iff.mp hopen
      exact hnat ▸ h.openField_le value hvalue

theorem Fits.timerPieces_eq (h : Fits closed current)
    (htext : text.toList = closedChars closed ++ current) :
    timerPieces text = closed ++ [current] := by
  rw [closedChars_append] at htext
  refine timerPieces_of_toList_eq (by simp) (List.forall_mem_append.mpr ⟨?_, ?_⟩) htext
  · exact fun field hfield => (h.fields field hfield).comma_not_mem
  · intro piece hpiece
    rw [List.mem_singleton.mp hpiece]
    exact comma_not_mem_of_isDigit h.digits

theorem Fits.map_openField (h : Fits closed current) :
    (behind closed current).openField.map UInt16.toNat =
      if current = [] then none else some (digitsValue current) := by
  have hlt : digitsValue current < UInt16.size := Nat.lt_of_le_of_lt h.le_max (by decide)
  rw [behind]
  split
  · rfl
  · rw [Option.map_some, UInt16.toNat_ofNat_of_lt' hlt]

/-- The scan behind fields that fit accounts for their text. -/
theorem Fits.accountsFor (h : Fits closed current)
    (htext : text.toList = closedChars closed ++ current) :
    (behind closed current).AccountsFor text := by
  have hpieces := h.timerPieces_eq htext
  have hclosed : closedFields text = closed := by rw [closedFields, hpieces, List.dropLast_concat]
  have hopen : openChars text = current := by rw [openChars, hpieces, List.getLastD_concat]
  have hslots := @toList_slots_behind closed current h.length_le
  have hfilled : ((behind closed current).slots.toList.take closed.length).map UInt8.toNat =
      closed.map digitsValue := by
    rw [hslots, List.take_left' (List.length_map _),
      map_toNat_bytes fun field hfield => (h.fields field hfield).le_max]
  refine
    { digits := ?digits
      closed_ne_nil := hclosed ▸ fun field hfield => (h.fields field hfield).ne_nil
      count_eq := hclosed ▸ rfl
      count_le := h.length_le
      filled := hclosed ▸ hfilled
      nonzero := ?nonzero
      untouched := ?untouched
      openField_eq := hopen ▸ h.map_openField
      openField_le := ?openField_le }
  case digits =>
    rw [hpieces]
    refine List.forall_mem_append.mpr ⟨fun field hfield => (h.fields field hfield).digits, ?_⟩
    intro piece hpiece
    rw [List.mem_singleton.mp hpiece]
    exact h.digits
  case nonzero =>
    rintro byte hbyte rfl
    have hzero : (0 : UInt8).toNat ∈ closed.map digitsValue :=
      hfilled ▸ List.mem_map_of_mem hbyte
    obtain ⟨field, hfield, hvalue⟩ := List.mem_map.mp hzero
    exact absurd hvalue (Nat.one_le_iff_ne_zero.mp (h.fields field hfield).one_le)
  case untouched =>
    show (behind closed current).slots.toList.drop closed.length =
      start.slots.toList.drop closed.length
    rw [hslots, List.drop_left' (List.length_map _), start, Vector.toList_replicate,
      List.drop_replicate]
  case openField_le =>
    intro value hvalue
    have hmap := h.map_openField
    rw [Option.mem_def.mp hvalue, Option.map_some] at hmap
    split at hmap
    · contradiction
    · rw [Option.some.inj hmap]
      exact h.le_max

/-! ## Scans that meet no error -/

/-- The scans that come behind a text without an error are those that account for it. -/
theorem run_eq_ok_iff : start.run 0 text.toList = .ok scan ↔ scan.AccountsFor text := by
  constructor
  · intro h
    rw [← behind_nil] at h
    obtain ⟨closed, current, rfl, hfits, htext⟩ := run_eq_ok Fits.nil h
    exact hfits.accountsFor htext.symm
  · intro h
    -- The scan behind the fields of the text accounts for it as well, so it is this one.
    have htext := toList_eq_closedChars_append text
    rw [h.unique (h.fits.accountsFor htext), htext]
    exact h.fits.run_eq

/-! ## Words and slots -/

theorem fillsNextSlot_of_close {value : UInt16} (hvalue : scan.openField = some value)
    (h : scan.close value = .ok next) : scan.FillsNextSlot next := by
  unfold close at h
  split at h
  · contradiction
  · split at h
    · next free =>
      cases h
      exact .inr ⟨value, hvalue, free, rfl, rfl⟩
    · contradiction

theorem fillsNextSlot_of_step {c : Char} (h : scan.step position c = .ok next) :
    scan.FillsNextSlot next := by
  unfold step at h
  split at h
  · -- A digit changes the open field only.
    simp only at h
    split at h
    · contradiction
    · cases h
      exact .inl ⟨rfl, rfl⟩
  · split at h
    · split at h
      · contradiction
      · next value hvalue => exact fillsNextSlot_of_close hvalue h
    · contradiction

theorem fillsNextSlot_of_closeLast (h : scan.closeLast = .ok next) : scan.FillsNextSlot next := by
  unfold closeLast at h
  split at h
  · cases h
    exact .inl ⟨rfl, rfl⟩
  · next value hvalue => exact fillsNextSlot_of_close hvalue h

/-- A field that is not open counts as zero. -/
theorem AccountsFor.getD_openField_le (h : scan.AccountsFor text) :
    (scan.openField.getD 0).toNat ≤ 255 := by
  cases hopen : scan.openField with
  | none => exact Nat.zero_le 255
  | some value => exact h.openField_le value hopen

/-- The words of a scan that accounts for a text are wide enough. -/
theorem AccountsFor.exact (h : scan.AccountsFor text) : scan.Exact := by
  refine ⟨fun c d hdigit => ?appended, fun value hvalue => ?narrowed,
    fun position c next => fillsNextSlot_of_step, fun last => fillsNextSlot_of_closeLast⟩
  case appended =>
    have hle := h.getD_openField_le
    have hd : d ≤ 9 := by
      unfold digit? at hdigit
      split at hdigit
      · next hc =>
        obtain ⟨-, hhigh⟩ : 48 ≤ c.toNat ∧ c.toNat ≤ 57 := Char.isDigit_iff_toNat.mp hc
        cases hdigit
        omega
      · contradiction
    rw [UInt16.toNat_add, UInt16.toNat_mul, UInt16.toNat_ofNat']
    simp only [UInt16.toNat_ofNat]
    omega
  case narrowed =>
    have hle := h.openField_le value hvalue
    rw [UInt16.toNat_toUInt8]
    omega

end TokenScan

/-- **A scan accounts for what it has read.** Take any text and any place in it. The reading of the
text goes through the scan of the part before the place.

A scan comes there without an error exactly if it accounts for this part: the closed fields, at most
eight of them, have put their values into the first slots in order, none of them zero; the other
slots are as they were at the start; and the open field, if there is one, is at most 255 and has the
value of the digits behind the last comma.

So one more digit never carries the open field out of its sixteen bits, a value that goes into a
slot is the same as a byte, and what goes into a slot goes into the first free one of the eight. -/
theorem scan_accounts_for_text (before after : String) :
    TimerList.parse (before ++ after) =
      ((TokenScan.start.run 0 before.toList).bind fun scan =>
        (scan.run before.utf8ByteSize after.toList).bind fun last =>
          last.closeLast.bind TokenScan.finish) ∧
    ∀ scan, (TokenScan.start.run 0 before.toList = .ok scan ↔ scan.AccountsFor before) ∧
      (TokenScan.start.run 0 before.toList = .ok scan → scan.Exact) := by
  refine ⟨TokenScan.parse_append before after, fun scan => ⟨TokenScan.run_eq_ok_iff, ?_⟩⟩
  intro hrun
  have haccounts : scan.AccountsFor before := TokenScan.run_eq_ok_iff.mp hrun
  exact haccounts.exact

/-- Behind eight closed fields a ninth can be open, with the greatest value and zeros in front. One
more digit carries it out of range, not out of its word; and with its comma no scan accounts for
it. -/
theorem scan_accounts_for_text_full :
    (⟨#v[1, 2, 3, 4, 5, 6, 7, 80], 8, some 255⟩ : TokenScan).AccountsFor
      "1,2,3,4,5,6,7,080,00255" ∧
    (⟨#v[1, 2, 3, 4, 5, 6, 7, 80], 8, some 255⟩ : TokenScan).Exact ∧
    TimerList.parse ("1,2,3,4,5,6,7,080,00255" ++ "9,") = .error (.outOfRange 9) ∧
    ¬∃ scan : TokenScan, scan.AccountsFor "1,2,3,4,5,6,7,080,00255," := by
  have hread : TokenScan.start.run 0 "1,2,3,4,5,6,7,080,00255".toList =
      .ok ⟨#v[1, 2, 3, 4, 5, 6, 7, 80], 8, some 255⟩ := rfl
  have hcomma : TokenScan.start.run 0 "1,2,3,4,5,6,7,080,00255,".toList =
      .error .tooManyValues := rfl
  obtain ⟨hparse, hscan⟩ := scan_accounts_for_text "1,2,3,4,5,6,7,080,00255" "9,"
  refine ⟨(hscan _).1.mp hread, (hscan _).2 hread, ?_, ?_⟩
  · rw [hparse, hread]
    rfl
  · rintro ⟨scan, haccounts⟩
    rw [← ((scan_accounts_for_text _ "").2 scan).1, hcomma] at haccounts
    contradiction

end Irrigation
