import Irrigation.Proofs.Arguments.Flags
import Irrigation.Proofs.Bus.Call
import Irrigation.Proofs.Timers.Refusal

/-!
# Timers as bytes and as words

Eight bytes become a timer list in two ways: they arrive from a unit, or they are typed as numbers
with commas between them.

* `typedBytes`: what is typed for eight bytes, zeros included.
* `TimerList.ofValues_of_zero`: the first zero among bytes is reported. `parse_typedBytes`: so it is
  where they are typed.
* `parse_flags_append_typedBytes`: what is made of them as a word behind other flags.
* `bytes_checked_alike`: a reply is refused exactly if the same bytes are refused as a word, and for
  the same reason.
-/

namespace Irrigation

/-- What is typed for eight bytes: their numerals with commas between them. -/
def typedBytes (values : Vector UInt8 8) : String :=
  ",".intercalate (values.toList.map fun byte => decimal byte.toNat)

variable {values : Vector UInt8 8} {front back : List UInt8}

/-! ## Zeros -/

theorem TimerList.ofValues_of_nonzero (h : 0 ∉ values.toList) :
    ∃ timers, ofValues values = .ok timers ∧ timers.values = values := by
  have hnonzero : ∀ v ∈ values, v ≠ 0 := by
    rintro v hv rfl
    exact h (Vector.mem_toList_iff.mpr hv)
  exact ⟨⟨values, hnonzero⟩, dif_pos hnonzero, rfl⟩

/-- The first zero is reported. -/
theorem TimerList.ofValues_of_zero (h : values.toList = front ++ 0 :: back) (hfront : 0 ∉ front) :
    ofValues values = .error (.zeroValue (front.length + 1)) := by
  have hzero : ¬∀ v ∈ values, v ≠ 0 := by
    intro hnonzero
    refine hnonzero 0 (Vector.mem_toList_iff.mp ?_) rfl
    simp [h]
  have hindex : values.toList.findIdx (· == 0) = front.length := by
    have hskip : ¬front.findIdx (· == 0) < front.length := by
      simpa [List.findIdx_lt_length] using hfront
    rw [h, List.findIdx_append, if_neg hskip, List.findIdx_cons]
    simp
  rw [ofValues, dif_neg hzero, hindex]

theorem TimerList.ofValues_eq_error_iff :
    (∃ reason, ofValues values = .error reason) ↔ 0 ∈ values.toList := by
  constructor
  · rintro ⟨reason, herror⟩
    by_contra hzero
    obtain ⟨timers, hvalues, -⟩ := ofValues_of_nonzero hzero
    cases hvalues.symm.trans herror
  · intro hzero
    obtain ⟨front, back, h, hfront⟩ := List.eq_append_cons_of_mem hzero
    exact ⟨_, ofValues_of_zero h hfront⟩

theorem toList_typedBytes (values : Vector UInt8 8) :
    (typedBytes values).toList =
      [','].intercalate (values.toList.map fun byte => Nat.toDigits 10 byte.toNat) := by
  simp [typedBytes, Function.comp_def]

/-- The first zero is reported also where bytes are typed. -/
theorem parse_typedBytes_of_zero (h : values.toList = front ++ 0 :: back) (hfront : 0 ∉ front) :
    TimerList.parse (typedBytes values) = .error (.zeroValue (front.length + 1)) := by
  have hlength : (front.map fun byte => Nat.toDigits 10 byte.toNat).length = front.length :=
    List.length_map _
  have htext := toList_typedBytes values
  rw [h, List.map_append, List.map_cons, intercalate_append_cons] at htext
  rw [← hlength]
  refine parse_of_pieceFault htext ?_ ?_ ?_ (.zeroValue Nat.toDigits_ne_nil
    (forall_isDigit_toDigits _) Nat.ofDigitChars_ten_toDigits)
  · intro field hfield
    obtain ⟨byte, hbyte, rfl⟩ := List.mem_map.mp hfield
    exact isTimerField_toDigits fun hzero => hfront (hzero ▸ hbyte)
  · have height := congrArg List.length h
    rw [Vector.length_toList, List.length_append] at height
    omega
  · exact comma_not_mem_of_isDigit (forall_isDigit_toDigits _)

/-- Bytes that are typed are checked like bytes that arrive. -/
theorem parse_typedBytes (values : Vector UInt8 8) :
    TimerList.parse (typedBytes values) = TimerList.ofValues values := by
  by_cases hzero : 0 ∈ values.toList
  · obtain ⟨front, back, h, hfront⟩ := List.eq_append_cons_of_mem hzero
    rw [parse_typedBytes_of_zero h hfront, TimerList.ofValues_of_zero h hfront]
  · obtain ⟨timers, hvalues, rfl⟩ := TimerList.ofValues_of_nonzero hzero
    rw [hvalues]
    exact timers.parse_render

/-! ## Words -/

/-- Behind flags for other options the word for eight bytes is read as what they are checked for,
and refused for the reason of the check. -/
theorem parse_flags_append_typedBytes {flags : List Flag}
    (hlegible : ∀ flag ∈ flags, flag.Legible) (hapart : flags.Pairwise Flag.Apart)
    (hother : ∀ flag ∈ flags, flag.option ≠ .value .timers) (values : Vector UInt8 8) :
    Arguments.parse (flags.flatMap Flag.words ++ ["-t", typedBytes values]) =
      match TimerList.ofValues values with
      | .ok timers => .ok { flags.foldl Flag.give {} with timers := some timers }
      | .error reason => .error (.refused (.invalidTimers (typedBytes values) reason)) := by
  have hne : values.toList ≠ [] := List.ne_nil_of_length_eq_add_one values.length_toList
  have htakes : ValueOption.timers.Takes (typedBytes values) :=
    ArgumentScan.takes_numerals hne (toList_typedBytes values)
  have hparse := @ArgumentScan.parse_flags_append_value _ _ 't' flags hlegible hapart hother rfl
    htakes
  rw [Arguments.assign, parse_typedBytes] at hparse
  cases hvalues : TimerList.ofValues values with
  | ok timers =>
    rw [hvalues] at hparse
    exact hparse
  | error reason =>
    rw [hvalues] at hparse
    exact hparse

/-- **Bytes are checked alike, be they received or typed.** Take any eight bytes, zeros included.

Typed as numbers with commas between them they are read as what they are checked for. Without a zero
they are a list of just these values; else they are refused for their first zero, whose number is
given.

Let a unit be asked for its timers over a line on which the query goes out and a reply with these
bytes arrives, in whatever pieces, and let the bytes be typed as a word behind flags for other
options. The reply is a bad response exactly if there is a zero among the bytes; that is exactly if
the word is refused, and the two name the same reason. Otherwise they give the same list. -/
theorem bytes_checked_alike (values : Vector UInt8 8) :
    TimerList.parse (typedBytes values) = TimerList.ofValues values ∧
    (0 ∉ values.toList →
      ∃ timers, TimerList.ofValues values = .ok timers ∧ timers.values = values) ∧
    (∀ front back, values.toList = front ++ 0 :: back → 0 ∉ front →
      TimerList.ofValues values = .error (.zeroValue (front.length + 1))) ∧
    ∀ (unit : UnitId) (line : SerialLine) (flags : List Flag),
      (line.send [0x40, unit.byte, 0xF1]).1 = .ok () →
      [0x40, unit.byte, 0xF1] ++ values.toList <+: SerialLine.arriving line.reads →
      (∀ flag ∈ flags, flag.Legible) → flags.Pairwise Flag.Apart →
      (∀ flag ∈ flags, flag.option ≠ .value .timers) →
      let received := (Call.overLine (.readTimers unit) line).1
      let typed := Arguments.parse (flags.flatMap Flag.words ++ ["-t", typedBytes values])
      let target := "unit " ++ decimal unit.byte.toNat
      ((∃ detail, received = .error (.badResponse target detail)) ↔ 0 ∈ values.toList) ∧
      (∀ detail, received = .error (.badResponse target detail) ↔
        ∃ reason, typed = .error (.refused (.invalidTimers (typedBytes values) reason)) ∧
          detail = reason.message) ∧
      ∀ timers, received = .ok timers ↔
        typed = .ok { flags.foldl Flag.give {} with timers := some timers } := by
  refine ⟨parse_typedBytes values, TimerList.ofValues_of_nonzero,
    fun _ _ => TimerList.ofValues_of_zero, ?_⟩
  intro unit line flags hsent hreply hlegible hapart hother received typed target
  have hreceived : received = _ := Call.overLine_readTimers hsent hreply
  have htyped : typed = _ := parse_flags_append_typedBytes hlegible hapart hother values
  rw [hreceived, htyped, ← TimerList.ofValues_eq_error_iff]
  cases TimerList.ofValues values with
  | ok timers => simp [mapError_ok]
  | error reason => simp [mapError_error, eq_comm, target]

/-- Two of the bytes are zero, and the first of them is reported: of the reply, which comes in three
pieces, and of the word behind two flags. -/
theorem bytes_checked_alike_two_zeros :
    let values : Vector UInt8 8 := #v[10, 20, 0, 40, 0, 60, 100, 255]
    let unit : UnitId := ⟨5, by decide, by decide⟩
    let line : SerialLine :=
      { reads := [.data [0x40, 5], .fault ⟨.interrupted, "interrupted"⟩, .data [0xF1, 10, 20, 0],
          .data [40, 0, 60, 100, 255, 7]] }
    typedBytes values = "10,20,0,40,0,60,100,255" ∧
      Arguments.parse ["-c", "settimers", "-u", "5", "-t", "10,20,0,40,0,60,100,255"] =
        .error (.refused (.invalidTimers "10,20,0,40,0,60,100,255" (.zeroValue 3))) ∧
      [0x40, 5, 0xF1] ++ values.toList <+: SerialLine.arriving line.reads ∧
      (Call.overLine (.readTimers unit) line).1 =
        .error (.badResponse "unit 5" "timer field 3 is zero (valid range 1-255)") := by
  intro values unit line
  have hsent : (line.send [0x40, unit.byte, 0xF1]).1 = .ok () := rfl
  have hreply : [0x40, unit.byte, 0xF1] ++ values.toList <+: SerialLine.arriving line.reads :=
    ⟨[7], rfl⟩
  have hword : typedBytes values = "10,20,0,40,0,60,100,255" := by decide +kernel
  let flags : List Flag := [.command "settimers", .unit 5]
  have hwords : flags.flatMap Flag.words ++ ["-t", typedBytes values] =
      ["-c", "settimers", "-u", "5", "-t", "10,20,0,40,0,60,100,255"] := by decide +kernel
  have htarget : "unit " ++ decimal unit.byte.toNat = "unit 5" := by decide +kernel
  have hmessage : TimerError.message (.zeroValue 3) =
      "timer field 3 is zero (valid range 1-255)" := by decide +kernel
  have hlegible : ∀ flag ∈ flags, flag.Legible := by simp [flags, Flag.Legible]
  have hapart : flags.Pairwise Flag.Apart := by simp [flags, Flag.Apart, Flag.option]
  obtain ⟨-, -, -, hcalls⟩ := bytes_checked_alike values
  obtain ⟨-, hrefused, -⟩ := hcalls unit line flags hsent hreply hlegible hapart (by decide)
  have htyped : Arguments.parse ["-c", "settimers", "-u", "5", "-t", "10,20,0,40,0,60,100,255"] =
      .error (.refused (.invalidTimers "10,20,0,40,0,60,100,255" (.zeroValue 3))) := rfl
  rw [hwords, hword, htarget] at hrefused
  exact ⟨hword, htyped, hreply, (hrefused _).mpr ⟨_, htyped, hmessage.symm⟩⟩

end Irrigation
