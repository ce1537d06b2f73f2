import Irrigation.Proofs.ExceptLemmas
import Irrigation.Proofs.Timers.Scan

/-!
# The grammar of timer tokens

* `IsTimerToken`: the texts that are eight timer fields with commas between them, with or without
  one comma behind the last field.
* `TokenScan.run_closed`, `TokenScan.run_open`: timer fields are read to the end of the text, with
  the last one closed or open. `TokenScan.finish_behind`: eight of them give the list.
* `isTimerToken_of_parse`: a text that is read is such a text.
* `timer_tokens_recognised`: these are the texts that are read, and their values are the list.
-/

namespace Irrigation

/-- The text is eight timer fields with commas between them, and perhaps one comma behind. -/
structure IsTimerToken (token : String) (fields : List (List Char)) : Prop where
  length_eq : fields.length = 8
  isTimerField : ∀ field ∈ fields, IsTimerField field
  text : token.toList = [','].intercalate fields ∨
    token.toList = [','].intercalate fields ++ [',']

instance (token : String) (fields : List (List Char)) : Decidable (IsTimerToken token fields) :=
  decidable_of_iff
    (fields.length = 8 ∧ (∀ field ∈ fields, IsTimerField field) ∧
      (token.toList = [','].intercalate fields ∨ token.toList = [','].intercalate fields ++ [',']))
    ⟨fun ⟨hlength, hfields, htext⟩ => ⟨hlength, hfields, htext⟩,
      fun h => ⟨h.length_eq, h.isTimerField, h.text⟩⟩

/-! ## Commas behind fields and between fields -/

/-- Closed fields in front of another one, and the rest behind commas. -/
theorem intercalate_append_cons (earlier later : List (List Char)) (piece : List Char) :
    [','].intercalate (earlier ++ piece :: later) =
      closedChars earlier ++ (piece ++ later.flatMap (',' :: ·)) := by
  induction earlier generalizing piece later with
  | nil =>
    induction later generalizing piece with
    | nil => simp [closedChars]
    | cons next later ih =>
      have hnext := ih next
      rw [List.nil_append] at hnext ⊢
      rw [List.intercalate_cons_of_ne_nil (List.cons_ne_nil next later), hnext]
      simp [closedChars]
  | cons field earlier ih =>
    rw [List.cons_append, List.intercalate_cons_of_ne_nil (by simp), ih]
    simp [closedChars]

theorem closedChars_append (fields : List (List Char)) (last : List Char) :
    closedChars fields ++ last = [','].intercalate (fields ++ [last]) := by
  rw [intercalate_append_cons, List.flatMap_nil, List.append_nil]

theorem closedChars_eq_intercalate {fields : List (List Char)} (h : fields ≠ []) :
    closedChars fields = [','].intercalate fields ++ [','] := by
  rw [← List.dropLast_concat_getLast h, closedChars_append_singleton, ← closedChars_append,
    List.append_assoc]

namespace TokenScan

variable {closed fields : List (List Char)} {current : List Char}

/-- A scan reads timer fields with a comma behind each to the end of the text. -/
theorem run_closed (h : ∀ field ∈ fields, IsTimerField field) (hle : fields.length ≤ 8) :
    (start.run 0 (closedChars fields)).bind closeLast = .ok (behind fields []) := by
  have hfits : Fits fields [] := ⟨h, hle, List.forall_mem_nil _, Nat.zero_le 255⟩
  have hread := hfits.run_eq
  rw [List.append_nil] at hread
  rw [hread]
  rfl

/-- A scan reads timer fields to the end of the text also if the last one is still open there. -/
theorem run_open {last : List Char} (h : ∀ field ∈ fields, IsTimerField field)
    (hlast : IsTimerField last) (hlt : fields.length < 8) :
    (start.run 0 (closedChars fields ++ last)).bind closeLast =
      .ok (behind (fields ++ [last]) []) := by
  have hfits : Fits fields last := ⟨h, Nat.le_of_lt hlt, hlast.digits, hlast.le_max⟩
  rw [hfits.run_eq]
  change (behind fields last).closeLast = _
  rw [closeLast_behind, if_neg hlast.ne_nil, close_isTimerField hlast hlt]

/-- A scan reads a timer token to its end, with or without the last comma. -/
theorem run_isTimerToken {token : String} (h : IsTimerToken token fields) :
    (start.run 0 token.toList).bind closeLast = .ok (behind fields []) := by
  have hne : fields ≠ [] := List.ne_nil_of_length_eq_add_one h.length_eq
  rcases h.text with htext | htext
  · -- The last field is open at the end of the text.
    obtain ⟨init, last, rfl⟩ : ∃ init last, fields = init ++ [last] :=
      ⟨_, _, (List.dropLast_concat_getLast hne).symm⟩
    have hlength := h.length_eq
    rw [List.length_append, List.length_singleton] at hlength
    obtain ⟨hinit, hlast⟩ := List.forall_mem_append.mp h.isTimerField
    rw [htext, ← closedChars_append]
    exact run_open hinit (hlast last (List.mem_singleton.mpr rfl)) (by omega)
  · rw [htext, ← closedChars_eq_intercalate hne]
    exact run_closed h.isTimerField (Nat.le_of_eq h.length_eq)

theorem slots_behind (hlength : closed.length = 8)
    (hle : ∀ field ∈ closed, digitsValue field ≤ 255) :
    (behind closed current).slots.toList.map UInt8.toNat = closed.map digitsValue := by
  rw [toList_slots_behind (Nat.le_of_eq hlength), hlength, Nat.sub_self, List.replicate_zero,
    List.append_nil, map_toNat_bytes hle]

/-- Eight timer fields are the timer list of their values. -/
theorem finish_behind (hlength : closed.length = 8) (h : ∀ field ∈ closed, IsTimerField field) :
    ∃ timers, (behind closed []).finish = .ok timers ∧
      timers.toList.map UInt8.toNat = closed.map digitsValue := by
  have hvalues := @slots_behind closed [] hlength fun field hfield => (h field hfield).le_max
  have hnonzero : ∀ v ∈ (behind closed []).slots, v ≠ 0 := by
    rintro v hv rfl
    have hzero : (0 : UInt8).toNat ∈ (behind closed []).slots.toList.map UInt8.toNat :=
      List.mem_map_of_mem (Vector.mem_toList_iff.mpr hv)
    rw [hvalues] at hzero
    obtain ⟨field, hfield, hvalue⟩ := List.mem_map.mp hzero
    exact absurd hvalue (Nat.one_le_iff_ne_zero.mp (h field hfield).one_le)
  refine ⟨⟨(behind closed []).slots, hnonzero⟩, ?_, hvalues⟩
  have hcount : (behind closed []).count = 8 := hlength
  rw [finish, if_pos hcount, TimerList.ofValues, dif_pos hnonzero]

end TokenScan

/-- A token is scanned, its last field is closed, and the fields are checked. -/
theorem TimerList.parse_eq (token : String) :
    parse token =
      ((TokenScan.start.run 0 token.toList).bind TokenScan.closeLast).bind TokenScan.finish := by
  unfold parse
  cases TokenScan.start.run 0 token.toList <;> rfl

/-- A timer token is read as the list of the values of its fields. -/
theorem parse_isTimerToken {token : String} {fields : List (List Char)}
    (h : IsTimerToken token fields) :
    ∃ timers, TimerList.parse token = .ok timers ∧
      timers.toList.map UInt8.toNat = fields.map digitsValue := by
  obtain ⟨timers, hfinish, hvalues⟩ := TokenScan.finish_behind h.length_eq h.isTimerField
  rw [TimerList.parse_eq, TokenScan.run_isTimerToken h]
  exact ⟨timers, hfinish, hvalues⟩

/-- Only a timer token is read as a list. -/
theorem isTimerToken_of_parse {token : String} {timers : TimerList}
    (h : TimerList.parse token = .ok timers) : ∃ fields, IsTimerToken token fields := by
  obtain ⟨scan, hrun, h⟩ := bind_eq_ok_iff.mp h
  obtain ⟨last, hclose, hfinish⟩ := bind_eq_ok_iff.mp h
  rw [← TokenScan.behind_nil] at hrun
  obtain ⟨closed, current, rfl, hfits, hchars⟩ := TokenScan.run_eq_ok TokenScan.Fits.nil hrun
  obtain ⟨fields, rfl, hfits, htext⟩ := TokenScan.closeLast_eq_ok hfits hclose
  have hlength : fields.length = 8 := by
    rw [TokenScan.finish] at hfinish
    split at hfinish
    · assumption
    · contradiction
  have hchars : closedChars closed ++ current = token.toList := hchars
  refine ⟨fields, hlength, hfits.fields, ?_⟩
  rcases htext with ⟨rfl, rfl⟩ | rfl
  · right
    rw [← hchars, List.append_nil,
      closedChars_eq_intercalate (List.ne_nil_of_length_eq_add_one hlength)]
  · left
    rw [← hchars, closedChars_append]

/-- **Timer tokens are recognised.** The texts that are read as timer lists are those with eight
fields of decimal digits that have values from 1 to 255, with commas between them and perhaps one
comma behind the last; and the list holds the values of the fields in their order. -/
theorem timer_tokens_recognised (token : String) :
    ((∃ timers, TimerList.parse token = .ok timers) ↔ ∃ fields, IsTimerToken token fields) ∧
      ∀ timers fields, TimerList.parse token = .ok timers → IsTimerToken token fields →
        timers.toList.map UInt8.toNat = fields.map digitsValue := by
  refine ⟨⟨?_, ?_⟩, ?_⟩
  · rintro ⟨timers, h⟩
    exact isTimerToken_of_parse h
  · rintro ⟨fields, h⟩
    obtain ⟨timers, hparse, -⟩ := parse_isTimerToken h
    exact ⟨timers, hparse⟩
  · intro timers fields hparse h
    obtain ⟨timers', hparse', hvalues⟩ := parse_isTimerToken h
    cases hparse.symm.trans hparse'
    exact hvalues

/-- Leading zeros and the last comma are read over; a ninth field and a second comma behind the
last field are not. -/
theorem timer_tokens_recognised_leading_zeros :
    (∃ timers, TimerList.parse "0010,1,2,3,4,5,6,255," = .ok timers ∧
      timers.toList.map UInt8.toNat = [10, 1, 2, 3, 4, 5, 6, 255]) ∧
    (¬∃ fields, IsTimerToken "1,2,3,4,5,6,7,8,9" fields) ∧
    ¬∃ fields, IsTimerToken "1,2,3,4,5,6,7,8,," fields := by
  have hread : TimerList.parse "0010,1,2,3,4,5,6,255," =
      .ok ⟨#v[10, 1, 2, 3, 4, 5, 6, 255], by decide⟩ := rfl
  have hfields : IsTimerToken "0010,1,2,3,4,5,6,255,"
      ["0010".toList, ['1'], ['2'], ['3'], ['4'], ['5'], ['6'], "255".toList] := by decide
  have hninth : TimerList.parse "1,2,3,4,5,6,7,8,9" = .error .tooManyValues := rfl
  have hcomma : TimerList.parse "1,2,3,4,5,6,7,8,," = .error (.emptyField 9) := rfl
  refine ⟨⟨_, hread, (timer_tokens_recognised _).2 _ _ hread hfields⟩, ?_, ?_⟩
  · rw [← (timer_tokens_recognised _).1, hninth]
    exact nofun
  · rw [← (timer_tokens_recognised _).1, hcomma]
    exact nofun

end Irrigation
