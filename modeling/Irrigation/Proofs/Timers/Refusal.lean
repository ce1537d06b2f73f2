import Irrigation.Proofs.Timers.Grammar
import Mathlib.Data.List.Induction
import Mathlib.Data.Nat.Find

/-!
# Refused timer tokens

Which error a text gets that is no timer token, told from its pieces between the commas.

* `timerPieces`, `timerFields`: the pieces of a text, and those of them that count as fields.
* `PieceFault`: what is wrong with a piece, and the error for it. `FaultAt`: the piece of a number
  is at fault.
* `TokenScan.run_fault`: a scan that meets a fault ends with its error, and without one it goes on
  (`isTimerField_of_no_fault`).
* `TimerError.Placed`: the bounds of the numbers in an error.
* `refused_for_first_fault`: the error is that of the first piece at fault, and if there is none,
  that of the number of fields.
-/

namespace Irrigation

/-! ## Pieces and fields -/

/-- What stands between the commas of a text. -/
def timerPieces (token : String) : List (List Char) := token.toList.splitOn ','

/-- The pieces of a text without the empty one behind its last comma. The empty text has no
field. -/
def timerFields (token : String) : List (List Char) :=
  if (timerPieces token).getLast? = some [] then (timerPieces token).dropLast else timerPieces token

/-- What is wrong with a piece. It has a number, stands behind some characters of its text, and a
comma closes it or not; an empty piece that no comma closes is no field. -/
inductive PieceFault (number : Nat) (before : List Char) (closed : Prop) :
    List Char → TimerError → Prop
  /-- The first character that is no digit, unless the digits before it go too far already. The
  error tells how many bytes stand before it. -/
  | invalidCharacter {digits rest : List Char} {c : Char} :
    (∀ d ∈ digits, d.isDigit) → ¬c.isDigit → digitsValue digits ≤ 255 →
    PieceFault number before closed (digits ++ c :: rest)
      (.invalidCharacter c (String.ofList (before ++ digits)).utf8ByteSize)
  | outOfRange {digits rest : List Char} :
    (∀ d ∈ digits, d.isDigit) → 255 < digitsValue digits →
    PieceFault number before closed (digits ++ rest) (.outOfRange number)
  | emptyField : closed → PieceFault number before closed [] (.emptyField number)
  | zeroValue {digits : List Char} :
    digits ≠ [] → (∀ d ∈ digits, d.isDigit) → digitsValue digits = 0 →
    PieceFault number before closed digits (.zeroValue number)
  | tooManyValues {digits : List Char} :
    IsTimerField digits → number = 9 → PieceFault number before closed digits .tooManyValues

/-- The piece of a number, counted from 1, is at fault. -/
def FaultAt (token : String) (number : Nat) (error : TimerError) : Prop :=
  ∃ earlier piece later, timerPieces token = earlier ++ piece :: later ∧
    number = earlier.length + 1 ∧
    PieceFault number (closedChars earlier) (later ≠ []) piece error

/-- Why a text is refused: for its first piece at fault, and without one for the number of its
fields. -/
inductive TokenRefused (token : String) : TimerError → Prop
  | fault {number : Nat} {error : TimerError} :
    FaultAt token number error →
    (∀ smaller < number, ∀ other, ¬FaultAt token smaller other) →
    TokenRefused token error
  | tooFewValues :
    (∀ number other, ¬FaultAt token number other) →
    (timerFields token).length ≠ 8 →
    TokenRefused token (.tooFewValues (timerFields token).length)

/-- The numbers in an error about a text: fields are those from 1 to 9, at most seven fields are too
few, and a position is both the number of bytes and the number of characters before the one that the
error names. -/
def TimerError.Placed (token : String) : TimerError → Prop
  | .invalidCharacter c position => ∃ before after, token.toList = before ++ c :: after ∧
    position = (String.ofList before).utf8ByteSize ∧ position = before.length
  | .emptyField field | .zeroValue field | .outOfRange field => 1 ≤ field ∧ field ≤ 9
  | .tooFewValues count => count ≤ 7
  | .tooManyValues => True

/-! ### The text of the pieces -/

theorem comma_not_mem_of_isDigit {chars : List Char} (h : ∀ c ∈ chars, c.isDigit) :
    ',' ∉ chars := by
  intro hcomma
  exact absurd (h ',' hcomma) (by decide)

theorem not_mem_of_mem_splitOn {c : Char} {chars piece : List Char}
    (h : piece ∈ chars.splitOn c) : c ∉ piece := by
  induction chars generalizing piece with
  | nil =>
    rw [List.splitOn_nil, List.mem_singleton] at h
    simp [h]
  | cons d chars ih =>
    rw [List.splitOn_cons_eq_if_modifyHead] at h
    obtain ⟨first, others, hpieces⟩ := List.exists_cons_of_ne_nil (List.splitOn_ne_nil c chars)
    rw [hpieces] at h ih
    split at h
    · rcases List.mem_cons.mp h with rfl | h
      · exact List.not_mem_nil
      · exact ih h
    · next hne =>
      rcases List.mem_cons.mp h with rfl | h
      · intro hc
        rcases List.mem_cons.mp hc with rfl | hc
        · exact hne (beq_self_eq_true c)
        · exact ih List.mem_cons_self hc
      · exact ih (List.mem_cons_of_mem first h)

section

variable {token : String} {earlier later : List (List Char)} {piece : List Char} {number : Nat}
  {error : TimerError}

/-- The text, cut before and behind a piece. -/
theorem toList_eq_of_timerPieces (h : timerPieces token = earlier ++ piece :: later) :
    token.toList = closedChars earlier ++ (piece ++ later.flatMap (',' :: ·)) := by
  rw [← intercalate_append_cons, ← h, timerPieces, List.intercalate_splitOn]

theorem comma_not_mem_of_timerPieces (h : timerPieces token = earlier ++ piece :: later) :
    ',' ∉ piece := by
  have hmem : piece ∈ timerPieces token := by simp [h]
  exact not_mem_of_mem_splitOn hmem

end

/-! ### Bytes and characters -/

theorem utf8ByteSize_ofList {chars : List Char} (h : ∀ c ∈ chars, c.utf8Size = 1) :
    (String.ofList chars).utf8ByteSize = chars.length := by
  induction chars with
  | nil => rfl
  | cons c chars ih =>
    obtain ⟨hc, hchars⟩ := List.forall_mem_cons.mp h
    rw [String.ofList_cons, String.utf8ByteSize_append, String.utf8ByteSize_singleton, hc,
      ih hchars, List.length_cons, Nat.add_comm]

/-- Timer fields, their commas and digits behind them are one byte for each character. -/
theorem utf8ByteSize_closedChars_append {fields : List (List Char)} {digits : List Char}
    (hfields : ∀ field ∈ fields, IsTimerField field) (hdigits : ∀ d ∈ digits, d.isDigit) :
    (String.ofList (closedChars fields ++ digits)).utf8ByteSize =
      (closedChars fields).length + digits.length := by
  rw [utf8ByteSize_ofList, List.length_append]
  intro c hc
  rcases List.mem_append.mp hc with hc | hc
  · obtain ⟨field, hfield, hc⟩ := List.mem_flatMap.mp hc
    rcases List.mem_append.mp hc with hc | hc
    · exact utf8Size_of_isDigit ((hfields field hfield).digits c hc)
    · rw [List.mem_singleton.mp hc]
      rfl
  · exact utf8Size_of_isDigit (hdigits c hc)

namespace TokenScan

variable {closed later : List (List Char)} {current piece digits rest : List Char} {position : Nat}
  {error : TimerError}

/-! ## Scans that meet a fault -/

/-- A scan stops at the digit that carries the open field out of range. -/
theorem run_outOfRange (hdigits : ∀ d ∈ digits, d.isDigit) (hle : digitsValue current ≤ 255)
    (hgt : 255 < digitsValue (current ++ digits)) :
    (behind closed current).run position (digits ++ rest) =
      .error (.outOfRange (closed.length + 1)) := by
  induction digits generalizing current position with
  | nil =>
    rw [List.append_nil] at hgt
    omega
  | cons d digits ih =>
    obtain ⟨hd, hdigits⟩ := List.forall_mem_cons.mp hdigits
    rw [List.cons_append, run, step_digit hd hle]
    by_cases hnext : 255 < digitsValue (current ++ [d])
    · rw [if_pos hnext]
    · rw [if_neg hnext]
      rw [List.append_cons] at hgt
      exact ih hdigits (Nat.not_lt.mp hnext) hgt

/-- A scan reads digits into a field that it opens with them. -/
theorem run_opening_digits (hdigits : ∀ d ∈ digits, d.isDigit) (hle : digitsValue digits ≤ 255) :
    (behind closed []).run position (digits ++ rest) =
      (behind closed digits).run (position + digits.length) rest :=
  run_digits hdigits hle

/-- A field is closed by the comma behind it or by the end of the text. -/
theorem run_close_eq_error (hne : current ≠ [])
    (hclose : (behind closed current).close (UInt16.ofNat (digitsValue current)) = .error error) :
    ((behind closed current).run position (later.flatMap (',' :: ·))).bind closeLast =
      .error error := by
  cases later with
  | nil =>
    change (behind closed current).closeLast = .error error
    rw [closeLast_behind, if_neg hne, hclose]
  | cons next later =>
    rw [List.flatMap_cons, List.cons_append, run, step_comma, if_neg hne, hclose]
    rfl

/-- A scan that comes to a piece at fault ends with the error for it. -/
theorem run_fault (hclosed : ∀ field ∈ closed, IsTimerField field) (hcomma : ',' ∉ piece)
    (h : PieceFault (closed.length + 1) (closedChars closed) (later ≠ []) piece error) :
    ((behind closed []).run (closedChars closed).length
      (piece ++ later.flatMap (',' :: ·))).bind closeLast = .error error := by
  cases h with
  | @invalidCharacter digits rest c hdigits hc hmax =>
    have hne : c ≠ ',' := by
      rintro rfl
      exact hcomma (by simp)
    rw [List.append_assoc, run_opening_digits hdigits hmax, List.cons_append, run,
      step_other hc hne, utf8ByteSize_closedChars_append hclosed hdigits]
    rfl
  | @outOfRange digits rest hdigits hgt =>
    have hrange := @run_outOfRange closed [] digits (rest ++ later.flatMap (',' :: ·))
      (closedChars closed).length hdigits (Nat.zero_le 255) hgt
    rw [List.append_assoc, hrange]
    rfl
  | emptyField hnext =>
    obtain ⟨next, later, rfl⟩ := List.exists_cons_of_ne_nil hnext
    rw [List.nil_append, List.flatMap_cons, List.cons_append, run, step_comma, if_pos rfl]
    rfl
  | zeroValue hne hdigits hzero =>
    rw [run_opening_digits hdigits (by omega)]
    refine run_close_eq_error hne ?_
    rw [close_behind (by omega), if_pos hzero]
  | tooManyValues hfield hnine =>
    rw [run_opening_digits hfield.digits hfield.le_max]
    refine run_close_eq_error hfield.ne_nil ?_
    rw [close_behind hfield.le_max,
      if_neg (Nat.one_le_iff_ne_zero.mp hfield.one_le), if_neg (by omega)]

end TokenScan

/-! ## Pieces without a fault -/

/-- A piece begins with digits, and the character behind them, if there is one, is none. -/
theorem exists_digits (piece : List Char) :
    ∃ digits rest, piece = digits ++ rest ∧ (∀ d ∈ digits, d.isDigit) ∧
      ∀ c, rest.head? = some c → ¬c.isDigit := by
  refine ⟨piece.takeWhile Char.isDigit, piece.dropWhile Char.isDigit,
    (List.takeWhile_append_dropWhile).symm, fun d hd => ?_, fun c hc => ?_⟩
  · exact List.all_eq_true.mp List.all_takeWhile d hd
  · have hnot := List.head?_dropWhile_not Char.isDigit piece
    rw [hc] at hnot
    simpa using hnot

/-- A piece without a fault is a timer field and not the ninth, or it is the empty text that no
comma closes. -/
theorem PieceFault.of_not {number : Nat} {before : List Char} {closed : Prop} {piece : List Char}
    (h : ∀ error, ¬PieceFault number before closed piece error) :
    IsTimerField piece ∧ number ≠ 9 ∨ piece = [] ∧ ¬closed := by
  obtain ⟨digits, rest, rfl, hdigits, hrest⟩ := exists_digits piece
  have hle : digitsValue digits ≤ 255 :=
    Nat.not_lt.mp fun hgt => h _ (.outOfRange hdigits hgt)
  cases rest with
  | cons c rest => exact absurd (.invalidCharacter hdigits (hrest c rfl) hle) (h _)
  | nil =>
    rw [List.append_nil] at h ⊢
    by_cases hne : digits = []
    · subst hne
      exact .inr ⟨rfl, fun hclosed => h _ (.emptyField hclosed)⟩
    · have hone : 1 ≤ digitsValue digits :=
        Nat.one_le_iff_ne_zero.mpr fun hzero => h _ (.zeroValue hne hdigits hzero)
      have hfield : IsTimerField digits := ⟨hne, hdigits, hone, hle⟩
      exact .inl ⟨hfield, fun hnine => h _ (.tooManyValues hfield hnine)⟩

section

variable {token : String} {earlier later : List (List Char)} {piece : List Char} {number : Nat}
  {error : TimerError}

/-- Pieces without a fault that commas close are timer fields, and they are not more than eight. -/
theorem isTimerField_of_no_fault (h : timerPieces token = earlier ++ piece :: later)
    (hnone : ∀ number ≤ earlier.length, ∀ error, ¬FaultAt token number error) :
    (∀ field ∈ earlier, IsTimerField field) ∧ earlier.length ≤ 8 := by
  induction earlier using List.reverseRecOn generalizing piece later with
  | nil => exact ⟨List.forall_mem_nil _, Nat.zero_le 8⟩
  | append_singleton earlier field ih =>
    rw [List.length_append, List.length_singleton] at hnone
    rw [List.append_assoc, List.singleton_append] at h
    obtain ⟨hfields, hle⟩ := ih h fun number hnumber => hnone number (by omega)
    have hfield := PieceFault.of_not fun error hfault =>
      hnone _ (Nat.le_refl _) error ⟨earlier, field, piece :: later, h, rfl, hfault⟩
    rcases hfield with ⟨hfield, hnine⟩ | ⟨-, hopen⟩
    · refine ⟨List.forall_mem_append.mpr ⟨hfields, ?_⟩, ?_⟩
      · intro other hother
        rwa [List.mem_singleton.mp hother]
      · rw [List.length_append, List.length_singleton]
        omega
    · exact absurd (List.cons_ne_nil piece later) hopen

/-- A piece at fault behind timer fields gives the error of the reading. -/
theorem parse_of_pieceFault
    (htext : token.toList = closedChars earlier ++ (piece ++ later.flatMap (',' :: ·)))
    (hfields : ∀ field ∈ earlier, IsTimerField field) (hle : earlier.length ≤ 8)
    (hcomma : ',' ∉ piece)
    (hfault : PieceFault (earlier.length + 1) (closedChars earlier) (later ≠ []) piece error) :
    TimerList.parse token = .error error := by
  have hend := TokenScan.run_fault hfields hcomma hfault
  have hrun : TokenScan.start.run 0 token.toList =
      (TokenScan.behind earlier []).run (closedChars earlier).length
        (piece ++ later.flatMap (',' :: ·)) := by
    rw [htext, ← TokenScan.behind_nil, TokenScan.run_fields hfields (by simpa using hle),
      List.nil_append, Nat.zero_add]
  rw [TimerList.parse_eq, hrun, hend]
  rfl

/-- The first piece at fault gives the error of the reading. -/
theorem parse_of_fault (h : FaultAt token number error)
    (hfirst : ∀ smaller < number, ∀ other, ¬FaultAt token smaller other) :
    TimerList.parse token = .error error ∧ error.Placed token := by
  obtain ⟨earlier, piece, later, hpieces, rfl, hfault⟩ := h
  obtain ⟨hfields, hle⟩ := isTimerField_of_no_fault hpieces
    fun number hnumber => hfirst number (Nat.lt_succ_of_le hnumber)
  have htext := toList_eq_of_timerPieces hpieces
  refine ⟨parse_of_pieceFault htext hfields hle (comma_not_mem_of_timerPieces hpieces) hfault, ?_⟩
  cases hfault with
  | @invalidCharacter digits rest c hdigits =>
    refine ⟨closedChars earlier ++ digits, rest ++ later.flatMap (',' :: ·), ?_, rfl, ?_⟩
    · rw [htext]
      simp
    · rw [utf8ByteSize_closedChars_append hfields hdigits, List.length_append]
  | outOfRange | emptyField | zeroValue => exact ⟨by omega, by omega⟩
  | tooManyValues => trivial

/-- The fields of a text without a fault are timer fields, at most eight, and the scan reads
them. -/
theorem run_of_no_fault (hnone : ∀ number error, ¬FaultAt token number error) :
    (∀ field ∈ timerFields token, IsTimerField field) ∧ (timerFields token).length ≤ 8 ∧
      (TokenScan.start.run 0 token.toList).bind TokenScan.closeLast =
        .ok (TokenScan.behind (timerFields token) []) := by
  have hne : timerPieces token ≠ [] := List.splitOn_ne_nil ',' token.toList
  obtain ⟨earlier, last, hpieces⟩ : ∃ earlier last, timerPieces token = earlier ++ [last] :=
    ⟨_, _, (List.dropLast_concat_getLast hne).symm⟩
  obtain ⟨hfields, hle⟩ := isTimerField_of_no_fault hpieces fun number _ => hnone number
  have htext := toList_eq_of_timerPieces hpieces
  rw [List.flatMap_nil, List.append_nil] at htext
  have hlast := PieceFault.of_not fun error hfault =>
    hnone _ error ⟨earlier, last, [], hpieces, rfl, hfault⟩
  rcases hlast with ⟨hlast, hnine⟩ | ⟨rfl, -⟩
  · have hall : timerFields token = earlier ++ [last] := by
      rw [timerFields, hpieces, List.getLast?_concat, if_neg (by simp [hlast.ne_nil])]
    have hlt : earlier.length < 8 := by omega
    rw [hall, htext]
    refine ⟨List.forall_mem_append.mpr ⟨hfields, ?_⟩, by simp; omega,
      TokenScan.run_open hfields hlast hlt⟩
    intro field hfield
    rwa [List.mem_singleton.mp hfield]
  · have hall : timerFields token = earlier := by
      rw [timerFields, hpieces, List.getLast?_concat, if_pos rfl, List.dropLast_concat]
    rw [hall, htext, List.append_nil]
    exact ⟨hfields, hle, TokenScan.run_closed hfields hle⟩

/-- Without a fault only the number of fields can be wrong. -/
theorem parse_of_no_fault (hnone : ∀ number error, ¬FaultAt token number error) :
    (timerFields token).length = 8 ∧ (∃ timers, TimerList.parse token = .ok timers) ∨
      (timerFields token).length < 8 ∧
        TimerList.parse token = .error (.tooFewValues (timerFields token).length) := by
  obtain ⟨hfields, hle, hrun⟩ := run_of_no_fault hnone
  rw [TimerList.parse_eq, hrun]
  rcases Nat.lt_or_eq_of_le hle with hlt | height
  · exact .inr ⟨hlt, if_neg (Nat.ne_of_lt hlt)⟩
  · obtain ⟨timers, hfinish, -⟩ := TokenScan.finish_behind height hfields
    exact .inl ⟨height, timers, hfinish⟩

/-- A text has a first piece at fault or none. -/
theorem exists_first_fault (token : String) :
    (∃ number error, FaultAt token number error ∧
      ∀ smaller < number, ∀ other, ¬FaultAt token smaller other) ∨
    ∀ number error, ¬FaultAt token number error := by
  classical
  by_cases h : ∃ number error, FaultAt token number error
  · obtain ⟨error, hfault⟩ := Nat.find_spec h
    exact .inl ⟨Nat.find h, error, hfault, fun smaller hlt other hother =>
      Nat.find_min h hlt ⟨other, hother⟩⟩
  · exact .inr fun number error hfault => h ⟨number, error, hfault⟩

theorem TokenRefused.parse_eq (h : TokenRefused token error) :
    TimerList.parse token = .error error ∧ error.Placed token := by
  cases h with
  | fault hfault hfirst => exact parse_of_fault hfault hfirst
  | tooFewValues hnone hne =>
    rcases parse_of_no_fault hnone with ⟨height, -⟩ | ⟨hlt, hparse⟩
    · exact absurd height hne
    · exact ⟨hparse, Nat.le_of_lt_succ hlt⟩

/-- A text is refused or read. -/
theorem exists_tokenRefused (token : String) :
    (∃ error, TokenRefused token error) ∨ ∃ timers, TimerList.parse token = .ok timers := by
  rcases exists_first_fault token with ⟨number, error, hfault, hfirst⟩ | hnone
  · exact .inl ⟨error, .fault hfault hfirst⟩
  · rcases parse_of_no_fault hnone with ⟨-, hread⟩ | ⟨hlt, -⟩
    · exact .inr hread
    · exact .inl ⟨_, .tooFewValues hnone (Nat.ne_of_lt hlt)⟩

end

/-- **The first piece at fault decides the error.** Take any text, cut at its commas.

It is refused with an error exactly if this is the error of the first piece that is at fault, or if
no piece is, its fields are not eight, and the error tells their number. In the piece at fault it is
the first character that is no digit, named with its position in bytes, unless the digits before it
are above 255 already; digits above 255; no character in front of a comma; digits with the value
zero; or a ninth timer field.

The field that an error names is one of the first nine, the fields that are too few are at most
seven, and the position is also the number of characters in front. -/
theorem refused_for_first_fault (token : String) (error : TimerError) :
    (TimerList.parse token = .error error ↔ TokenRefused token error) ∧
      (TimerList.parse token = .error error → error.Placed token) := by
  have hrefused : TimerList.parse token = .error error → TokenRefused token error := by
    intro hparse
    rcases exists_tokenRefused token with ⟨other, h⟩ | ⟨timers, hread⟩
    · cases h.parse_eq.1.symm.trans hparse
      exact h
    · cases hread.symm.trans hparse
  exact ⟨⟨hrefused, fun h => h.parse_eq.1⟩, fun hparse => (hrefused hparse).parse_eq.2⟩

/-- Digits above 255 win over the character behind them and over the empty field further on; a
character that is no digit is named whatever comes later; the comma behind eight fields opens a
ninth only if another one closes it. -/
theorem refused_for_first_fault_overflow :
    TokenRefused "7,0256é,,0" (.outOfRange 2) ∧
      TokenRefused "7,025é6,,0" (.invalidCharacter 'é' 5) ∧
      TimerError.Placed "7,025é6,,0" (.invalidCharacter 'é' 5) ∧
      TokenRefused "1,2,3,4,5,6,7,8,," (.emptyField 9) ∧
      TokenRefused "1,2,3,4,5,6,07," (.tooFewValues 7) := by
  have hcharacter : TimerList.parse "7,025é6,,0" = .error (.invalidCharacter 'é' 5) := rfl
  have hrefused := fun token error => (refused_for_first_fault token error).1.mp
  exact ⟨hrefused _ _ rfl, hrefused _ _ hcharacter, (refused_for_first_fault _ _).2 hcharacter,
    hrefused _ _ rfl, hrefused _ _ rfl⟩

end Irrigation
