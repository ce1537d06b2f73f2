import Irrigation.Proofs.Timers.Canonical
import Irrigation.Proofs.Timers.Refusal
import Mathlib.Data.List.Infix

/-!
# Spellings of a timer list

A list can be written in many ways: with zeros in front of its fields, and with a comma behind the
last one. Its text has none of these.

* `canonicalToken`: a text without the zeros in front of its fields and without a last comma.
* `IsTimerToken.timerFields_eq`: the fields of a timer token are those between its commas.
* `IsTimerToken.canonicalToken_eq`: the canonical token of a timer token is the text of its list.
  `isTimerToken_of_canonicalToken_eq`: only timer tokens have such a canonical token.
* `tokens_have_canonical_form`: so a text is read as a list exactly if its canonical token is the
  text of the list.
-/

namespace Irrigation

/-- A text without the zeros in front of its fields and without a comma behind the last of them. -/
def canonicalToken (token : String) : String :=
  String.ofList ([','].intercalate ((timerFields token).map withoutLeadingZeros))

variable {token : String} {fields : List (List Char)} {timers : TimerList}

/-! ## Fields between commas -/

theorem IsTimerField.comma_not_mem {field : List Char} (h : IsTimerField field) : ',' ∉ field :=
  comma_not_mem_of_isDigit h.digits

theorem timerPieces_of_toList_eq {pieces : List (List Char)} (hne : pieces ≠ [])
    (hcomma : ∀ piece ∈ pieces, ',' ∉ piece) (htext : token.toList = [','].intercalate pieces) :
    timerPieces token = pieces := by
  rw [timerPieces, htext, List.splitOn_intercalate ',' hcomma hne]

/-- The fields of a timer token are those between its commas. -/
theorem IsTimerToken.timerFields_eq (h : IsTimerToken token fields) :
    timerFields token = fields := by
  have hne : fields ≠ [] := List.ne_nil_of_length_eq_add_one h.length_eq
  have hcomma : ∀ field ∈ fields, ',' ∉ field := fun field hfield =>
    (h.isTimerField field hfield).comma_not_mem
  rcases h.text with htext | htext
  · have hpieces := timerPieces_of_toList_eq hne hcomma htext
    have hlast := (h.isTimerField _ (List.getLast_mem hne)).ne_nil
    rw [timerFields, hpieces, List.getLast?_eq_some_getLast hne, if_neg (by simpa using hlast)]
  · -- The last comma leaves an empty piece behind it.
    rw [← closedChars_eq_intercalate hne, ← List.append_nil (closedChars fields),
      closedChars_append] at htext
    have hpieces : timerPieces token = fields ++ [[]] :=
      timerPieces_of_toList_eq (by simp)
        (List.forall_mem_append.mpr ⟨hcomma, by simp⟩) htext
    rw [timerFields, hpieces, List.getLast?_concat, if_pos rfl, List.dropLast_concat]

/-- A text is its fields with commas between them, and perhaps one comma behind. -/
theorem toList_eq_of_timerFields (hne : timerFields token ≠ []) :
    token.toList = [','].intercalate (timerFields token) ∨
      token.toList = [','].intercalate (timerFields token) ++ [','] := by
  have htext : [','].intercalate (timerPieces token) = token.toList :=
    List.intercalate_splitOn ','
  by_cases hlast : (timerPieces token).getLast? = some []
  · have hfields : timerFields token = (timerPieces token).dropLast := if_pos hlast
    have hpieces : timerPieces token = timerFields token ++ [[]] := by
      rw [hfields, List.dropLast_append_getLast? [] hlast]
    right
    rw [← htext, hpieces, ← closedChars_append, List.append_nil, closedChars_eq_intercalate hne]
  · have hfields : timerFields token = timerPieces token := if_neg hlast
    exact .inl (hfields ▸ htext.symm)

theorem comma_not_mem_of_timerFields {field : List Char} (h : field ∈ timerFields token) :
    ',' ∉ field := by
  have hpiece : field ∈ timerPieces token := by
    unfold timerFields at h
    split at h
    · exact List.mem_of_mem_dropLast h
    · exact h
  exact not_mem_of_mem_splitOn hpiece

/-! ## Canonical tokens -/

/-- Without the zeros in front a timer field is the digits of its value. -/
theorem IsTimerField.eq_toDigits {field : List Char} (h : IsTimerField field) :
    withoutLeadingZeros field = Nat.toDigits 10 (digitsValue field) := by
  rw [withoutLeadingZeros_eq h.digits, if_neg (Nat.one_le_iff_ne_zero.mp h.one_le)]

/-- The canonical token of a timer token is the text of the list of its values. -/
theorem IsTimerToken.canonicalToken_eq (h : IsTimerToken token fields)
    (hvalues : timers.toList.map UInt8.toNat = fields.map digitsValue) :
    canonicalToken token = timers.render := by
  have hnumerals : fields.map withoutLeadingZeros = timers.numerals := by
    calc fields.map withoutLeadingZeros
        = fields.map fun field => Nat.toDigits 10 (digitsValue field) :=
          List.map_congr_left fun field hfield => (h.isTimerField field hfield).eq_toDigits
      _ = (fields.map digitsValue).map (Nat.toDigits 10) := by rw [List.map_map]; rfl
      _ = timers.numerals := by rw [← hvalues, List.map_map]; rfl
  rw [canonicalToken, h.timerFields_eq, hnumerals, ← timers.toList_render, String.ofList_toList]

/-- The fields of a text whose canonical token is the text of a list are the numerals of the list,
but for zeros in front. -/
theorem map_withoutLeadingZeros_of_canonicalToken_eq (h : canonicalToken token = timers.render) :
    (timerFields token).map withoutLeadingZeros = timers.numerals := by
  have htext : [','].intercalate ((timerFields token).map withoutLeadingZeros) =
      [','].intercalate timers.numerals := by
    rw [← timers.toList_render, ← h, canonicalToken, String.toList_ofList]
  have hnumerals := timers.isTimerToken_render
  have hright : ([','].intercalate timers.numerals).splitOn ',' = timers.numerals :=
    List.splitOn_intercalate ','
      (fun field hfield => (hnumerals.isTimerField field hfield).comma_not_mem)
      (List.ne_nil_of_length_eq_add_one hnumerals.length_eq)
  have hne : (timerFields token).map withoutLeadingZeros ≠ [] := by
    intro hnil
    rw [← htext, hnil] at hright
    have hlength := hnumerals.length_eq
    rw [← hright] at hlength
    contradiction
  have hcomma : ∀ field ∈ (timerFields token).map withoutLeadingZeros, ',' ∉ field := by
    intro stripped hstripped
    obtain ⟨field, hfield, rfl⟩ := List.mem_map.mp hstripped
    intro hmem
    exact comma_not_mem_of_timerFields hfield (List.dropWhile_subset _ hmem)
  rw [← hright, ← htext, List.splitOn_intercalate ',' hcomma hne]

/-- Only a timer token has the text of a list for its canonical token. -/
theorem isTimerToken_of_canonicalToken_eq (h : canonicalToken token = timers.render) :
    IsTimerToken token (timerFields token) := by
  have hfields := map_withoutLeadingZeros_of_canonicalToken_eq h
  have hnumerals := timers.isTimerToken_render
  have hlength : (timerFields token).length = 8 := by
    rw [← hnumerals.length_eq, ← hfields, List.length_map]
  refine ⟨hlength, ?_, toList_eq_of_timerFields (List.ne_nil_of_length_eq_add_one hlength)⟩
  intro field hfield
  have hstripped : IsTimerField (withoutLeadingZeros field) :=
    hnumerals.isTimerField _ (hfields ▸ List.mem_map_of_mem hfield)
  have hvalue := digitsValue_withoutLeadingZeros field
  refine ⟨?_, ?_, hvalue ▸ hstripped.one_le, hvalue ▸ hstripped.le_max⟩
  · rintro rfl
    exact hstripped.ne_nil rfl
  · intro c hc
    rcases eq_zero_or_mem_withoutLeadingZeros hc with rfl | hc
    · decide
    · exact hstripped.digits c hc

/-- A text is read as a list exactly if its canonical token is the text of the list. -/
theorem parse_eq_ok_iff_canonicalToken_eq :
    TimerList.parse token = .ok timers ↔ canonicalToken token = timers.render := by
  constructor
  · intro hparse
    obtain ⟨fields, h⟩ := isTimerToken_of_parse hparse
    obtain ⟨timers', hparse', hvalues⟩ := parse_isTimerToken h
    cases hparse.symm.trans hparse'
    exact h.canonicalToken_eq hvalues
  · intro hcanonical
    have h := isTimerToken_of_canonicalToken_eq hcanonical
    obtain ⟨timers', hparse, hvalues⟩ := parse_isTimerToken h
    have hrender : timers'.render = timers.render :=
      (h.canonicalToken_eq hvalues).symm.trans hcanonical
    -- Lists with the same text are the same, since the text is read back.
    have hok := timers'.parse_render
    rw [hrender, timers.parse_render] at hok
    cases hok
    exact hparse

/-- **Timer tokens have a canonical form.** The text of a list is read back as the list. Any text is
read as a list exactly if, without the zeros in front of its fields and without a comma behind the
last one, it is the text of the list.

So another text is read as the same list exactly if it has the same canonical form; and the
canonical form is read as the same list, and is its own canonical form. -/
theorem tokens_have_canonical_form :
    (∀ timers, TimerList.parse timers.render = .ok timers) ∧
    (∀ token timers,
      TimerList.parse token = .ok timers ↔ canonicalToken token = timers.render) ∧
    ∀ token timers, TimerList.parse token = .ok timers →
      (∀ other, TimerList.parse other = .ok timers ↔ canonicalToken other = canonicalToken token) ∧
      TimerList.parse (canonicalToken token) = .ok timers ∧
      canonicalToken (canonicalToken token) = canonicalToken token := by
  refine ⟨TimerList.parse_render, fun _ _ => parse_eq_ok_iff_canonicalToken_eq, ?_⟩
  intro token timers hparse
  have hcanonical := parse_eq_ok_iff_canonicalToken_eq.mp hparse
  have hrender := timers.parse_render
  rw [hcanonical]
  refine ⟨fun _ => parse_eq_ok_iff_canonicalToken_eq, hrender, ?_⟩
  exact parse_eq_ok_iff_canonicalToken_eq.mp hrender

/-- Any number of zeros in front of a field makes no difference, one comma behind the last field
neither; a second comma does. -/
theorem tokens_have_canonical_form_leading_zeros :
    let timers : TimerList := ⟨#v[10, 100, 1, 255, 7, 20, 3, 40], by decide⟩
    TimerList.parse "0010,100,1,255,007,20,03,40," = .ok timers ∧
      canonicalToken "0010,100,1,255,007,20,03,40," = "10,100,1,255,7,20,3,40" ∧
      TimerList.parse "10,100,1,00255,7,020,3,40" = .ok timers ∧
      TimerList.parse "10,100,1,255,7,20,3,40,," ≠ .ok timers := by
  intro timers
  have hparse : TimerList.parse "0010,100,1,255,007,20,03,40," = .ok timers := rfl
  have hrender : timers.render = "10,100,1,255,7,20,3,40" := by decide +kernel
  obtain ⟨-, hcanonical, hspellings⟩ := tokens_have_canonical_form
  obtain ⟨hothers, -, -⟩ := hspellings _ _ hparse
  refine ⟨hparse, ((hcanonical _ _).mp hparse).trans hrender,
    (hothers _).mpr (by decide +kernel), ?_⟩
  exact fun h => absurd ((hothers _).mp h) (by decide +kernel)

end Irrigation
