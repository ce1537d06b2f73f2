import Irrigation.Proofs.Toml.Escapes

/-!
# Texts are read back

* `readLiteral_append`, `readLiteralLines_append`: literal texts are read back. They have no
  escapes, so this takes a text without apostrophes on one line, and without three apostrophes in a
  row over lines.
* `ne_of_longestRun_eq_zero`, `three_le_longestRun`: what the longest run of a mark says of a text.
* `readTomlText_writeTomlText`: the form that is chosen for a text always suits it.
-/

namespace Irrigation

/-! ## Literal texts -/

theorem readLiteral_append {chars : List Char} (rest : List Char)
    (h : ∀ c ∈ chars, isTextChar c ∧ c ≠ '\'') :
    readLiteral (chars ++ '\'' :: rest) = some (chars, rest) := by
  induction chars with
  | nil => simp [readLiteral]
  | cons c chars ih =>
    obtain ⟨⟨htext, hmark⟩, hchars⟩ := List.forall_mem_cons.mp h
    rw [List.cons_append, readLiteral, if_neg hmark, if_pos htext, ih hchars]
    rfl

theorem readLiteralLines_lineFeed (rest : List Char) :
    readLiteralLines ('\n' :: rest) = (readLiteralLines rest).map (consText '\n') := by
  rw [readLiteralLines]

theorem readLiteralLines_textChar {c : Char} {rest : List Char} (h : isTextChar c)
    (hahead : c = '\'' → ¬['\'', '\''] <+: rest) :
    readLiteralLines (c :: rest) = (readLiteralLines rest).map (consText c) := by
  have hne : c = '\'' → ∀ behind, rest ≠ '\'' :: '\'' :: behind := by
    rintro hc behind rfl
    exact hahead hc ⟨behind, rfl⟩
  rw [readLiteralLines]
  · rw [if_pos h]
  · intro behind hc hbehind
    exact hne hc _ hbehind
  · intro behind hc hbehind
    exact hne hc _ hbehind
  · intro behind hc hbehind
    exact hne hc _ hbehind
  · rintro rfl
    exact absurd h (by decide)
  · rintro behind rfl
    exact absurd h (by decide)

/-- Up to two apostrophes before the closing ones belong to the text. -/
theorem readLiteralLines_close {count : Nat} (hcount : count ≤ 2) {rest : List Char}
    (h : rest.head? ≠ some '\'') :
    readLiteralLines (List.replicate (count + 3) '\'' ++ rest) =
      some (List.replicate count '\'', rest) := by
  have hne : ∀ behind, rest ≠ '\'' :: behind := by
    rintro behind rfl
    exact h rfl
  match count with
  | 0 =>
    change readLiteralLines ('\'' :: '\'' :: '\'' :: rest) = _
    rw [readLiteralLines]
    · rfl
    all_goals
      intro behind hbehind
      exact hne _ hbehind
  | 1 =>
    change readLiteralLines ('\'' :: '\'' :: '\'' :: '\'' :: rest) = _
    rw [readLiteralLines]
    · rfl
    · exact hne
  | 2 =>
    change readLiteralLines ('\'' :: '\'' :: '\'' :: '\'' :: '\'' :: rest) = _
    rw [readLiteralLines]
    rfl

/-! ## Runs of marks -/

theorem le_longestRun (mark : Char) (current best : Nat) (chars : List Char) :
    best ≤ longestRun mark current best chars := by
  induction chars generalizing current best with
  | nil => exact Nat.le_refl best
  | cons c chars ih =>
    rw [longestRun]
    split
    · exact Nat.le_trans (Nat.le_max_left _ _) (ih _ _)
    · exact ih _ _

theorem ne_of_longestRun_eq_zero {mark : Char} {current best : Nat} {chars : List Char}
    (h : longestRun mark current best chars = 0) : ∀ c ∈ chars, c ≠ mark := by
  induction chars generalizing current best with
  | nil => exact nofun
  | cons c chars ih =>
    rw [longestRun] at h
    split at h
    · have hle := le_longestRun mark (current + 1) (max best (current + 1)) chars
      omega
    · next hc => exact List.forall_mem_cons.mpr ⟨hc, ih h⟩

/-- Three marks in a row are a run of at least three. -/
theorem three_le_longestRun (mark : Char) (current best : Nat) (chars : List Char) :
    3 ≤ longestRun mark current best (mark :: mark :: mark :: chars) := by
  have hle := le_longestRun mark (current + 3)
    (max (max (max best (current + 1)) (current + 2)) (current + 3)) chars
  simp only [longestRun, if_true]
  exact Nat.le_trans (by omega) hle

/-- Behind an apostrophe, two more stand in front of the closing ones only if at most one of them
is of the text. -/
theorem replicate_of_apostrophes_ahead {current best : Nat} {chars rest : List Char}
    (hruns : longestRun '\'' current best ('\'' :: chars) ≤ 2)
    (h : ['\'', '\''] <+: chars ++ (List.replicate 3 '\'' ++ rest)) :
    ∃ count ≤ 1, chars = List.replicate count '\'' := by
  obtain ⟨behind, hbehind⟩ := h
  match chars with
  | [] => exact ⟨0, by decide, rfl⟩
  | [c] =>
    obtain rfl : '\'' = c := (List.cons.inj hbehind).1
    exact ⟨1, by decide, rfl⟩
  | c :: d :: chars =>
    obtain ⟨rfl, htail⟩ : '\'' = c ∧ _ := List.cons.inj hbehind
    obtain ⟨rfl, -⟩ : '\'' = d ∧ _ := List.cons.inj htail
    have hthree := three_le_longestRun '\'' current best chars
    omega

/-- A literal text over lines is read back if it has no three apostrophes in a row. -/
theorem readLiteralLines_append {current best : Nat} {chars rest : List Char}
    (hchars : ∀ c ∈ chars, isTextChar c ∨ c = '\n')
    (hruns : longestRun '\'' current best chars ≤ 2) (h : rest.head? ≠ some '\'') :
    readLiteralLines (chars ++ (List.replicate 3 '\'' ++ rest)) = some (chars, rest) := by
  induction chars generalizing current best with
  | nil => exact readLiteralLines_close (Nat.zero_le 2) h
  | cons c chars ih =>
    obtain ⟨hc, hchars⟩ := List.forall_mem_cons.mp hchars
    have hbehind : readLiteralLines (chars ++ (List.replicate 3 '\'' ++ rest)) =
        some (chars, rest) := by
      rw [longestRun] at hruns
      split at hruns <;> exact ih hchars hruns
    rw [List.cons_append]
    rcases hc with htext | rfl
    · by_cases hahead : c = '\'' ∧ ['\'', '\''] <+: chars ++ (List.replicate 3 '\'' ++ rest)
      · obtain ⟨rfl, hahead⟩ := hahead
        obtain ⟨count, hcount, rfl⟩ := replicate_of_apostrophes_ahead hruns hahead
        have hclose := readLiteralLines_close (Nat.succ_le_succ hcount) h
        rw [← List.append_assoc, List.replicate_append_replicate, ← List.replicate_succ, ← hclose]
        congr 3
      · rw [readLiteralLines_textChar htext (fun hc hprefix => hahead ⟨hc, hprefix⟩), hbehind]
        rfl
    · rw [readLiteralLines_lineFeed, hbehind]
      rfl

/-! ## The form of a text -/

section

variable {profile : TextProfile}

theorem of_ofProfile_eq_literal (h : TextForm.ofProfile profile = .literal) :
    profile.control = false ∧ profile.apostrophes = 0 ∧ profile.lineFeed = false := by
  unfold TextForm.ofProfile at h
  split_ifs at h with _ hliteral
  simpa [and_assoc] using hliteral

theorem of_ofProfile_eq_literalLines (h : TextForm.ofProfile profile = .literalLines) :
    profile.control = false ∧ profile.apostrophes ≤ 2 := by
  unfold TextForm.ofProfile at h
  split_ifs at h with _ _ _ hliteral
  simpa using hliteral

end

theorem textChar_of_control_eq_false {chars : List Char}
    (h : (TextProfile.of chars).control = false) : ∀ c ∈ chars, isTextChar c ∨ c = '\n' := by
  intro c hc
  have hneeds : needsEscape c = false := by
    simpa using List.any_eq_false.mp h c hc
  by_cases hfeed : c = '\n'
  · exact .inr hfeed
  · left
    simpa [needsEscape, hfeed] using hneeds

theorem ne_lineFeed_of_lineFeed_eq_false {chars : List Char}
    (h : (TextProfile.of chars).lineFeed = false) : ∀ c ∈ chars, c ≠ '\n' := by
  rintro c hc rfl
  have hmem : chars.contains '\n' = true := List.contains_iff_mem.mpr hc
  exact absurd (h.symm.trans hmem) nofun

/-! ## All forms -/

theorem readTomlText_quote {chars : List Char} (h : ¬['\"', '\"'] <+: chars) :
    readTomlText ('\"' :: chars) = readBasic chars := by
  rw [readTomlText]
  rintro behind rfl
  exact h ⟨behind, rfl⟩

theorem readTomlText_apostrophe {chars : List Char} (h : ¬['\'', '\''] <+: chars) :
    readTomlText ('\'' :: chars) = readLiteral chars := by
  rw [readTomlText]
  rintro behind rfl
  exact h ⟨behind, rfl⟩

theorem skipLineBreak_textChar {c : Char} (h : isTextChar c) (rest : List Char) :
    skipLineBreak (c :: rest) = c :: rest := by
  rw [skipLineBreak]
  · rintro behind hchars
    obtain rfl : c = '\n' := (List.cons.inj hchars).1
    exact absurd h (by decide)
  · rintro behind hchars
    obtain rfl : c = '\r' := (List.cons.inj hchars).1
    exact absurd h (by decide)

/-- A basic text over lines begins with a line break only if the text has one. -/
theorem skipLineBreak_escapeTomlText {chars : List Char} (h : ∀ c ∈ chars, c ≠ '\n')
    (rest : List Char) :
    skipLineBreak (escapeTomlText true 0 chars ++ '\"' :: rest) =
      escapeTomlText true 0 chars ++ '\"' :: rest := by
  match chars with
  | [] => exact skipLineBreak_textChar (by decide) rest
  | c :: chars =>
    rw [escapeTomlText]
    split_ifs with hquote hrun
    · exact skipLineBreak_textChar (by rw [hquote]; decide) _
    · exact skipLineBreak_textChar (by decide) _
    · rcases escapeTomlChar_cases true c with ⟨hself, -, htext | ⟨hfeed, -⟩⟩ | ⟨_, hescaped, -⟩
      · rw [hself]
        exact skipLineBreak_textChar htext _
      · exact absurd hfeed (h c List.mem_cons_self)
      · rw [hescaped]
        exact skipLineBreak_textChar (by decide) _

theorem skipLineBreak_append {chars : List Char} (hchars : ∀ c ∈ chars, isTextChar c ∨ c = '\n')
    (h : ∀ c ∈ chars, c ≠ '\n') (rest : List Char) :
    skipLineBreak (chars ++ '\'' :: rest) = chars ++ '\'' :: rest := by
  match chars with
  | [] => exact skipLineBreak_textChar (by decide) rest
  | c :: chars =>
    have htext : isTextChar c :=
      (hchars c List.mem_cons_self).resolve_right (h c List.mem_cons_self)
    exact skipLineBreak_textChar htext _

/-- The line break behind the opening marks is skipped, and nothing else is. -/
theorem skipLineBreak_opening {lineFeed : Bool} {chars : List Char}
    (h : lineFeed = false → skipLineBreak chars = chars) :
    skipLineBreak ((if lineFeed then ['\n'] else []) ++ chars) = chars := by
  cases lineFeed with
  | true => rfl
  | false => exact h rfl

/-- A mark behind a text that does not begin with one stands alone. -/
theorem not_two_marks {mark : Char} {chars rest : List Char} (hchars : chars.head? ≠ some mark)
    (hrest : rest.head? ≠ some mark) : ¬[mark, mark] <+: chars ++ mark :: rest := by
  rintro ⟨behind, hbehind⟩
  match chars with
  | [] => exact hrest (congrArg List.head? (List.cons.inj hbehind).2.symm)
  | c :: chars => exact hchars (congrArg some (List.cons.inj hbehind).1.symm)

/-- **A written text is read back**, whatever it holds, if no further mark stands behind it. -/
theorem readTomlText_writeTomlText (text : String) {rest : List Char}
    (hquote : rest.head? ≠ some '\"') (hapostrophe : rest.head? ≠ some '\'') :
    readTomlText (writeTomlText text ++ rest) = some (text.toList, rest) := by
  simp only [writeTomlText]
  generalize text.toList = chars
  cases hform : TextForm.ofProfile (TextProfile.of chars) with
  | basic =>
    simp only [List.append_assoc, List.cons_append, List.nil_append]
    have hhead : (escapeTomlText false 0 chars).head? ≠ some '\"' := by
      match chars with
      | [] => exact nofun
      | c :: chars => simpa using @head?_escapeTomlText false 0 c (fun _ => nofun) chars []
    rw [readTomlText_quote (not_two_marks hhead hquote), readBasic_escapeTomlText]
  | literal =>
    obtain ⟨hcontrol, hruns, hlines⟩ := of_ofProfile_eq_literal hform
    have hchars : ∀ c ∈ chars, isTextChar c ∧ c ≠ '\'' := fun c hc =>
      ⟨(textChar_of_control_eq_false hcontrol c hc).resolve_right
        (ne_lineFeed_of_lineFeed_eq_false hlines c hc), ne_of_longestRun_eq_zero hruns c hc⟩
    have hhead : chars.head? ≠ some '\'' := fun h =>
      (hchars _ (List.mem_of_head? h)).2 rfl
    simp only [List.append_assoc, List.cons_append, List.nil_append]
    rw [readTomlText_apostrophe (not_two_marks hhead hapostrophe), readLiteral_append rest hchars]
  | basicLines =>
    simp only [List.append_assoc, List.cons_append, List.nil_append]
    rw [readTomlText, skipLineBreak_opening]
    · exact readBasicLines_escapeTomlText 0 chars hquote
    · exact fun hlines => skipLineBreak_escapeTomlText (ne_lineFeed_of_lineFeed_eq_false hlines) _
  | literalLines =>
    obtain ⟨hcontrol, hruns⟩ := of_ofProfile_eq_literalLines hform
    have hchars := textChar_of_control_eq_false hcontrol
    simp only [List.append_assoc, List.cons_append, List.nil_append]
    rw [readTomlText, skipLineBreak_opening]
    · exact readLiteralLines_append hchars hruns hapostrophe
    · exact fun hlines => skipLineBreak_append hchars (ne_lineFeed_of_lineFeed_eq_false hlines) _

end Irrigation
