import Irrigation.Toml.Reader
import Irrigation.Toml.Writer
import Mathlib.Algebra.Group.Nat.Hom
import Mathlib.Tactic.SplitIfs

/-!
# Escapes in texts

Basic texts are read back, on one line and over lines.

* `Escapes`: what stands behind a backslash for a character. `escapeTomlChar_cases`: a character is
  written as itself or with a backslash.
* `readBasic_escapeTomlText`: a basic text on one line is read back, whatever it holds.
* `readBasicLines_escapeTomlText`: so is one over lines. Up to two quotes in a row stand there as
  they are, so that the reader has to tell them from the closing ones.
-/

namespace Irrigation

/-! ## Escapes -/

/-- The characters behind a backslash stand for one character. -/
def Escapes (chars : List Char) (c : Char) : Prop :=
  ∀ rest, readEscape (chars ++ rest) = some (c, rest)

theorem hexDigit?_toUpper_digitChar {d : Nat} (h : d < 16) :
    hexDigit? d.digitChar.toUpper = some d := by
  have hall : ∀ d < 16, hexDigit? (Nat.digitChar d).toUpper = some d := by decide
  exact hall d h

theorem hexValue?_append_singleton (chars : List Char) (c : Char) :
    hexValue? (chars ++ [c]) = (do return (← hexValue? chars) * 16 + (← hexDigit? c)) := by
  rw [hexValue?, List.foldl_append]
  rfl

/-- The value of the last digits of a number. -/
theorem hexValue?_fixedNumeral (width n : Nat) :
    hexValue? ((fixedNumeral 16 width n).map Char.toUpper) = some (n % 16 ^ width) := by
  induction width generalizing n with
  | zero => simp [fixedNumeral, hexValue?, Nat.mod_one]
  | succ width ih =>
    have hdigit := hexDigit?_toUpper_digitChar (Nat.mod_lt n (by decide : 0 < 16))
    rw [fixedNumeral, List.map_append, List.map_singleton, hexValue?_append_singleton, ih, hdigit]
    have hmod : n / 16 % 16 ^ width * 16 + n % 16 = n % 16 ^ (width + 1) := by
      rw [Nat.pow_succ', Nat.mod_mul]
      omega
    simp [hmod]

theorem length_fixedNumeral (base width n : Nat) : (fixedNumeral base width n).length = width := by
  induction width generalizing n with
  | zero => rfl
  | succ width ih => rw [fixedNumeral, List.length_append, ih, List.length_singleton]

theorem charOfCodePoint?_toNat (c : Char) : charOfCodePoint? c.toNat = some c := by
  have hvalid : c.toNat.isValidChar := c.valid
  rw [charOfCodePoint?, dif_pos hvalid]
  rfl

/-- A code point of four digits. -/
theorem escapes_codePoint {c : Char} (h : c.toNat < 16 ^ 4) :
    Escapes ('u' :: (fixedNumeral 16 4 c.toNat).map Char.toUpper) c := by
  intro rest
  have hlength : ((fixedNumeral 16 4 c.toNat).map Char.toUpper).length = 4 := by
    rw [List.length_map, length_fixedNumeral]
  have hvalue := hexValue?_fixedNumeral 4 c.toNat
  rw [Nat.mod_eq_of_lt h] at hvalue
  rw [List.cons_append, readEscape, readCodePoint, if_neg (by simp [hlength]),
    List.take_left' hlength, List.drop_left' hlength, hvalue]
  simp [charOfCodePoint?_toNat]

/-- What a character is written as: itself, or an escape. -/
theorem escapeTomlChar_cases (overLines : Bool) (c : Char) :
    (escapeTomlChar overLines c = [c] ∧ c ≠ '\\' ∧ (isTextChar c ∨ c = '\n' ∧ overLines)) ∨
      ∃ chars, escapeTomlChar overLines c = '\\' :: chars ∧ Escapes chars c := by
  unfold escapeTomlChar
  split_ifs with hfeed hlines htab hreturn hbackslash hbackspace hpage hneeds
  · exact .inl ⟨by rw [hfeed], by rw [hfeed]; decide, .inr ⟨hfeed, hlines⟩⟩
  · subst hfeed
    exact .inr ⟨['n'], rfl, fun _ => rfl⟩
  · subst htab
    exact .inr ⟨['t'], rfl, fun _ => rfl⟩
  · subst hreturn
    exact .inr ⟨['r'], rfl, fun _ => rfl⟩
  · subst hbackslash
    exact .inr ⟨['\\'], rfl, fun _ => rfl⟩
  · obtain rfl : c = '\x08' := Char.toNat_inj.mp hbackspace
    exact .inr ⟨['b'], rfl, fun _ => rfl⟩
  · obtain rfl : c = '\x0c' := Char.toNat_inj.mp hpage
    exact .inr ⟨['f'], rfl, fun _ => rfl⟩
  · have hlt : c.toNat < 16 ^ 4 := by
      have hcontrol : ¬(32 ≤ c.toNat ∧ c.toNat ≠ 127) := by
        intro htext
        simp [needsEscape, isTextChar, htext] at hneeds
      omega
    exact .inr ⟨_, rfl, escapes_codePoint hlt⟩
  · have htext : isTextChar c := by simpa [needsEscape, hfeed] using hneeds
    exact .inl ⟨rfl, hbackslash, .inl htext⟩

/-! ## Basic texts on one line -/

theorem readBasic_escape {chars rest : List Char} {c : Char}
    (h : readEscape chars = some (c, rest)) :
    readBasic ('\\' :: chars) = (readBasic rest).map (consText c) := by
  rw [readBasic]
  split
  · next hnone => simp [h] at hnone
  · next c' rest' hsome =>
    cases h.symm.trans hsome
    rfl

theorem readBasic_textChar {c : Char} (rest : List Char) (h : isTextChar c) (hquote : c ≠ '\"')
    (hbackslash : c ≠ '\\') : readBasic (c :: rest) = (readBasic rest).map (consText c) := by
  rw [readBasic]
  · rw [if_pos h]
  · exact hquote
  · exact hbackslash

/-- A character of a basic text on one line is read back. -/
theorem readBasic_escapeTomlChar {c : Char} (h : c ≠ '\"') (rest : List Char) :
    readBasic (escapeTomlChar false c ++ rest) = (readBasic rest).map (consText c) := by
  rcases escapeTomlChar_cases false c with ⟨hself, hbackslash, htext | ⟨-, hlines⟩⟩ |
    ⟨chars, hescaped, hchars⟩
  · rw [hself]
    exact readBasic_textChar rest htext h hbackslash
  · contradiction
  · rw [hescaped]
    exact readBasic_escape (hchars rest)

/-- A basic text on one line is read back. -/
theorem readBasic_escapeTomlText (chars rest : List Char) :
    readBasic (escapeTomlText false 0 chars ++ '\"' :: rest) = some (chars, rest) := by
  induction chars with
  | nil =>
    rw [escapeTomlText, List.nil_append, readBasic]
  | cons c chars ih =>
    rw [escapeTomlText]
    split
    · next hquote =>
      have hescape : ∀ behind, readEscape ('\"' :: behind) = some ('\"', behind) := fun _ => rfl
      subst hquote
      simp only [Bool.false_and, Bool.false_eq_true, if_false, List.cons_append]
      rw [readBasic_escape (hescape _), ih]
      rfl
    · next hquote =>
      rw [List.append_assoc, readBasic_escapeTomlChar hquote, ih]
      rfl

/-! ## Basic texts over lines -/

/-- What an escape begins with is neither a blank nor the end of a line. -/
theorem dropWhile_isWhite_of_readEscape {chars rest : List Char} {c : Char}
    (h : readEscape chars = some (c, rest)) :
    chars.dropWhile isWhite = chars ∧ chars.head? ≠ some '\n' ∧ chars.head? ≠ some '\r' := by
  unfold readEscape at h
  split at h
  case h_10 => contradiction
  all_goals exact ⟨rfl, nofun, nofun⟩

theorem readBasicLines_escape {chars rest : List Char} {c : Char}
    (h : readEscape chars = some (c, rest)) :
    readBasicLines ('\\' :: chars) = (readBasicLines rest).map (consText c) := by
  obtain ⟨hwhite, hfeed, hreturn⟩ := dropWhile_isWhite_of_readEscape h
  rw [readBasicLines]
  split
  · next hline => simp [hwhite ▸ hline] at hfeed
  · next hline => simp [hwhite ▸ hline] at hreturn
  · split
    · next hnone => simp [h] at hnone
    · next c' rest' hsome =>
      cases h.symm.trans hsome
      rfl

theorem readBasicLines_textChar {c : Char} (rest : List Char) (h : isTextChar c) (hquote : c ≠ '\"')
    (hbackslash : c ≠ '\\') :
    readBasicLines (c :: rest) = (readBasicLines rest).map (consText c) := by
  have hfeed : c ≠ '\n' := by
    rintro rfl
    exact absurd h (by decide)
  have hreturn : c ≠ '\r' := by
    rintro rfl
    exact absurd h (by decide)
  rw [readBasicLines, if_pos h]
  all_goals simp [hquote, hbackslash, hfeed, hreturn]

theorem readBasicLines_lineFeed (rest : List Char) :
    readBasicLines ('\n' :: rest) = (readBasicLines rest).map (consText '\n') := by
  rw [readBasicLines]

/-- A quote without two more behind it belongs to the text. -/
theorem readBasicLines_quote {rest : List Char} (h : ¬['\"', '\"'] <+: rest) :
    readBasicLines ('\"' :: rest) = (readBasicLines rest).map (consText '\"') := by
  have hne : ∀ behind, rest ≠ '\"' :: '\"' :: behind := by
    rintro behind rfl
    exact h ⟨behind, rfl⟩
  rw [readBasicLines]
  all_goals
    intro behind hbehind
    exact hne _ hbehind

/-- Up to two quotes before the closing ones belong to the text. -/
theorem readBasicLines_close {count : Nat} (hcount : count ≤ 2) {rest : List Char}
    (h : rest.head? ≠ some '\"') :
    readBasicLines (List.replicate (count + 3) '\"' ++ rest) =
      some (List.replicate count '\"', rest) := by
  have hne : ∀ behind, rest ≠ '\"' :: behind := by
    rintro behind rfl
    exact h rfl
  match count with
  | 0 =>
    change readBasicLines ('\"' :: '\"' :: '\"' :: rest) = _
    rw [readBasicLines]
    · rfl
    all_goals
      intro behind hbehind
      exact hne _ hbehind
  | 1 =>
    change readBasicLines ('\"' :: '\"' :: '\"' :: '\"' :: rest) = _
    rw [readBasicLines]
    · rfl
    · exact hne
  | 2 =>
    change readBasicLines ('\"' :: '\"' :: '\"' :: '\"' :: '\"' :: rest) = _
    rw [readBasicLines]
    rfl

/-- No written character other than a quote begins with one. -/
theorem head?_escapeTomlChar {overLines : Bool} {c : Char} (h : c ≠ '\"') (rest : List Char) :
    (escapeTomlChar overLines c ++ rest).head? ≠ some '\"' := by
  rcases escapeTomlChar_cases overLines c with ⟨hself, -⟩ | ⟨chars, hescaped, -⟩
  · simp [hself, h]
  · simp [hescaped]

/-- A quote stands without a backslash only over lines, and only behind fewer than two others. -/
theorem head?_escapeTomlText {overLines : Bool} {run : Nat} {c : Char}
    (h : c = '\"' → overLines → 2 ≤ run) (chars rest : List Char) :
    (escapeTomlText overLines run (c :: chars) ++ rest).head? ≠ some '\"' := by
  rw [escapeTomlText]
  split_ifs with hquote hrun
  · obtain ⟨hlines, hlt⟩ : overLines = true ∧ run < 2 := by simpa using hrun
    exact absurd (h hquote hlines) (Nat.not_le_of_lt hlt)
  · exact nofun
  · rw [List.append_assoc]
    exact head?_escapeTomlChar hquote _

/-- Behind a quote, two more stand in front of the closing ones only if at most one of them is of
the text. -/
theorem replicate_of_quotes_ahead {run : Nat} {chars rest : List Char} (hrun : 1 ≤ run)
    (h : ['\"', '\"'] <+: escapeTomlText true run chars ++ (List.replicate 3 '\"' ++ rest)) :
    ∃ count ≤ 1, chars = List.replicate count '\"' ∧
      escapeTomlText true run chars = List.replicate count '\"' := by
  obtain ⟨behind, hbehind⟩ := h
  match chars with
  | [] => exact ⟨0, by decide, rfl, rfl⟩
  | c :: chars =>
    have hfirst : ¬(c = '\"' → true → 2 ≤ run) := fun hc =>
      head?_escapeTomlText hc chars (List.replicate 3 '\"' ++ rest) (by rw [← hbehind]; rfl)
    obtain ⟨rfl, hlt⟩ : c = '\"' ∧ run < 2 := by simpa using hfirst
    obtain rfl : run = 1 := by omega
    have hescaped :
        escapeTomlText true 1 ('\"' :: chars) = '\"' :: escapeTomlText true 2 chars := by
      rw [escapeTomlText]
      rfl
    match chars with
    | [] => exact ⟨1, by decide, rfl, by rw [hescaped]; rfl⟩
    | d :: chars =>
      rw [hescaped] at hbehind
      have htail := (List.cons.inj hbehind).2
      have hsecond := @head?_escapeTomlText true 2 d (fun _ _ => Nat.le_refl 2) chars
        (List.replicate 3 '\"' ++ rest)
      exact absurd (congrArg List.head? htail.symm) hsecond

theorem readBasicLines_escapeTomlChar {c : Char} (h : c ≠ '\"') (rest : List Char) :
    readBasicLines (escapeTomlChar true c ++ rest) = (readBasicLines rest).map (consText c) := by
  rcases escapeTomlChar_cases true c with ⟨hself, hbackslash, htext | ⟨rfl, -⟩⟩ |
    ⟨chars, hescaped, hchars⟩
  · rw [hself]
    exact readBasicLines_textChar rest htext h hbackslash
  · rw [hself]
    exact readBasicLines_lineFeed rest
  · rw [hescaped]
    exact readBasicLines_escape (hchars rest)

/-- A basic text over lines is read back, whatever number of quotes stands before it. -/
theorem readBasicLines_escapeTomlText (run : Nat) (chars : List Char) {rest : List Char}
    (h : rest.head? ≠ some '\"') :
    readBasicLines (escapeTomlText true run chars ++ (List.replicate 3 '\"' ++ rest)) =
      some (chars, rest) := by
  induction chars generalizing run with
  | nil => exact readBasicLines_close (Nat.zero_le 2) h
  | cons c chars ih =>
    rw [escapeTomlText]
    split_ifs with hquote hrun
    · subst hquote
      rw [List.cons_append]
      by_cases hahead :
          ['\"', '\"'] <+: escapeTomlText true (run + 1) chars ++ (List.replicate 3 '\"' ++ rest)
      · obtain ⟨count, hcount, hchars, hescaped⟩ := replicate_of_quotes_ahead (by omega) hahead
        have hclose := readBasicLines_close (Nat.succ_le_succ hcount) h
        rw [hescaped, hchars, ← List.append_assoc, List.replicate_append_replicate]
        rw [← List.replicate_succ, ← hclose]
        congr 3
      · rw [readBasicLines_quote hahead, ih]
        rfl
    · subst hquote
      rw [List.cons_append, List.cons_append]
      have hescape : ∀ behind, readEscape ('\"' :: behind) = some ('\"', behind) := fun _ => rfl
      rw [readBasicLines_escape (hescape _), ih]
      rfl
    · rw [List.append_assoc, readBasicLines_escapeTomlChar hquote, ih]
      rfl

end Irrigation
