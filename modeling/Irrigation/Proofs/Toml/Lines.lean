import Irrigation.Proofs.Text.Digits
import Irrigation.Proofs.Toml.Texts

/-!
# Lines of entries are read back

* `readTomlInteger_toDigits`: the digits of a number are read back as the number.
* `IsWritten`: characters that are read as a value. `isWritten_text` and `isWritten_toDigits`: what
  is written for texts and numbers is so.
* `readTomlLines_writeTomlEntry`: a written entry is the next one that is read.
* `le_of_readTomlLines`: no integer in a file is greater than TOML can hold.
-/

namespace Irrigation

/-! ## Integers -/

theorem ne_of_isDigit {c d : Char} (hc : c.isDigit) (hd : d.isDigit = false) : c ≠ d := by
  rintro rfl
  exact absurd (hd.symm.trans hc) nofun

theorem digitIn?_of_isDigit {c : Char} (h : c.isDigit) : digitIn? 10 c = some (c.toNat - 48) := by
  obtain ⟨hlow, hhigh⟩ : 48 ≤ c.toNat ∧ c.toNat ≤ 57 := Char.isDigit_iff_toNat.mp h
  have hlt : c.toNat - 48 < 10 := by omega
  simp [digitIn?, hexDigit?, hlow, hhigh, hlt]

theorem readMoreDigits_cons {base : Nat} {c : Char} (h : c ≠ '_') (value : Nat)
    (rest : List Char) :
    readMoreDigits base value (c :: rest) =
      match digitIn? base c with
      | some d => readMoreDigits base (value * base + d) rest
      | none => some (value, c :: rest) := by
  rw [readMoreDigits.eq_def]
  simp only
  split
  · contradiction
  · contradiction
  · rfl

/-- The digits of a line are read to its end. -/
theorem readMoreDigits_append {digits : List Char} (h : ∀ c ∈ digits, c.isDigit) (value : Nat)
    (rest : List Char) :
    readMoreDigits 10 value (digits ++ '\n' :: rest) =
      some (Nat.ofDigitChars 10 digits value, '\n' :: rest) := by
  induction digits generalizing value with
  | nil => exact readMoreDigits_cons (by decide) value rest
  | cons c digits ih =>
    obtain ⟨hc, hdigits⟩ := List.forall_mem_cons.mp h
    have hne : c ≠ '_' := ne_of_isDigit hc (by decide)
    rw [List.cons_append, readMoreDigits_cons hne, digitIn?_of_isDigit hc]
    simp only
    rw [ih hdigits, Nat.ofDigitChars_cons, Nat.mul_comm]
    rfl

/-- Only zero is written with a leading zero. -/
theorem head?_toDigits_ne {n : Nat} (h : n ≠ 0) : (Nat.toDigits 10 n).head? ≠ some '0' := by
  -- Nothing is cut off the digits where zeros in front are left out.
  have hself : withoutLeadingZeros (Nat.toDigits 10 n) = Nat.toDigits 10 n := by
    simp [withoutLeadingZeros_eq (forall_isDigit_toDigits n), h]
  have hhead := List.head?_dropWhile_not (· = '0') (Nat.toDigits 10 n)
  intro hzero
  rw [← withoutLeadingZeros, hself, hzero] at hhead
  exact absurd hhead (by decide)

/-- A number other than zero is written as a digit that is not zero with further digits. -/
theorem exists_toDigits_eq_cons_of_ne_zero {n : Nat} (h : n ≠ 0) :
    ∃ c digits, Nat.toDigits 10 n = c :: digits ∧ c ≠ '0' ∧ c.isDigit ∧
      ∀ d ∈ digits, d.isDigit := by
  obtain ⟨c, digits, hcons⟩ := List.exists_cons_of_ne_nil (@Nat.toDigits_ne_nil n 10)
  have hdigits := forall_isDigit_toDigits n
  rw [hcons] at hdigits
  refine ⟨c, digits, hcons, ?_, List.forall_mem_cons.mp hdigits⟩
  rintro rfl
  exact head?_toDigits_ne h (by rw [hcons]; rfl)

theorem readDecimal_toDigits (n : Nat) (rest : List Char) :
    readDecimal (Nat.toDigits 10 n ++ '\n' :: rest) = some (n, '\n' :: rest) := by
  by_cases hzero : n = 0
  · rw [hzero]
    rfl
  · obtain ⟨c, digits, hcons, hne, hc, hdigits⟩ := exists_toDigits_eq_cons_of_ne_zero hzero
    have hvalue := @Nat.ofDigitChars_ten_toDigits n
    rw [hcons, Nat.ofDigitChars_cons, Nat.mul_zero, Nat.zero_add] at hvalue
    rw [hcons, List.cons_append, readDecimal, readDigits, digitIn?_of_isDigit hc]
    · change readMoreDigits 10 (c.toNat - '0'.toNat) _ = _
      rw [readMoreDigits_append hdigits, hvalue]
    · intro chars hchars
      exact hne (List.cons.inj hchars).1

/-- The digits of a number are read back as the number. -/
theorem readTomlInteger_toDigits {n : Nat} (h : n ≤ maxTomlInteger) (rest : List Char) :
    readTomlInteger (Nat.toDigits 10 n ++ '\n' :: rest) = some ((n : Int), '\n' :: rest) := by
  have hread : readDecimal (Nat.toDigits 10 n ++ '\n' :: rest) >>= signedUpTo maxTomlInteger 1 =
      some ((n : Int), '\n' :: rest) := by
    rw [readDecimal_toDigits]
    simp [signedUpTo, h]
  by_cases hzero : n = 0
  · rw [← hread, hzero]
    rfl
  · obtain ⟨c, digits, hcons, hne, hc, -⟩ := exists_toDigits_eq_cons_of_ne_zero hzero
    rw [hcons, List.cons_append] at hread ⊢
    rw [readTomlInteger, hread]
    · exact fun _ hchars => hne (List.cons.inj hchars).1
    · exact fun _ hchars => hne (List.cons.inj hchars).1
    · exact fun _ hchars => hne (List.cons.inj hchars).1
    · exact fun _ hchars => ne_of_isDigit hc (by decide) (List.cons.inj hchars).1
    · exact fun _ hchars => ne_of_isDigit hc (by decide) (List.cons.inj hchars).1

/-! ## Values -/

/-- Characters are a written value: they begin with no blank, and they are read as the value up to
the end of a line. -/
structure IsWritten (written : List Char) (value : TomlValue) : Prop where
  head : ∃ c chars, written = c :: chars ∧ isWhite c = false
  read : ∀ rest, readTomlValue (written ++ '\n' :: rest) = some (value, '\n' :: rest)

theorem exists_writeTomlText_eq_cons (text : String) :
    ∃ chars, writeTomlText text = '\"' :: chars ∨ writeTomlText text = '\'' :: chars := by
  simp only [writeTomlText]
  cases TextForm.ofProfile (TextProfile.of text.toList) with
  | basic | basicLines => exact ⟨_, .inl rfl⟩
  | literal | literalLines => exact ⟨_, .inr rfl⟩

theorem isWritten_text (text : String) : IsWritten (writeTomlText text) (.text text) := by
  have hread : ∀ rest, readTomlText (writeTomlText text ++ '\n' :: rest) =
      some (text.toList, '\n' :: rest) := fun rest =>
    readTomlText_writeTomlText text (by simp) (by simp)
  obtain ⟨chars, hchars | hchars⟩ := exists_writeTomlText_eq_cons text
  all_goals
    refine ⟨⟨_, chars, hchars, by decide⟩, fun rest => ?_⟩
    have hrest := hread rest
    rw [hchars, List.cons_append] at hrest ⊢
    rw [readTomlValue]
    simp [hrest]

theorem isWritten_toDigits {n : Nat} (h : n ≤ maxTomlInteger) :
    IsWritten (Nat.toDigits 10 n) (.integer n) := by
  obtain ⟨c, digits, hcons, hc⟩ := exists_toDigits_eq_cons n
  refine ⟨⟨c, digits, hcons, ?_⟩, fun rest => ?_⟩
  · have hblank : c ≠ ' ' := ne_of_isDigit hc (by decide)
    have htab : c ≠ '\t' := ne_of_isDigit hc (by decide)
    simp [isWhite, hblank, htab]
  · have hread := readTomlInteger_toDigits h rest
    rw [hcons, List.cons_append] at hread ⊢
    rw [readTomlValue, hread]
    · rfl
    · exact fun _ hchars => ne_of_isDigit hc (by decide) (List.cons.inj hchars).1
    · exact fun _ hchars => ne_of_isDigit hc (by decide) (List.cons.inj hchars).1

/-! ## Entries -/

theorem dropWhile_isWhite_cons {c : Char} (h : isWhite c = false) (chars : List Char) :
    (c :: chars).dropWhile isWhite = c :: chars :=
  List.dropWhile_cons_of_neg (by simp [h])

/-- A key that may stand without quotes. -/
structure IsBareKey (key : String) : Prop where
  ne_nil : key.toList ≠ []
  bare : ∀ c ∈ key.toList, isBareKeyChar c

theorem readTomlKey_append {key : String} (h : IsBareKey key) (rest : List Char) :
    readTomlKey (key.toList ++ ' ' :: rest) = some (key.toList, ' ' :: rest) := by
  have htake : (key.toList ++ ' ' :: rest).takeWhile isBareKeyChar = key.toList := by
    rw [List.takeWhile_append_of_pos h.bare]
    simp [isBareKeyChar]
  have hdrop : (key.toList ++ ' ' :: rest).dropWhile isBareKeyChar = ' ' :: rest := by
    rw [List.dropWhile_append_of_pos h.bare]
    rfl
  obtain ⟨c, chars, hkey⟩ := List.exists_cons_of_ne_nil h.ne_nil
  have hc : isBareKeyChar c := h.bare c (by rw [hkey]; exact List.mem_cons_self)
  rw [hkey, List.cons_append] at htake hdrop ⊢
  rw [readTomlKey, htake, hdrop]
  · intro chars hchars
    rw [(List.cons.inj hchars).1] at hc
    exact absurd hc (by decide)
  · intro chars hchars
    rw [(List.cons.inj hchars).1] at hc
    exact absurd hc (by decide)

variable {key : String} {written : List Char} {value : TomlValue}

theorem readTomlEntry_writeTomlEntry (hkey : IsBareKey key) (h : IsWritten written value)
    (rest : List Char) :
    readTomlEntry (writeTomlEntry key written ++ rest) = some ((key, value), rest) := by
  have hspace : (' ' :: '=' :: ' ' :: (written ++ '\n' :: rest)).dropWhile isWhite =
      '=' :: ' ' :: (written ++ '\n' :: rest) := rfl
  have hvalue : (' ' :: (written ++ '\n' :: rest)).dropWhile isWhite = written ++ '\n' :: rest := by
    obtain ⟨c, chars, hwritten, hwhite⟩ := h.head
    rw [hwritten, List.dropWhile_cons_of_pos (by decide)]
    exact dropWhile_isWhite_cons hwhite _
  have hend : readLineEnd ('\n' :: rest) = some rest := rfl
  simp only [writeTomlEntry, List.append_assoc, List.cons_append, List.nil_append]
  simp [readTomlEntry, readTomlKey_append hkey, hspace, hvalue, h.read, hend]

/-- A written entry is the next entry that is read. -/
theorem readTomlLines_writeTomlEntry (hkey : IsBareKey key) (h : IsWritten written value)
    (bound : Nat) (rest : List Char) :
    readTomlLines (bound + 1) (writeTomlEntry key written ++ rest) =
      (readTomlLines bound rest).map ((key, value) :: ·) := by
  have hentry := readTomlEntry_writeTomlEntry hkey h rest
  obtain ⟨c, chars, hchars⟩ := List.exists_cons_of_ne_nil hkey.ne_nil
  have hc : isBareKeyChar c := hkey.bare c (by rw [hchars]; exact List.mem_cons_self)
  have hwritten :
      writeTomlEntry key written = c :: (chars ++ [' ', '=', ' '] ++ written ++ ['\n']) := by
    simp [writeTomlEntry, hchars]
  have hne : ∀ d, isBareKeyChar d = false → c ≠ d := by
    rintro d hd rfl
    exact absurd (hd.symm.trans hc) nofun
  have hwhite : isWhite c = false := by
    simp [isWhite, hne ' ' (by decide), hne '\t' (by decide)]
  rw [hwritten, List.cons_append] at hentry ⊢
  rw [readTomlLines, dropWhile_isWhite_cons hwhite]
  split
  · contradiction
  · next hline => exact absurd (List.cons.inj hline).1 (hne '\n' (by decide))
  · next hline => exact absurd (List.cons.inj hline).1 (hne '\r' (by decide))
  · next hline => exact absurd (List.cons.inj hline).1 (hne '#' (by decide))
  · rw [hentry]
    change (readTomlLines bound rest >>= fun entries => some ((key, value) :: entries)) = _
    cases readTomlLines bound rest <;> rfl

/-- Without a byte order mark the whole file is lines. -/
theorem readToml?_eq {text : String} (h : text.toList.head? ≠ some '\ufeff') :
    readToml? text = readTomlLines (text.toList.length + 1) text.toList := by
  rw [readToml?]
  split
  · next heq => exact absurd (congrArg List.head? heq) h
  · rfl

/-! ## Bounds of integers -/

theorem le_of_signedUpTo {bound : Nat} {sign i : Int} {number : Nat × List Char} {rest : List Char}
    (hbound : sign = 1 ∧ bound ≤ maxTomlInteger ∨ sign = -1)
    (h : signedUpTo bound sign number = some (i, rest)) : i ≤ maxTomlInteger := by
  obtain ⟨n, chars⟩ := number
  rw [signedUpTo] at h
  split at h
  · next hle =>
    obtain ⟨rfl, -⟩ : sign * n = i ∧ chars = rest := by simpa using h
    rcases hbound with ⟨rfl, hbound⟩ | rfl <;> omega
  · contradiction

theorem le_of_readTomlInteger {chars rest : List Char} {i : Int}
    (h : readTomlInteger chars = some (i, rest)) : i ≤ maxTomlInteger := by
  unfold readTomlInteger at h
  split at h
  all_goals
    obtain ⟨number, -, h⟩ := Option.bind_eq_some_iff.mp h
    exact le_of_signedUpTo (by decide) h

theorem le_of_readTomlValue {chars rest : List Char} {i : Int}
    (h : readTomlValue chars = some (.integer i, rest)) : i ≤ maxTomlInteger := by
  unfold readTomlValue at h
  split at h
  · simp at h
  · simp at h
  · obtain ⟨⟨j, chars⟩, hread, hj⟩ := Option.map_eq_some_iff.mp h
    cases hj
    exact le_of_readTomlInteger hread

theorem le_of_readTomlEntry {chars rest : List Char} {key : String} {i : Int}
    (h : readTomlEntry chars = some ((key, .integer i), rest)) : i ≤ maxTomlInteger := by
  obtain ⟨⟨found, behind⟩, -, h⟩ := Option.bind_eq_some_iff.mp h
  simp only at h
  split at h
  · obtain ⟨⟨value, behind⟩, hvalue, h⟩ := Option.bind_eq_some_iff.mp h
    obtain ⟨rest', -, h⟩ := Option.bind_eq_some_iff.mp h
    cases h
    exact le_of_readTomlValue hvalue
  · contradiction

/-- No integer in a file is greater than TOML can hold. -/
theorem le_of_readTomlLines {bound : Nat} {chars : List Char} {entries : List TomlEntry}
    (h : readTomlLines bound chars = some entries) {key : String} {i : Int}
    (hmem : (key, TomlValue.integer i) ∈ entries) : i ≤ maxTomlInteger := by
  induction bound generalizing chars entries with
  | zero => exact absurd h nofun
  | succ bound ih =>
    rw [readTomlLines] at h
    split at h
    · cases h
      contradiction
    · exact ih h hmem
    · exact ih h hmem
    · obtain ⟨rest, -, h⟩ := Option.bind_eq_some_iff.mp h
      exact ih h hmem
    · obtain ⟨⟨entry, rest⟩, hentry, h⟩ := Option.bind_eq_some_iff.mp h
      obtain ⟨others, hothers, h⟩ := Option.bind_eq_some_iff.mp h
      cases h
      rcases List.mem_cons.mp hmem with rfl | hmem
      · exact le_of_readTomlEntry hentry
      · exact ih hothers hmem

end Irrigation
