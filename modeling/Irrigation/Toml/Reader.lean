import Irrigation.Text.Number
import Irrigation.Toml.Value

/-!
# Reading TOML

A reader for entries of texts and integers, one on a line, with blank lines and comments between
them. Each part of it takes the characters to read and returns a value with the characters left,
or `none`.

* `readTomlText`: a text in one of its four forms.
* `readTomlInteger`: a signed integer of 64 bits, in decimal, or without a sign in hexadecimal,
  octal or binary.
* `readTomlEntry`: a key, which may be quoted, an equals sign and a value.
* `readToml?`: the entries of a whole file. A byte order mark may come first.
-/

namespace Irrigation

/-! ## Ends of lines -/

/-- Reads the end of a line or of the file. -/
def readLineBreak : List Char → Option (List Char)
  | [] => some []
  | '\n' :: rest => some rest
  | '\r' :: '\n' :: rest => some rest
  | _ => none

/-- Reads what may follow an entry on its line: blanks and a comment. -/
def readLineEnd (chars : List Char) : Option (List Char) :=
  match chars.dropWhile isWhite with
  | '#' :: comment => readLineBreak (comment.dropWhile isTextChar)
  | rest => readLineBreak rest

/-- Skips a line break, if there is one. -/
def skipLineBreak : List Char → List Char
  | '\n' :: rest => rest
  | '\r' :: '\n' :: rest => rest
  | chars => chars

/-- Skips blanks and line breaks. -/
def skipBlankLines : List Char → List Char
  | [] => []
  | c :: rest =>
    match c, rest with
    | '\r', '\n' :: rest => skipBlankLines rest
    | '\r', rest => '\r' :: rest
    | c, rest => if isWhite c || c = '\n' then skipBlankLines rest else c :: rest

/-! ## Texts -/

/-- The value of a hexadecimal digit. -/
def hexDigit? (c : Char) : Option Nat :=
  let n := c.toNat
  if 48 ≤ n ∧ n ≤ 57 then some (n - 48)
  else if 97 ≤ n ∧ n ≤ 102 then some (n - 87)
  else if 65 ≤ n ∧ n ≤ 70 then some (n - 55)
  else none

/-- The value of hexadecimal digits, all of them. -/
def hexValue? (chars : List Char) : Option Nat :=
  chars.foldl (fun value c => do return (← value) * 16 + (← hexDigit? c)) (some 0)

/-- The character of a code point, unless it is a surrogate or too large. -/
def charOfCodePoint? (n : Nat) : Option Char :=
  if h : n.isValidChar then some (Char.ofNatAux n h) else none

/-- Reads a code point of exactly `width` hexadecimal digits. -/
def readCodePoint (width : Nat) (chars : List Char) : Option (Char × List Char) :=
  if chars.length < width then none
  else do
    let n ← hexValue? (chars.take width)
    let c ← charOfCodePoint? n
    return (c, chars.drop width)

/-- Reads an escape, after its backslash. -/
def readEscape : List Char → Option (Char × List Char)
  | 'b' :: rest => some ('\x08', rest)
  | 't' :: rest => some ('\t', rest)
  | 'n' :: rest => some ('\n', rest)
  | 'f' :: rest => some ('\x0c', rest)
  | 'r' :: rest => some ('\r', rest)
  | '\"' :: rest => some ('\"', rest)
  | '\\' :: rest => some ('\\', rest)
  | 'u' :: rest => readCodePoint 4 rest
  | 'U' :: rest => readCodePoint 8 rest
  | _ => none

theorem length_of_readCodePoint {width : Nat} {chars rest : List Char} {c : Char}
    (h : readCodePoint width chars = some (c, rest)) : rest.length ≤ chars.length := by
  unfold readCodePoint at h
  split at h
  · simp at h
  · simp only [Option.bind_eq_bind, Option.bind_eq_some_iff, Option.pure_def, Option.some.injEq,
      Prod.mk.injEq] at h
    obtain ⟨_, _, _, _, _, rfl⟩ := h
    simp

/-- An escape uses up at least one character. -/
theorem length_of_readEscape {chars rest : List Char} {c : Char}
    (h : readEscape chars = some (c, rest)) : rest.length < chars.length := by
  unfold readEscape at h
  split at h
  case h_8 | h_9 =>
    have := length_of_readCodePoint h
    simp only [List.length_cons]
    omega
  all_goals simp at h
  all_goals
    obtain ⟨_, rfl⟩ := h
    simp

theorem length_skipBlankLines_le (chars : List Char) :
    (skipBlankLines chars).length ≤ chars.length := by
  fun_induction skipBlankLines chars <;> simp_all <;> omega

/-- Puts a character before a text that has been read. -/
def consText (c : Char) : List Char × List Char → List Char × List Char
  | (text, rest) => (c :: text, rest)

/-- Reads a basic text up to its closing quote. -/
def readBasic : List Char → Option (List Char × List Char)
  | [] => none
  | '\"' :: rest => some ([], rest)
  | '\\' :: rest =>
    match _h : readEscape rest with
    | none => none
    | some (c, rest) => (readBasic rest).map (consText c)
  | c :: rest => if isTextChar c then (readBasic rest).map (consText c) else none
termination_by chars => chars.length
decreasing_by
  · have := length_of_readEscape _h
    simp only [List.length_cons]
    omega
  · simp

/-- Reads a literal text up to its closing apostrophe. -/
def readLiteral : List Char → Option (List Char × List Char)
  | [] => none
  | c :: rest =>
    if c = '\'' then some ([], rest)
    else if isTextChar c then (readLiteral rest).map (consText c)
    else none

/-- Reads a basic text over lines up to its closing quotes, of which two more may stand before
them. A backslash at the end of a line joins it with the next text. -/
def readBasicLines : List Char → Option (List Char × List Char)
  | [] => none
  | '\"' :: '\"' :: '\"' :: '\"' :: '\"' :: rest => some (['\"', '\"'], rest)
  | '\"' :: '\"' :: '\"' :: '\"' :: rest => some (['\"'], rest)
  | '\"' :: '\"' :: '\"' :: rest => some ([], rest)
  | '\"' :: rest => (readBasicLines rest).map (consText '\"')
  | '\\' :: rest =>
    match _h : rest.dropWhile isWhite with
    | '\n' :: next => readBasicLines (skipBlankLines next)
    | '\r' :: '\n' :: next => readBasicLines (skipBlankLines next)
    | _ =>
      match _h' : readEscape rest with
      | none => none
      | some (c, rest) => (readBasicLines rest).map (consText c)
  | '\n' :: rest => (readBasicLines rest).map (consText '\n')
  | '\r' :: '\n' :: rest => (readBasicLines rest).map (consText '\n')
  | c :: rest => if isTextChar c then (readBasicLines rest).map (consText c) else none
termination_by chars => chars.length
decreasing_by
  all_goals simp only [List.length_cons]
  all_goals try omega
  · have := (rest.dropWhile_suffix isWhite).length_le
    have := length_skipBlankLines_le next
    simp only [_h, List.length_cons] at *
    omega
  · have := (rest.dropWhile_suffix isWhite).length_le
    have := length_skipBlankLines_le next
    simp only [_h, List.length_cons] at *
    omega
  · have := length_of_readEscape _h'
    omega

/-- Reads a literal text over lines up to its closing apostrophes, of which two more may stand
before them. -/
def readLiteralLines : List Char → Option (List Char × List Char)
  | [] => none
  | '\'' :: '\'' :: '\'' :: '\'' :: '\'' :: rest => some (['\'', '\''], rest)
  | '\'' :: '\'' :: '\'' :: '\'' :: rest => some (['\''], rest)
  | '\'' :: '\'' :: '\'' :: rest => some ([], rest)
  | '\n' :: rest => (readLiteralLines rest).map (consText '\n')
  | '\r' :: '\n' :: rest => (readLiteralLines rest).map (consText '\n')
  | c :: rest => if isTextChar c then (readLiteralLines rest).map (consText c) else none

/-- Reads a text in any form. -/
def readTomlText : List Char → Option (List Char × List Char)
  | '\"' :: '\"' :: '\"' :: rest => readBasicLines (skipLineBreak rest)
  | '\"' :: rest => readBasic rest
  | '\'' :: '\'' :: '\'' :: rest => readLiteralLines (skipLineBreak rest)
  | '\'' :: rest => readLiteral rest
  | _ => none

/-! ## Integers -/

/-- The value of a digit in a base up to 16. -/
def digitIn? (base : Nat) (c : Char) : Option Nat := (hexDigit? c).filter (· < base)

/-- Reads on in a number with the value `value` so far. A single underscore may stand between two
digits. -/
def readMoreDigits (base : Nat) : (value : Nat) → List Char → Option (Nat × List Char)
  | value, [] => some (value, [])
  | value, c :: rest =>
    match c, rest with
    | '_', d :: rest =>
      match digitIn? base d with
      | some d => readMoreDigits base (value * base + d) rest
      | none => none
    | '_', [] => none
    | c, rest =>
      match digitIn? base c with
      | some d => readMoreDigits base (value * base + d) rest
      | none => some (value, c :: rest)

/-- Reads a number of one digit or more. -/
def readDigits (base : Nat) : List Char → Option (Nat × List Char)
  | [] => none
  | c :: rest => do readMoreDigits base (← digitIn? base c) rest

/-- Reads a decimal number. It has no leading zero unless it is a single zero. -/
def readDecimal : List Char → Option (Nat × List Char)
  | '0' :: rest => some (0, rest)
  | chars => readDigits 10 chars

/-- Accepts a number up to a bound, with a sign. -/
def signedUpTo (bound : Nat) (sign : Int) : Nat × List Char → Option (Int × List Char)
  | (n, rest) => if n ≤ bound then some (sign * n, rest) else none

/-- Reads an integer. -/
def readTomlInteger : List Char → Option (Int × List Char)
  | '0' :: 'x' :: rest => readDigits 16 rest >>= signedUpTo maxTomlInteger 1
  | '0' :: 'o' :: rest => readDigits 8 rest >>= signedUpTo maxTomlInteger 1
  | '0' :: 'b' :: rest => readDigits 2 rest >>= signedUpTo maxTomlInteger 1
  | '-' :: rest => readDecimal rest >>= signedUpTo (maxTomlInteger + 1) (-1)
  | '+' :: rest => readDecimal rest >>= signedUpTo maxTomlInteger 1
  | chars => readDecimal chars >>= signedUpTo maxTomlInteger 1

/-! ## Entries -/

/-- The characters of a key without quotes. -/
def isBareKeyChar (c : Char) : Bool := c.isAlphanum || c = '-' || c = '_'

/-- Reads a key: bare characters, or a basic or literal text on one line. -/
def readTomlKey : List Char → Option (List Char × List Char)
  | '\"' :: rest => readBasic rest
  | '\'' :: rest => readLiteral rest
  | chars =>
    match chars.takeWhile isBareKeyChar with
    | [] => none
    | key => some (key, chars.dropWhile isBareKeyChar)

/-- Reads a value. -/
def readTomlValue (chars : List Char) : Option (TomlValue × List Char) :=
  match chars with
  | '\"' :: _ | '\'' :: _ =>
    (readTomlText chars).map fun (text, rest) => (.text (String.ofList text), rest)
  | _ => (readTomlInteger chars).map fun (i, rest) => (.integer i, rest)

/-- Reads an entry and the end of its line. -/
def readTomlEntry (chars : List Char) : Option (TomlEntry × List Char) := do
  let (key, rest) ← readTomlKey chars
  match rest.dropWhile isWhite with
  | '=' :: rest =>
    let (value, rest) ← readTomlValue (rest.dropWhile isWhite)
    let rest ← readLineEnd rest
    return ((String.ofList key, value), rest)
  | _ => none

/-- Reads entries, comments and blank lines to the end. Each line uses up characters, so the
number of characters bounds the number of lines. -/
def readTomlLines : (bound : Nat) → List Char → Option (List TomlEntry)
  | 0, _ => none
  | bound + 1, chars =>
    match chars.dropWhile isWhite with
    | [] => some []
    | '\n' :: rest => readTomlLines bound rest
    | '\r' :: '\n' :: rest => readTomlLines bound rest
    | '#' :: comment => readLineBreak (comment.dropWhile isTextChar) >>= readTomlLines bound
    | rest => do
      let (entry, rest) ← readTomlEntry rest
      return entry :: (← readTomlLines bound rest)

/-- The entries of a file, in order. -/
def readToml? (text : String) : Option (List TomlEntry) :=
  let chars := match text.toList with
    | '\ufeff' :: rest => rest
    | chars => chars
  readTomlLines (chars.length + 1) chars

end Irrigation
