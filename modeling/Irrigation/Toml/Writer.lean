import Irrigation.Text.Number
import Irrigation.Toml.Value

/-!
# Writing TOML

A text has four written forms: basic (in quotes, with escapes), literal (in apostrophes, without
escapes), and both of them in triple marks over several lines. The writer takes the first form in
which the text needs no escape, in the order basic, literal, basic over lines, literal over lines.
If every form fails it escapes, over lines if the text has a line feed.

* `TextProfile`: what decides between the forms.
* `TextForm.ofProfile`: the choice.
* `writeTomlText`: the written text.
* `writeTomlEntry`: an entry as a line.
-/

namespace Irrigation

/-- What a text holds that some written form cannot show as it is. -/
structure TextProfile where
  /-- The longest run of apostrophes. -/
  apostrophes : Nat
  /-- The longest run of quotes. -/
  quotes : Nat
  /-- A control character other than tab and line feed. -/
  control : Bool
  backslash : Bool
  lineFeed : Bool
  deriving Repr, DecidableEq

/-- The longest run of a mark in a text, where `current` marks have just been passed and `best` is
the longest run so far. -/
def longestRun (mark : Char) : (current best : Nat) → List Char → Nat
  | _, best, [] => best
  | current, best, c :: rest =>
    if c = mark then longestRun mark (current + 1) (max best (current + 1)) rest
    else longestRun mark 0 best rest

/-- Whether a character shows only by an escape in every form. -/
def needsEscape (c : Char) : Bool := !isTextChar c && c ≠ '\n'

/-- The profile of a text. -/
def TextProfile.of (chars : List Char) : TextProfile where
  apostrophes := longestRun '\'' 0 0 chars
  quotes := longestRun '\"' 0 0 chars
  control := chars.any needsEscape
  backslash := chars.contains '\\'
  lineFeed := chars.contains '\n'

/-- How a text is written. -/
inductive TextForm
  | basic
  | literal
  | basicLines
  | literalLines
  deriving Repr, DecidableEq

/-- The form in which a text with this profile is written. -/
def TextForm.ofProfile (t : TextProfile) : TextForm :=
  if !t.control && !t.backslash && t.quotes = 0 && !t.lineFeed then basic
  else if !t.control && t.apostrophes = 0 && !t.lineFeed then literal
  else if !t.control && !t.backslash && t.quotes ≤ 2 then basicLines
  else if !t.control && t.apostrophes ≤ 2 then literalLines
  else if t.lineFeed then basicLines
  else basic

/-- A character of a basic text other than the quote. Line feeds stand as they are over lines. -/
def escapeTomlChar (overLines : Bool) (c : Char) : List Char :=
  if c = '\n' then if overLines then ['\n'] else ['\\', 'n']
  else if c = '\t' then ['\\', 't']
  else if c = '\r' then ['\\', 'r']
  else if c = '\\' then ['\\', '\\']
  else if c.toNat = 8 then ['\\', 'b']
  else if c.toNat = 12 then ['\\', 'f']
  else if needsEscape c then '\\' :: 'u' :: (fixedNumeral 16 4 c.toNat).map Char.toUpper
  else [c]

/-- The characters of a basic text, where `run` quotes have just been written as they are. Over
lines two quotes in a row need no escape. -/
def escapeTomlText (overLines : Bool) : (run : Nat) → List Char → List Char
  | _, [] => []
  | run, c :: rest =>
    if c = '\"' then
      if overLines && run < 2 then c :: escapeTomlText overLines (run + 1) rest
      else '\\' :: c :: escapeTomlText overLines 0 rest
    else escapeTomlChar overLines c ++ escapeTomlText overLines 0 rest

/-- A text between its marks. Over lines, a text with a line feed starts on a line of its own. -/
def writeTomlText (text : String) : List Char :=
  let chars := text.toList
  let profile := TextProfile.of chars
  let opening := if profile.lineFeed then ['\n'] else []
  match TextForm.ofProfile profile with
  | .basic => ['\"'] ++ escapeTomlText false 0 chars ++ ['\"']
  | .literal => ['\''] ++ chars ++ ['\'']
  | .basicLines =>
    ['\"', '\"', '\"'] ++ opening ++ escapeTomlText true 0 chars ++ ['\"', '\"', '\"']
  | .literalLines => ['\'', '\'', '\''] ++ opening ++ chars ++ ['\'', '\'', '\'']

/-- A line for a key, which holds bare characters only, and a written value. -/
def writeTomlEntry (key : String) (value : List Char) : List Char :=
  key.toList ++ [' ', '=', ' '] ++ value ++ ['\n']

end Irrigation
