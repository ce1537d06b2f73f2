import Irrigation.Text.Hidden
import Irrigation.Text.Number

/-!
# Quoted text

A value in a diagnostic stands in quotes. The mark itself and the backslash get a backslash, four
controls have letters of their own, and a character that has no shape of its own
(`isHidden`) is written by its code point in lower-case hexadecimal.

* `quoteChar`: a character in single quotes.
* `quoteText`: a text in double quotes.
-/

namespace Irrigation

/-- One character between two marks `mark`. -/
def escapeFor (mark c : Char) : List Char :=
  if c = mark ∨ c = '\\' then ['\\', c]
  else if c = '\n' then ['\\', 'n']
  else if c = '\r' then ['\\', 'r']
  else if c = '\t' then ['\\', 't']
  else if c.toNat = 0 then ['\\', '0']
  else if isHidden c then ['\\', 'u', '\x7b'] ++ Nat.toDigits 16 c.toNat ++ ['\x7d']
  else [c]

/-- A character in single quotes. -/
def quoteChar (c : Char) : String := String.ofList ('\'' :: escapeFor '\'' c ++ ['\''])

/-- A text in double quotes. -/
def quoteText (text : String) : String :=
  String.ofList ('\"' :: text.toList.flatMap (escapeFor '\"') ++ ['\"'])

end Irrigation
