import Irrigation.Text.Number

/-!
# Durations

* `durationText`: a number of milliseconds as text. From one second on it is in seconds, with as
  many decimal places as it needs.
-/

namespace Irrigation

/-- Digits without the zeros at their end. -/
def dropTrailingZeros (digits : List Char) : List Char :=
  (digits.reverse.dropWhile (· = '0')).reverse

/-- The text of a number of milliseconds. -/
def durationText (ms : Nat) : String :=
  if ms < 1000 then decimal ms ++ "ms"
  else
    match dropTrailingZeros (fixedNumeral 10 3 (ms % 1000)) with
    | [] => decimal (ms / 1000) ++ "s"
    | places => decimal (ms / 1000) ++ "." ++ String.ofList places ++ "s"

end Irrigation
