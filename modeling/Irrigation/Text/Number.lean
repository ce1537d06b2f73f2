/-!
# Numbers in text

Writing:

* `decimal`: the decimal text of a number. Digits in other bases are those of `Nat.toDigits`.
* `fixedNumeral base width n`: exactly `width` digits, the low ones of `n`.

Reading:

* `digit?`: the value of an ASCII digit. Digits of other scripts are no digits here.
* `readInt64`, `readNat64`: a whole text as a number that fits 64 bits. The characters are read
  from left to right, so the first one that is no digit, or that carries the value out of range,
  decides the error.
-/

namespace Irrigation

/-! ## Writing -/

/-- The decimal text of a number. -/
abbrev decimal (n : Nat) : String := n.repr

/-- The last `width` digits of a number in a base from 2 to 16, with zeros in front if it has
fewer. -/
def fixedNumeral (base : Nat) : (width n : Nat) → List Char
  | 0, _ => []
  | width + 1, n => fixedNumeral base width (n / base) ++ [Nat.digitChar (n % base)]

/-! ## Reading -/

/-- The value of an ASCII digit. -/
def digit? (c : Char) : Option Nat := if c.isDigit then some (c.toNat - 48) else none

/-- Why a text is no 64-bit integer. -/
inductive NumberError
  | empty
  | invalidDigit
  | tooLarge
  | tooSmall
  deriving Repr, DecidableEq

/-- The text of the error. -/
def NumberError.message : NumberError → String
  | .empty => "cannot parse integer from empty string"
  | .invalidDigit => "invalid digit found in string"
  | .tooLarge => "number too large to fit in target type"
  | .tooSmall => "number too small to fit in target type"

/-- Appends digits to a value that may not exceed `limit`. -/
def appendDigits (limit : Nat) (overflow : NumberError) : Nat → List Char → Except NumberError Nat
  | value, [] => .ok value
  | value, c :: rest =>
    match digit? c with
    | none => .error .invalidDigit
    | some d =>
      if 10 * value + d ≤ limit then appendDigits limit overflow (10 * value + d) rest
      else .error overflow

/-- Reads one digit or more. A sign that nothing follows counts as an invalid digit. -/
def readMagnitude (limit : Nat) (overflow : NumberError) : List Char → Except NumberError Nat
  | [] => .error .invalidDigit
  | chars => appendDigits limit overflow 0 chars

/-- Reads a signed 64-bit integer: an optional sign, then digits. -/
def readInt64 (text : String) : Except NumberError Int :=
  match text.toList with
  | [] => .error .empty
  | '-' :: rest => (readMagnitude 0x8000000000000000 .tooSmall rest).map fun n => -(n : Int)
  | '+' :: rest => (readMagnitude 0x7FFFFFFFFFFFFFFF .tooLarge rest).map Int.ofNat
  | chars => (readMagnitude 0x7FFFFFFFFFFFFFFF .tooLarge chars).map Int.ofNat

/-- Reads an unsigned 64-bit integer: an optional plus sign, then digits. -/
def readNat64 (text : String) : Except NumberError Nat :=
  match text.toList with
  | [] => .error .empty
  | '+' :: rest => readMagnitude 0xFFFFFFFFFFFFFFFF .tooLarge rest
  | chars => readMagnitude 0xFFFFFFFFFFFFFFFF .tooLarge chars

end Irrigation
