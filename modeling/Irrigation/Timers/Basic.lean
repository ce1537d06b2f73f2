import Irrigation.Text.Quoted

/-!
# Timer lists

A unit runs each of its eight zones for a time of its own. A time is one byte and never zero.

* `TimerList`: eight nonzero bytes in zone order.
* `TimerList.ofValues`: the check of eight bytes, which reports the first zero.
* `TimerError`: why a text or a row of bytes is no timer list.
-/

namespace Irrigation

/-- Why something is no timer list. Fields are counted from 1, positions are byte offsets. -/
inductive TimerError
  | invalidCharacter (character : Char) (position : Nat)
  | emptyField (field : Nat)
  | zeroValue (field : Nat)
  | outOfRange (field : Nat)
  | tooFewValues (count : Nat)
  | tooManyValues
  deriving Repr, DecidableEq

/-- The text of the error. -/
def TimerError.message : TimerError → String
  | .invalidCharacter c position =>
    "invalid character " ++ quoteChar c ++ " at position " ++ decimal position
  | .emptyField field => "timer field " ++ decimal field ++ " is empty"
  | .zeroValue field => "timer field " ++ decimal field ++ " is zero (valid range 1-255)"
  | .outOfRange field => "timer field " ++ decimal field ++ " exceeds 255"
  | .tooFewValues count => "expected 8 timer values, got " ++ decimal count
  | .tooManyValues => "more than 8 timer values given"

/-- The run times of zones 1 to 8. -/
structure TimerList where
  values : Vector UInt8 8
  nonzero : ∀ v ∈ values, v ≠ 0
  deriving Repr, DecidableEq

namespace TimerList

/-- A row of bytes is checked byte by byte. -/
instance decidableNonzero (values : Vector UInt8 8) : Decidable (∀ v ∈ values, v ≠ 0) :=
  Vector.instDecidableForallForallMemOfDecidablePred

/-- Eight bytes make a timer list unless one of them is zero. The first zero is reported. -/
def ofValues (values : Vector UInt8 8) : Except TimerError TimerList :=
  if nonzero : ∀ v ∈ values, v ≠ 0 then .ok ⟨values, nonzero⟩
  else .error (.zeroValue (values.toList.findIdx (· == 0) + 1))

/-- The values in zone order. -/
def toList (timers : TimerList) : List UInt8 := timers.values.toList

@[simp]
theorem length_toList (timers : TimerList) : timers.toList.length = 8 := by simp [toList]

end TimerList

end Irrigation
