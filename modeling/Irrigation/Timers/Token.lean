import Irrigation.Timers.Basic

/-!
# Timer tokens

The text of a timer list: eight decimal fields with commas between them.

* `TimerList.render`: the canonical token.
* `TimerList.parse`: reads a token in one pass from left to right. A field may have leading zeros,
  and one comma may follow the last field.
* `TokenScan`: what the pass has seen so far.
-/

namespace Irrigation

/-- What has been read of a token: the closed fields in the first `count` slots, and the value of
the open field if it has a digit. -/
structure TokenScan where
  slots : Vector UInt8 8
  count : Nat
  openField : Option UInt16
  deriving Repr, DecidableEq

namespace TokenScan

/-- Nothing has been read. -/
def start : TokenScan := ⟨Vector.replicate 8 0, 0, none⟩

/-- The number of the field being read. -/
def field (scan : TokenScan) : Nat := scan.count + 1

/-- Puts the value of the open field into the next slot. -/
def close (scan : TokenScan) (value : UInt16) : Except TimerError TokenScan :=
  if value = 0 then .error (.zeroValue scan.field)
  else if free : scan.count < 8 then
    .ok ⟨scan.slots.set scan.count value.toUInt8 free, scan.count + 1, none⟩
  else .error .tooManyValues

/-- Reads the character at a byte position. -/
def step (scan : TokenScan) (position : Nat) (c : Char) : Except TimerError TokenScan :=
  match digit? c with
  | some d =>
    let value := scan.openField.getD 0 * 10 + UInt16.ofNat d
    if value > 255 then .error (.outOfRange scan.field)
    else .ok { scan with openField := some value }
  | none =>
    if c = ',' then
      match scan.openField with
      | none => .error (.emptyField scan.field)
      | some value => scan.close value
    else .error (.invalidCharacter c position)

/-- Reads characters from a byte position on. -/
def run (scan : TokenScan) (position : Nat) : List Char → Except TimerError TokenScan
  | [] => .ok scan
  | c :: rest =>
    match scan.step position c with
    | .error e => .error e
    | .ok next => next.run (position + c.utf8Size) rest

/-- At the end of the token a field that is still open counts. -/
def closeLast (scan : TokenScan) : Except TimerError TokenScan :=
  match scan.openField with
  | none => .ok scan
  | some value => scan.close value

/-- The token is a timer list if all eight slots are filled. -/
def finish (scan : TokenScan) : Except TimerError TimerList :=
  if scan.count = 8 then TimerList.ofValues scan.slots
  else .error (.tooFewValues scan.count)

end TokenScan

namespace TimerList

/-- Reads a timer token. -/
def parse (token : String) : Except TimerError TimerList :=
  (TokenScan.start.run 0 token.toList).bind fun scan => scan.closeLast.bind TokenScan.finish

/-- The canonical token: no leading zeros, commas only between the fields. -/
def render (timers : TimerList) : String :=
  ",".intercalate (timers.toList.map fun v => decimal v.toNat)

end TimerList

end Irrigation
