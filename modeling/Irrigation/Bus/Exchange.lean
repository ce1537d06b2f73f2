import Irrigation.Operation

/-!
# Exchanges

What goes over the bus for an operation. A command to a unit is a frame of three bytes: a lead-in,
the unit and an opcode. The unit echoes it. A query is answered by the same header and its
payload; timers are written as a header and eight bytes, of which the header is echoed. A
broadcast is not answered at all.

* `Exchange`: the frame to send, how long an answer to await, and how to read the answer.
* `Exchange.zoneOn` to `Exchange.writeTimers`: the eight exchanges.
* `Operation.frame`: the bytes that an operation sends.
-/

namespace Irrigation

/-- One exchange on the bus: whom it asks, what it sends, how many bytes it awaits, and what it
makes of them. An answer that is not the expected one gives a text that says why. -/
structure Exchange (α : Type) where
  target : String
  frame : List UInt8
  replyLength : Nat
  decode : List UInt8 → Except String α

/-- Two upper-case hexadecimal digits. -/
def hexByte (b : UInt8) : String :=
  String.ofList ((fixedNumeral 16 2 b.toNat).map Char.toUpper)

/-- Bytes in hexadecimal, in brackets. -/
def hexBytes (bytes : List UInt8) : String :=
  "[" ++ ", ".intercalate (bytes.map hexByte) ++ "]"

/-- Accepts the expected bytes only. -/
def expectBytes (expected got : List UInt8) : Except String Unit :=
  if expected = got then .ok ()
  else .error ("expected " ++ hexBytes expected ++ ", got " ++ hexBytes got)

namespace Exchange

/-- The first byte of every frame to a unit. -/
def leadIn : UInt8 := 0x40

/-- The frame of three bytes for an opcode of a unit. -/
def header (unit : UnitId) (opcode : UInt8) : List UInt8 := [leadIn, unit.byte, opcode]

/-- How a unit is named in a diagnostic. -/
def unitName (unit : UnitId) : String := "unit " ++ unit.render

/-- Sends a frame and awaits the same three bytes. -/
def echoed (unit : UnitId) (opcode : UInt8) : Exchange Unit where
  target := unitName unit
  frame := header unit opcode
  replyLength := 3
  decode := expectBytes (header unit opcode)

/-- Opens a zone. -/
def zoneOn (unit : UnitId) (zone : Zone) : Exchange Unit := echoed unit (0x30 + zone.byte)

/-- Closes a zone. -/
def zoneOff (unit : UnitId) (zone : Zone) : Exchange Unit := echoed unit (0x40 + zone.byte)

/-- Closes all zones of a unit. -/
def allOff (unit : UnitId) : Exchange Unit := echoed unit 0x55

/-- Asks a unit which of its zones are on. The third byte of the answer is the mask. -/
def readStatus (unit : UnitId) : Exchange ZoneMask where
  target := unitName unit
  frame := header unit 0xF0
  replyLength := 3
  decode reply := do
    expectBytes ((header unit 0xF0).take 2) (reply.take 2)
    return ⟨reply.getD 2 0⟩

/-- Closes all zones on the bus. Nobody answers. -/
def globalAllOff : Exchange Unit where
  target := "bus"
  frame := [0x20, 0x55, 0x55]
  replyLength := 0
  decode _ := .ok ()

/-- Asks whether anybody is on the bus. -/
def comCheck : Exchange Unit where
  target := "bus"
  frame := [0x70, 0x02, 0x70]
  replyLength := 3
  decode := expectBytes [0x70, 0x02, 0x70]

/-- The last eight bytes of an answer as a timer list. -/
def timersOf (payload : List UInt8) : Except String TimerList :=
  (TimerList.ofValues (Vector.ofFn fun i => payload.getD i 0)).mapError TimerError.message

/-- Asks a unit for its timers. -/
def readTimers (unit : UnitId) : Exchange TimerList where
  target := unitName unit
  frame := header unit 0xF1
  replyLength := 11
  decode reply := do
    expectBytes (header unit 0xF1) (reply.take 3)
    timersOf (reply.drop 3)

/-- Writes the timers of a unit. -/
def writeTimers (unit : UnitId) (timers : TimerList) : Exchange Unit where
  target := unitName unit
  frame := header unit 0xF2 ++ timers.toList
  replyLength := 3
  decode := expectBytes (header unit 0xF2)

end Exchange

/-- The bytes that an operation sends. -/
def Operation.frame : Operation → List UInt8
  | on unit zone => (Exchange.zoneOn unit zone).frame
  | off unit zone => (Exchange.zoneOff unit zone).frame
  | allOff unit => (Exchange.allOff unit).frame
  | status unit _ => (Exchange.readStatus unit).frame
  | globalAllOff => Exchange.globalAllOff.frame
  | comCheck => Exchange.comCheck.frame
  | getTimers unit => (Exchange.readTimers unit).frame
  | setTimers unit timers => (Exchange.writeTimers unit timers).frame

end Irrigation
