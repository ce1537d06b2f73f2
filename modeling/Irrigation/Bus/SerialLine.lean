/-!
# Serial lines

A line as a value: what each read, write and flush will meet, and what has gone out so far. Events
are used up one by one; after the last one a line takes every write, flushes, and reads the end of
the stream.

* `SerialLine.writeAll`: offers bytes until the line has taken them all.
* `SerialLine.flush`: one flush.
* `SerialLine.readExactly`: asks for bytes until it has as many as it wants.
* `ReadEvent.bytes`, `SerialLine.unread`: the bytes that a line still has to deliver.

An interrupted read or write is tried again, an interrupted flush is not. A line that takes no
byte of an offer is at fault, and one that delivers no byte is at its end.
-/

namespace Irrigation

/-- The kinds of fault that are told apart. -/
inductive FaultKind
  | interrupted
  | timedOut
  | wouldBlock
  | unexpectedEof
  | other
  deriving Repr, DecidableEq

/-- A fault of a line, with the text that describes it. -/
structure Fault where
  kind : FaultKind
  text : String
  deriving Repr, DecidableEq

namespace Fault

/-- The line took no byte of an offer. -/
def nothingWritten : Fault := ⟨.other, "failed to write whole buffer"⟩

/-- The stream ended before all bytes had come. -/
def endOfStream : Fault := ⟨.unexpectedEof, "failed to fill whole buffer"⟩

/-- Whether a read that fails so means that nobody answered in time. -/
def isSilence (fault : Fault) : Bool :=
  match fault.kind with
  | .timedOut | .wouldBlock | .unexpectedEof => true
  | .interrupted | .other => false

end Fault

/-- What a read meets: bytes, of which it takes as many as it wants and leaves the others, or a
fault. No bytes at all are the end of the stream, once. -/
inductive ReadEvent
  | data (bytes : List UInt8)
  | fault (fault : Fault)
  deriving Repr, DecidableEq

/-- What a write meets: a line that takes at most `limit` bytes, or a fault. -/
inductive WriteEvent
  | accept (limit : Nat)
  | fault (fault : Fault)
  deriving Repr, DecidableEq

/-- What a flush meets. -/
inductive FlushEvent
  | done
  | fault (fault : Fault)
  deriving Repr, DecidableEq

/-- A serial line: the events to come, the bytes it has taken and the flushes it has seen. -/
structure SerialLine where
  reads : List ReadEvent := []
  writes : List WriteEvent := []
  flushes : List FlushEvent := []
  written : List UInt8 := []
  flushCount : Nat := 0
  deriving Repr, DecidableEq

/-- The bytes that an event delivers. -/
def ReadEvent.bytes : ReadEvent → List UInt8
  | .data bytes => bytes
  | .fault _ => []

namespace SerialLine

/-! ## Writing -/

/-- Offers bytes to a line that answers with the given events: the bytes it takes, the events
left, and the fault that ends the offer early. -/
def offer : List WriteEvent → List UInt8 → List UInt8 × List WriteEvent × Option Fault
  | events, [] => ([], events, none)
  | [], bytes => (bytes, [], none)
  | .accept 0 :: events, _ :: _ => ([], events, some .nothingWritten)
  | .accept (limit + 1) :: events, b :: bytes =>
    let (taken, left, fault) := offer events (bytes.drop limit)
    (b :: bytes.take limit ++ taken, left, fault)
  | .fault fault :: events, b :: bytes =>
    if fault.kind = .interrupted then offer events (b :: bytes) else ([], events, some fault)

/-- Writes all the bytes, unless the line is at fault before it has taken them. -/
def writeAll (bytes : List UInt8) (line : SerialLine) : Except Fault Unit × SerialLine :=
  let (taken, left, fault) := offer line.writes bytes
  ((match fault with | none => .ok () | some fault => .error fault),
    { line with writes := left, written := line.written ++ taken })

/-- Flushes once. -/
def flush (line : SerialLine) : Except Fault Unit × SerialLine :=
  let line := { line with flushCount := line.flushCount + 1 }
  match line.flushes with
  | [] => (.ok (), line)
  | .done :: events => (.ok (), { line with flushes := events })
  | .fault fault :: events => (.error fault, { line with flushes := events })

/-! ## Reading -/

/-- Takes bytes from a line that delivers the given events: the bytes taken, the events left, and
the fault that ends it early. -/
def collect : List ReadEvent → Nat → List UInt8 × List ReadEvent × Option Fault
  | events, 0 => ([], events, none)
  | [], _ + 1 => ([], [], some .endOfStream)
  | .data [] :: events, _ + 1 => ([], events, some .endOfStream)
  | .data (b :: bytes) :: events, wanted + 1 =>
    if wanted < bytes.length then
      (b :: bytes.take wanted, .data (bytes.drop wanted) :: events, none)
    else
      let (taken, left, fault) := collect events (wanted - bytes.length)
      (b :: bytes ++ taken, left, fault)
  | .fault fault :: events, wanted + 1 =>
    if fault.kind = .interrupted then collect events (wanted + 1) else ([], events, some fault)

/-- Reads exactly as many bytes as wanted. If the line stops before, the bytes that came are
lost. -/
def readExactly (wanted : Nat) (line : SerialLine) : Except Fault (List UInt8) × SerialLine :=
  let (taken, left, fault) := collect line.reads wanted
  ((match fault with | none => .ok taken | some fault => .error fault), { line with reads := left })

/-- The bytes that the line still has to deliver. -/
def unread (line : SerialLine) : List UInt8 := line.reads.flatMap ReadEvent.bytes

/-- Adds events behind those that reads still have to meet. -/
def feed (events : List ReadEvent) (line : SerialLine) : SerialLine :=
  { line with reads := line.reads ++ events }

end SerialLine

end Irrigation
