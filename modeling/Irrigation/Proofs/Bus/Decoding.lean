import Irrigation.Proofs.Bus.Call
import Irrigation.Proofs.Validation

/-!
# Reading frames back

The bytes on the bus tell the operations that sent them, except for the zone of a status query,
which is not sent.

* `Operation.onWire`: an operation without what is not sent. `frame_onWire`: it sends the same.
* `Operation.read?`: the operation of the first frame in a row of bytes, and the bytes behind it.
* `read?_frame_append`: reading undoes sending, whatever follows.
* `map_onWire_eq_of_flatMap_frame_eq`: so a stream of frames tells its operations.
* `frames_uniquely_decodable`: equal streams come from equal operations, and no frame begins
  another.
-/

namespace Irrigation

namespace Operation

/-! ## Reading -/

/-- The operation without what is not sent: the zone of a status query. -/
def onWire : Operation → Operation
  | status unit _ => status unit none
  | operation => operation

theorem frame_onWire (operation : Operation) : operation.onWire.frame = operation.frame := by
  cases operation <;> rfl

/-- The operation that an opcode asks of a unit, where the bytes behind it may hold timers, and the
bytes that are left. -/
def readOpcode? (unit : UnitId) (opcode : UInt8) (rest : List UInt8) :
    Option (Operation × List UInt8) :=
  if opcode = 0x55 then some (allOff unit, rest)
  else if opcode = 0xF0 then some (status unit none, rest)
  else if opcode = 0xF1 then some (getTimers unit, rest)
  else if opcode = 0xF2 then
    (Exchange.timersOf (rest.take 8)).toOption.map fun timers =>
      (setTimers unit timers, rest.drop 8)
  else if opcode.toNat ≤ 0x40 then
    (Zone.ofInt? (opcode.toNat - 0x30)).map fun zone => (on unit zone, rest)
  else (Zone.ofInt? (opcode.toNat - 0x40)).map fun zone => (off unit zone, rest)

/-- The operation of the first frame in a row of bytes, and the bytes behind it. -/
def read? : List UInt8 → Option (Operation × List UInt8)
  | lead :: address :: opcode :: rest =>
    if [lead, address, opcode] = globalAllOff.frame then some (globalAllOff, rest)
    else if [lead, address, opcode] = comCheck.frame then some (comCheck, rest)
    else if lead = Exchange.leadIn then
      (UnitId.ofInt? address.toNat).bind fun unit => readOpcode? unit opcode rest
    else none
  | _ => none

theorem read?_header_append (unit : UnitId) (opcode : UInt8) (rest : List UInt8) :
    read? (Exchange.header unit opcode ++ rest) = readOpcode? unit opcode rest := by
  have hlead : Exchange.leadIn ≠ 0x20 ∧ Exchange.leadIn ≠ 0x70 := by decide
  have hunit : UnitId.ofInt? unit.byte.toNat = some unit := unit.ofInt?_number
  simp [read?, Exchange.header, frame, Exchange.globalAllOff, Exchange.comCheck, hlead, hunit]

/-- All opcodes with a meaning of their own lie above those of zones. -/
theorem readOpcode?_of_lt (unit : UnitId) {opcode : UInt8} (rest : List UInt8)
    (h : opcode.toNat < 0x55) :
    readOpcode? unit opcode rest =
      if opcode.toNat ≤ 0x40 then
        (Zone.ofInt? (opcode.toNat - 0x30)).map fun zone => (on unit zone, rest)
      else (Zone.ofInt? (opcode.toNat - 0x40)).map fun zone => (off unit zone, rest) := by
  have hne : ∀ other : UInt8, 0x55 ≤ other.toNat → opcode ≠ other := by
    rintro other hle rfl
    omega
  rw [readOpcode?, if_neg (hne 0x55 (by decide)), if_neg (hne 0xF0 (by decide)),
    if_neg (hne 0xF1 (by decide)), if_neg (hne 0xF2 (by decide))]

theorem readOpcode?_zoneOn (unit : UnitId) (zone : Zone) (rest : List UInt8) :
    readOpcode? unit (0x30 + zone.byte) rest = some (on unit zone, rest) := by
  have hhigh := zone.le_max
  have hopcode : (0x30 + zone.byte).toNat = 0x30 + zone.byte.toNat :=
    zone.toNat_add_byte (by decide)
  have hnumber : ((0x30 + zone.byte.toNat : Nat) : Int) - 0x30 = zone.number := by
    unfold Zone.number
    omega
  rw [readOpcode?_of_lt unit rest (by omega), hopcode, if_pos (by omega), hnumber,
    zone.ofInt?_number, Option.map_some]

theorem readOpcode?_zoneOff (unit : UnitId) (zone : Zone) (rest : List UInt8) :
    readOpcode? unit (0x40 + zone.byte) rest = some (off unit zone, rest) := by
  have hlow := zone.one_le
  have hhigh := zone.le_max
  have hopcode : (0x40 + zone.byte).toNat = 0x40 + zone.byte.toNat :=
    zone.toNat_add_byte (by decide)
  have hnumber : ((0x40 + zone.byte.toNat : Nat) : Int) - 0x40 = zone.number := by
    unfold Zone.number
    omega
  rw [readOpcode?_of_lt unit rest (by omega), hopcode, if_neg (by omega), hnumber,
    zone.ofInt?_number, Option.map_some]

theorem readOpcode?_setTimers (unit : UnitId) (timers : TimerList) (rest : List UInt8) :
    readOpcode? unit 0xF2 (timers.toList ++ rest) = some (setTimers unit timers, rest) := by
  have htake : (timers.toList ++ rest).take 8 = timers.toList :=
    List.take_left' timers.length_toList
  have hdrop : (timers.toList ++ rest).drop 8 = rest := List.drop_left' timers.length_toList
  have htimers : Exchange.timersOf timers.toList = .ok timers :=
    (Exchange.timersOf_eq_ok_iff timers.length_toList).mpr rfl
  simp only [readOpcode?, htake, hdrop, htimers]
  rfl

/-- Reading undoes sending: behind the frame of an operation the reader finds what follows. -/
theorem read?_frame_append (operation : Operation) (rest : List UInt8) :
    read? (operation.frame ++ rest) = some (operation.onWire, rest) := by
  cases operation with
  | on unit zone =>
    exact (read?_header_append unit _ rest).trans (readOpcode?_zoneOn unit zone rest)
  | off unit zone =>
    exact (read?_header_append unit _ rest).trans (readOpcode?_zoneOff unit zone rest)
  | setTimers unit timers =>
    have hframe : (setTimers unit timers).frame ++ rest =
        Exchange.header unit 0xF2 ++ (timers.toList ++ rest) := List.append_assoc _ _ _
    rw [hframe, read?_header_append]
    exact readOpcode?_setTimers unit timers rest
  | allOff unit | status unit zone | getTimers unit => exact read?_header_append unit _ rest
  | globalAllOff => rfl
  | comCheck => rfl

/-! ## Streams -/

theorem read?_nil : read? [] = none := rfl

/-- The first frame of a stream is read off, and so on to its end. -/
theorem map_onWire_eq_of_flatMap_frame_eq {operations others : List Operation}
    (h : operations.flatMap frame = others.flatMap frame) :
    operations.map onWire = others.map onWire := by
  induction operations generalizing others with
  | nil =>
    cases others with
    | nil => rfl
    | cons other others =>
      have hread := congrArg read? h
      rw [List.flatMap_nil, read?_nil, List.flatMap_cons, read?_frame_append] at hread
      contradiction
  | cons operation operations ih =>
    cases others with
    | nil =>
      have hread := congrArg read? h
      rw [List.flatMap_nil, read?_nil, List.flatMap_cons, read?_frame_append] at hread
      contradiction
    | cons other others =>
      have hread := congrArg read? h
      rw [List.flatMap_cons, List.flatMap_cons, read?_frame_append, read?_frame_append] at hread
      obtain ⟨hfirst, hrest⟩ := Prod.mk.inj (Option.some.inj hread)
      rw [List.map_cons, List.map_cons, hfirst, ih hrest]

theorem flatMap_frame_map_onWire (operations : List Operation) :
    (operations.map onWire).flatMap frame = operations.flatMap frame := by
  simp only [List.flatMap_map, frame_onWire]

/-- A frame that begins another is the whole of it. -/
theorem onWire_eq_of_frame_prefix {operation other : Operation}
    (h : operation.frame <+: other.frame) : operation.onWire = other.onWire := by
  obtain ⟨rest, hrest⟩ := h
  have hread := congrArg read? hrest
  rw [← List.append_nil other.frame, read?_frame_append, read?_frame_append] at hread
  exact (Prod.mk.inj (Option.some.inj hread)).1

theorem written_execute {operation : Operation} {line : SerialLine}
    (htakes : SerialLine.Takes line.writes operation.frame.length) (hflushes : line.Flushes) :
    ((operation.execute SerialLine.client).run line).2.written =
      line.written ++ operation.frame := by
  rw [execute_eq]
  rw [← frame_call] at htakes ⊢
  exact ((operation.call.performed_overLine line).sends htakes hflushes).1

end Operation

/-- **Unique decoding.** Over a line that takes its bytes and flushes, a client sends the frame of
an operation. The frames of operations one behind the other tell which operations they were: two
sequences send the same stream exactly if they are equal up to the zones of status queries. And no
frame begins the frame of another operation. -/
theorem frames_uniquely_decodable :
    (∀ (operation : Operation) (line : SerialLine),
      SerialLine.Takes line.writes operation.frame.length → line.Flushes →
      ((operation.execute SerialLine.client).run line).2.written =
        line.written ++ operation.frame) ∧
    (∀ operations others : List Operation,
      operations.flatMap Operation.frame = others.flatMap Operation.frame ↔
        operations.map Operation.onWire = others.map Operation.onWire) ∧
    (∀ operation other : Operation, operation.frame <+: other.frame →
      operation.frame = other.frame ∧ operation.onWire = other.onWire) := by
  refine ⟨fun _ _ => Operation.written_execute, fun operations others => ⟨?_, ?_⟩, ?_⟩
  · exact Operation.map_onWire_eq_of_flatMap_frame_eq
  · intro h
    rw [← Operation.flatMap_frame_map_onWire, h, Operation.flatMap_frame_map_onWire]
  · intro operation other h
    have honWire := Operation.onWire_eq_of_frame_prefix h
    refine ⟨?_, honWire⟩
    rw [← operation.frame_onWire, honWire, other.frame_onWire]

/-- Timers that look like the frame of another operation do not end their own frame early. -/
theorem frames_uniquely_decodable_lookalike :
    let unit : UnitId := ⟨5, by decide, by decide⟩
    let zone : Zone := ⟨3, by decide, by decide⟩
    let timers : TimerList := ⟨#v[0x40, 5, 0x33, 0x20, 0x55, 0x55, 0x70, 2], by decide⟩
    let line : SerialLine := { writes := [.accept 4, .accept 7] }
    let sent := ((Operation.execute SerialLine.client (.setTimers unit timers)).run line).2.written
    sent = [0x40, 5, 0xF2, 0x40, 5, 0x33, 0x20, 0x55, 0x55, 0x70, 2] ∧
      ¬ (Operation.getTimers unit).frame <+: sent ∧
      [Operation.status unit (some zone), .comCheck].flatMap Operation.frame =
        [Operation.status unit none, .comCheck].flatMap Operation.frame := by
  intro unit zone timers line sent
  have hsent : sent = (Operation.setTimers unit timers).frame :=
    frames_uniquely_decodable.1 (.setTimers unit timers) line nofun nofun
  refine ⟨hsent, fun h => ?_, ?_⟩
  · obtain ⟨hframes, -⟩ :=
      frames_uniquely_decodable.2.2 (.getTimers unit) (.setTimers unit timers) (hsent ▸ h)
    exact absurd hframes (by decide)
  · exact (frames_uniquely_decodable.2.1 _ _).mpr rfl

end Irrigation
