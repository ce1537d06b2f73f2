import Irrigation.Ending
import Irrigation.Proofs.Bus.Call
import Irrigation.Proofs.Validation

/-!
# From options to the wire

Which bytes go out for the options of an invocation, told from the plain numbers in the options.

* `Options.Asks`: the frame that options ask for, as integers.
* `Options.asks_of_validate`: the operation that options describe has the frame they ask for.
* `Options.carryOut`: options checked and then carried out by a client. `Options.run_carryOut`: over
  a line that is one call.
* `carryOut_client`: over a line that takes the frame, exactly this frame goes out; for options that
  describe no operation, nothing happens on the line.
-/

namespace Irrigation

/-- Bytes as integers. -/
def integers (bytes : List UInt8) : List Int := bytes.map fun b => (b.toNat : Int)

namespace Options

variable (options : Options)

/-! ## Asking -/

/-- The options name the command of a keyword, up to the case of ASCII letters. -/
def Names (keyword : String) : Prop :=
  ∃ text, options.command = some text ∧ keyword.toList = text.toList.map Char.toLower

/-- The options have a unit in range. -/
def HasUnit (unit : Int) : Prop := options.unit = some unit ∧ 1 ≤ unit ∧ unit ≤ 254

/-- The options have a zone in range. -/
def HasZone (zone : Int) : Prop := options.zone = some zone ∧ 1 ≤ zone ∧ zone ≤ 8

/-- The options have eight timers, none of which is zero. -/
def HasTimers (times : List Int) : Prop :=
  (options.timers.map fun timers => integers timers.toList) = some times ∧ times.length = 8 ∧
    0 ∉ times

/-- The frame that options ask for, made of the numbers in the options. -/
inductive Asks : List Int → Prop
  | on {unit zone : Int} : options.Names "on" → options.HasUnit unit → options.HasZone zone →
    Asks [0x40, unit, 0x30 + zone]
  | off {unit zone : Int} : options.Names "off" → options.HasUnit unit → options.HasZone zone →
    Asks [0x40, unit, 0x40 + zone]
  | allOff {unit : Int} : options.Names "alloff" → options.HasUnit unit → Asks [0x40, unit, 0x55]
  | status {unit : Int} : options.Names "status" → options.HasUnit unit → Asks [0x40, unit, 0xF0]
  | globalAllOff : options.Names "galloff" → Asks [0x20, 0x55, 0x55]
  | comCheck : options.Names "comcheck" → Asks [0x70, 0x02, 0x70]
  | getTimers {unit : Int} : options.Names "gettimers" → options.HasUnit unit →
    Asks [0x40, unit, 0xF1]
  | setTimers {unit : Int} {times : List Int} : options.Names "settimers" →
    options.HasUnit unit → options.HasTimers times → Asks ([0x40, unit, 0xF2] ++ times)

variable {options}

theorem hasUnit_number {unit : UnitId} (h : options.unit = some unit.number) :
    options.HasUnit unit.number := by
  have hlow := unit.one_le
  have hhigh := unit.le_max
  refine ⟨h, ?_⟩
  unfold UnitId.number
  omega

theorem hasZone_number {zone : Zone} (h : options.zone = some zone.number) :
    options.HasZone zone.number := by
  have hlow := zone.one_le
  have hhigh := zone.le_max
  refine ⟨h, ?_⟩
  unfold Zone.number
  omega

theorem hasTimers_integers {timers : TimerList} (h : options.timers = some timers) :
    options.HasTimers (integers timers.toList) := by
  refine ⟨by rw [h]; rfl, by simp [integers], ?_⟩
  intro hzero
  obtain ⟨byte, hbyte, hb⟩ := List.mem_map.mp hzero
  refine timers.nonzero byte (Vector.mem_toList_iff.mp hbyte) ?_
  rw [← UInt8.toNat_inj]
  exact Int.ofNat_inj.mp hb

theorem integers_header (unit : UnitId) (opcode : UInt8) :
    integers (Exchange.header unit opcode) = [0x40, unit.number, opcode.toNat] := rfl

/-- Behind its opcode a zone still has room in one byte. -/
theorem integers_header_zone (unit : UnitId) (zone : Zone) {opcode : UInt8}
    (h : opcode.toNat ≤ 247) :
    integers (Exchange.header unit (opcode + zone.byte)) =
      [0x40, unit.number, opcode.toNat + zone.number] := by
  rw [integers_header, zone.toNat_add_byte h, Zone.number, Int.natCast_add]

/-- The operation that options describe has the frame that they ask for. -/
theorem asks_of_validate {operation : Operation} (h : options.validate = .ok operation) :
    options.Asks (integers operation.frame) := by
  obtain ⟨command, unit, zone, timers, hcommand, hunit, hzone, htimers, h⟩ :=
    validate_eq_ok_iff.mp h
  have hnames : options.Names command.keyword := readCommand_eq_ok_iff.mp hcommand
  cases command with
  | on =>
    obtain ⟨unit, hunit, rfl⟩ := hunit
    obtain ⟨zone, hzone, rfl⟩ := hzone
    cases h
    have hframe := @integers_header_zone unit zone 0x30 (by decide)
    exact hframe ▸ .on hnames (hasUnit_number hunit) (hasZone_number hzone)
  | off =>
    obtain ⟨unit, hunit, rfl⟩ := hunit
    obtain ⟨zone, hzone, rfl⟩ := hzone
    cases h
    have hframe := @integers_header_zone unit zone 0x40 (by decide)
    exact hframe ▸ .off hnames (hasUnit_number hunit) (hasZone_number hzone)
  | allOff =>
    obtain ⟨unit, hunit, rfl⟩ := hunit
    cases h
    exact .allOff hnames (hasUnit_number hunit)
  | status =>
    obtain ⟨unit, hunit, rfl⟩ := hunit
    cases h
    exact .status hnames (hasUnit_number hunit)
  | globalAllOff =>
    cases h
    exact .globalAllOff hnames
  | comCheck =>
    cases h
    exact .comCheck hnames
  | getTimers =>
    obtain ⟨unit, hunit, rfl⟩ := hunit
    cases h
    exact .getTimers hnames (hasUnit_number hunit)
  | setTimers =>
    obtain ⟨unit, hunit, rfl⟩ := hunit
    obtain ⟨timers, htimers, rfl⟩ := htimers
    cases h
    exact .setTimers hnames (hasUnit_number hunit) (hasTimers_integers htimers)

/-! ## Carrying out -/

/-- Checks the options and carries out the operation that they describe. -/
def carryOut {m : Type → Type} [Monad m] (client : DeviceClient m) (journal : Journal)
    (colour : Bool) (options : Options) : m (Except ValidationError Ending) :=
  match options.validate with
  | .error error => return .error error
  | .ok operation => return .ok (← operation.run client journal colour options.verbose)

end Options

/-- An operation makes one call over the line, and its end tells the answer. -/
theorem Operation.run_client (operation : Operation) (journal : Journal) (colour verbose : Bool)
    (line : SerialLine) :
    (operation.run SerialLine.client journal colour verbose).run line =
      ((Outcome.ofAnswer operation.report (operation.call.overLine line).1).ending
          journal colour verbose operation,
        (operation.call.overLine line).2) := by
  rw [Operation.run, execute_eq]
  rfl

/-- Options that describe an operation are carried out by its one call over the line. -/
theorem Options.run_carryOut {options : Options} {operation : Operation}
    (h : options.validate = .ok operation) (journal : Journal) (colour : Bool)
    (line : SerialLine) :
    (options.carryOut SerialLine.client journal colour).run line =
      (.ok ((Outcome.ofAnswer operation.report (operation.call.overLine line).1).ending
          journal colour options.verbose operation),
        (operation.call.overLine line).2) := by
  have hrun := operation.run_client journal colour options.verbose line
  rw [carryOut, h]
  simp only [StateT.run_bind, hrun]
  rfl

/-- **From options to the wire.** Let options be checked and carried out over a line.

If they describe no operation, the line is as before: nothing is written, flushed or read.

If they describe one, and the line takes its frame and flushes, then exactly one frame goes out,
flushed once, and it is the frame that the numbers in the options ask for. The reads of the line do
not matter. -/
theorem carryOut_client (options : Options) (journal : Journal) (colour : Bool)
    (line : SerialLine) :
    let carried := (options.carryOut SerialLine.client journal colour).run line
    (∀ error, options.validate = .error error → carried = (.error error, line)) ∧
    (∀ operation, options.validate = .ok operation →
      SerialLine.Takes line.writes operation.frame.length → line.Flushes →
      ∃ ending frame after, carried = (.ok ending, after) ∧ options.Asks (integers frame) ∧
        after.written = line.written ++ frame ∧ after.flushCount = line.flushCount + 1) := by
  intro carried
  constructor
  · intro error herror
    unfold carried Options.carryOut
    rw [herror]
    rfl
  · intro operation hoperation htakes hflushes
    have hcarried : carried = _ := Options.run_carryOut hoperation journal colour line
    have hframe : operation.call.exchange.frame = operation.frame := operation.frame_call
    have hsends := (operation.call.performed_overLine line).sends (hframe ▸ htakes) hflushes
    rw [hframe] at hsends
    exact ⟨_, operation.frame, _, hcarried, Options.asks_of_validate hoperation, hsends⟩

/-- The last unit and zone over a line that takes one byte at a time, whatever answers; and a unit
that is a multiple of 256 away from one in range. -/
theorem carryOut_client_last :
    let options : Options := ⟨"/dev/ttyS0", some "oN", some 254, some 8, none, false⟩
    let far : Options := ⟨"/dev/ttyS0", some "off", some 257, some 1, none, false⟩
    let line : SerialLine :=
      { reads := [.data [0x40, 1]], writes := [.accept 1, .accept 1, .accept 1] }
    (∃ ending frame after,
      (options.carryOut SerialLine.client ⟨0, false⟩ false).run line = (.ok ending, after) ∧
        options.Asks (integers frame) ∧ after.written = frame ∧ after.flushCount = 1) ∧
    (far.carryOut SerialLine.client ⟨0, false⟩ false).run line =
      (.error (.unitOutOfRange 257), line) := by
  intro options far line
  have hoptions : options.validate = .ok
      (.on ⟨254, by decide, by decide⟩ ⟨8, by decide, by decide⟩) := rfl
  have hfar : far.validate = .error (.unitOutOfRange 257) := rfl
  have htakes : SerialLine.Takes line.writes 3 := nofun
  obtain ⟨ending, frame, after, hrun, hasks, hwritten, hcount⟩ :=
    (carryOut_client options ⟨0, false⟩ false line).2 _ hoptions htakes nofun
  refine ⟨⟨ending, frame, after, hrun, hasks, hwritten, hcount⟩, ?_⟩
  exact (carryOut_client far ⟨0, false⟩ false line).1 _ hfar

end Irrigation
