import Irrigation.Dispatch
import Irrigation.Proofs.Bus.LineLemmas
import Irrigation.Proofs.ExceptLemmas

/-!
# Calls of the bus

The eight calls of a client as one type, so that a law of all of them is one statement.

* `BusCall`: a call with units, zones and timers in some form. `Call` has checked ones.
* `Call.on`, `Call.overLine`: the call of any client, and of the client over a serial line.
* `Call.reply`: the one row of bytes that tells an answer. `Call.decode_eq_ok_iff`: a client takes
  exactly this row for the answer.
* `Call.performed_overLine`: the three ways in which a call over a line ends.
* `Call.overLine_eq_ok_iff`, `Call.overLine_eq_error`: when a call over a line answers, and how it
  fails. `Call.overLine_eq_interpret`: a reply of full length decides. `Call.overLine_readTimers`:
  the timers that a reply holds are checked.
* `Operation.call`, `Operation.execute_eq`: an operation makes one call and reports its answer.
  `Operation.overLine` is what it comes to on a line. `Operation.written_overLine`: its frame goes
  out.
-/

namespace Irrigation

/-- A call of a client, with units, zones and timers in some form. -/
inductive BusCall (U Z T : Type)
  | zoneOn (unit : U) (zone : Z)
  | zoneOff (unit : U) (zone : Z)
  | allOff (unit : U)
  | readStatus (unit : U)
  | globalAllOff
  | comCheck
  | readTimers (unit : U)
  | writeTimers (unit : U) (timers : T)
  deriving Repr, DecidableEq

namespace BusCall

variable {U Z T : Type}

/-- What a call that succeeds answers. -/
@[reducible]
def Answer : BusCall U Z T → Type
  | readStatus _ => ZoneMask
  | readTimers _ => TimerList
  | _ => Unit

/-- How many bytes answer a call. -/
def replyLength : BusCall U Z T → Nat
  | globalAllOff => 0
  | readTimers _ => 11
  | _ => 3

end BusCall

/-- A call that a client carries out. -/
abbrev Call := BusCall UnitId Zone TimerList

namespace Call

/-- The call of a client. -/
def on {m : Type → Type} (client : DeviceClient m) :
    (call : Call) → m (Except DeviceError call.Answer)
  | .zoneOn unit zone => client.zoneOn unit zone
  | .zoneOff unit zone => client.zoneOff unit zone
  | .allOff unit => client.allOff unit
  | .readStatus unit => client.readStatus unit
  | .globalAllOff => client.globalAllOff
  | .comCheck => client.comCheck
  | .readTimers unit => client.readTimers unit
  | .writeTimers unit timers => client.writeTimers unit timers

/-- The call over a serial line: what it gives, and the line behind it. -/
def overLine (call : Call) (line : SerialLine) : Except DeviceError call.Answer × SerialLine :=
  (call.on SerialLine.client).run line

/-- The exchange that the call makes. -/
def exchange : (call : Call) → Exchange call.Answer
  | .zoneOn unit zone => .zoneOn unit zone
  | .zoneOff unit zone => .zoneOff unit zone
  | .allOff unit => .allOff unit
  | .readStatus unit => .readStatus unit
  | .globalAllOff => .globalAllOff
  | .comCheck => .comCheck
  | .readTimers unit => .readTimers unit
  | .writeTimers unit timers => .writeTimers unit timers

/-- The bytes that the call sends. -/
def frame (call : Call) : List UInt8 := call.exchange.frame

/-- Who has to answer the call. -/
def target : Call → String
  | .globalAllOff | .comCheck => "bus"
  | .zoneOn unit _ | .zoneOff unit _ | .allOff unit | .readStatus unit | .readTimers unit
  | .writeTimers unit _ => "unit " ++ decimal unit.byte.toNat

/-- The reply that tells an answer. -/
def reply : (call : Call) → call.Answer → List UInt8
  | .zoneOn unit zone, _ => [0x40, unit.byte, 0x30 + zone.byte]
  | .zoneOff unit zone, _ => [0x40, unit.byte, 0x40 + zone.byte]
  | .allOff unit, _ => [0x40, unit.byte, 0x55]
  | .readStatus unit, mask => [0x40, unit.byte, mask.bits]
  | .globalAllOff, _ => []
  | .comCheck, _ => [0x70, 0x02, 0x70]
  | .readTimers unit, timers => [0x40, unit.byte, 0xF1] ++ Zone.all.map timers.get
  | .writeTimers unit _, _ => [0x40, unit.byte, 0xF2]

theorem overLine_eq (call : Call) (line : SerialLine) :
    call.overLine line = line.perform call.exchange := by
  cases call <;> rfl

@[simp]
theorem target_exchange (call : Call) : call.exchange.target = call.target := by
  cases call <;> rfl

@[simp]
theorem replyLength_exchange (call : Call) : call.exchange.replyLength = call.replyLength := by
  cases call <;> rfl

theorem performed_overLine (call : Call) (line : SerialLine) :
    SerialLine.Performed call.exchange line (call.overLine line).1 (call.overLine line).2 := by
  rw [overLine_eq]
  exact SerialLine.performed_perform call.exchange line

end Call

/-! ## Answers -/

theorem expectBytes_eq_ok_iff {expected got : List UInt8} :
    expectBytes expected got = .ok () ↔ got = expected := by
  unfold expectBytes
  split <;> simp_all [eq_comm]

theorem expectBytes_bind_eq_ok_iff {α : Type} {expected got : List UInt8}
    {next : Unit → Except String α} {a : α} :
    (expectBytes expected got >>= next) = .ok a ↔ got = expected ∧ next () = .ok a := by
  unfold expectBytes
  split
  · next h => exact ⟨fun ha => ⟨h.symm, ha⟩, fun ha => ha.2⟩
  · next h => exact ⟨nofun, fun ha => absurd ha.1.symm h⟩

@[simp]
theorem Zone.index_ofIndex (i : Fin 8) : (ofIndex i).index = i := by
  simp only [index, ofIndex, UInt8.toNat_ofNat']
  omega

namespace TimerList

/-- The run times of all zones in order are the values in order. -/
@[simp]
theorem map_get_all (timers : TimerList) : Zone.all.map timers.get = timers.toList := by
  apply List.ext_getElem
  · simp [Zone.all]
  · intro i _ _
    simp only [Zone.all, List.getElem_map, List.getElem_ofFn, get, Zone.index_ofIndex, toList,
      Vector.getElem_toList]
    rfl

theorem ofValues_eq_ok_iff {values : Vector UInt8 8} {timers : TimerList} :
    ofValues values = .ok timers ↔ values = timers.values := by
  unfold ofValues
  split
  · constructor
    · rintro ⟨⟩
      rfl
    · rintro rfl
      rfl
  · next h =>
    refine ⟨nofun, ?_⟩
    rintro rfl
    exact absurd timers.nonzero h

end TimerList

namespace Exchange

theorem toList_ofFn_getD {payload : List UInt8} (h : payload.length = 8) :
    (Vector.ofFn fun i : Fin 8 => payload.getD i 0).toList = payload := by
  apply List.ext_getElem
  · simp [h]
  · intro i _ hi
    simp [List.getD_eq_getElem?_getD, hi]

theorem timersOf_toList (values : Vector UInt8 8) :
    timersOf values.toList = (TimerList.ofValues values).mapError TimerError.message := by
  have hvalues : (Vector.ofFn fun i : Fin 8 => values.toList.getD i 0) = values := by
    rw [← Vector.toList_inj, toList_ofFn_getD values.length_toList]
  rw [timersOf, hvalues]

theorem timersOf_eq_ok_iff {payload : List UInt8} (h : payload.length = 8)
    {timers : TimerList} : timersOf payload = .ok timers ↔ payload = timers.toList := by
  rw [timersOf, mapError_eq_ok_iff, TimerList.ofValues_eq_ok_iff, ← Vector.toList_inj,
    toList_ofFn_getD h, TimerList.toList]

end Exchange

namespace Call

@[simp]
theorem length_reply (call : Call) (answer : call.Answer) :
    (call.reply answer).length = call.replyLength := by
  cases call with
  | readTimers unit => simp [reply, BusCall.replyLength]
  | _ => rfl

/-- Of all rows of the right length, a call takes the reply that tells an answer, and no other,
for that answer. -/
theorem decode_eq_ok_iff (call : Call) {bytes : List UInt8}
    (h : bytes.length = call.replyLength) (answer : call.Answer) :
    call.exchange.decode bytes = .ok answer ↔ bytes = call.reply answer := by
  cases call with
  | readStatus unit =>
    match bytes, h with
    | [a, b, c], _ =>
      refine expectBytes_bind_eq_ok_iff.trans ?_
      obtain ⟨mask⟩ := answer
      simp [reply, Exchange.header, Exchange.leadIn, pure, Except.pure, and_assoc]
  | globalAllOff => exact iff_of_true rfl (List.eq_nil_of_length_eq_zero h)
  | readTimers unit =>
    have hdrop : (bytes.drop 3).length = 8 := by rw [List.length_drop, h]; rfl
    refine expectBytes_bind_eq_ok_iff.trans ?_
    rw [Exchange.timersOf_eq_ok_iff hdrop, reply, TimerList.map_get_all]
    constructor
    · rintro ⟨htake, hdrop⟩
      rw [← List.take_append_drop 3 bytes, htake, hdrop]
      rfl
    · rintro rfl
      exact ⟨rfl, rfl⟩
  | _ => exact expectBytes_eq_ok_iff

theorem interpret_eq_ok_iff (call : Call) {bytes : List UInt8}
    (h : bytes.length = call.replyLength) (answer : call.Answer) :
    call.exchange.interpret bytes = .ok answer ↔ bytes = call.reply answer := by
  rw [Exchange.interpret, mapError_eq_ok_iff, call.decode_eq_ok_iff h]

/-- Bytes that tell no answer are a bad response. -/
theorem interpret_cases (call : Call) (bytes : List UInt8) :
    (∃ answer, call.exchange.interpret bytes = .ok answer) ∨
      ∃ detail, call.exchange.interpret bytes = .error (.badResponse call.target detail) := by
  unfold Exchange.interpret
  cases call.exchange.decode bytes with
  | ok answer => exact .inl ⟨answer, rfl⟩
  | error detail =>
    refine .inr ⟨detail, ?_⟩
    rw [← target_exchange]
    rfl

/-- A call over a line answers exactly if its frame is sent and the bytes that arrive are the reply
that tells the answer. -/
theorem overLine_eq_ok_iff {call : Call} {line : SerialLine} {answer : call.Answer} :
    (call.overLine line).1 = .ok answer ↔
      (line.send call.frame).1 = .ok () ∧
        (SerialLine.arriving line.reads).take call.replyLength = call.reply answer := by
  have hperformed := call.performed_overLine line
  generalize (call.overLine line).1 = result, (call.overLine line).2 = after at hperformed ⊢
  cases hperformed with
  | unsent hsent =>
    refine ⟨nofun, fun h => ?_⟩
    have := hsent.eq_ok_iff.mpr (SerialLine.send_eq_ok_iff.mp h.1)
    contradiction
  | stopped _ hshort =>
    refine ⟨nofun, fun h => ?_⟩
    have hlength := congrArg List.length h.2
    rw [List.length_take, length_reply] at hlength
    rw [replyLength_exchange] at hshort
    omega
  | answered hsent hle =>
    rw [replyLength_exchange] at hle ⊢
    rw [call.interpret_eq_ok_iff (List.length_take_of_le hle)]
    exact ⟨fun h => ⟨hsent.send_eq, h⟩, And.right⟩

/-- Where the frame of a call is sent and as many bytes arrive as its reply has, these decide. -/
theorem overLine_eq_interpret {call : Call} {line : SerialLine}
    (hsent : (line.send call.frame).1 = .ok ())
    (hle : call.replyLength ≤ (SerialLine.arriving line.reads).length) :
    (call.overLine line).1 =
      call.exchange.interpret ((SerialLine.arriving line.reads).take call.replyLength) := by
  have hperformed := call.performed_overLine line
  generalize (call.overLine line).1 = result, (call.overLine line).2 = after at hperformed ⊢
  cases hperformed with
  | unsent hfault =>
    have := hfault.eq_ok_iff.mpr (SerialLine.send_eq_ok_iff.mp hsent)
    contradiction
  | stopped _ hshort =>
    rw [replyLength_exchange] at hshort
    omega
  | answered => rw [replyLength_exchange]

/-- A reply that holds eight bytes is read as what they are checked for, and refused in the words of
the check. -/
theorem overLine_readTimers {unit : UnitId} {values : Vector UInt8 8} {line : SerialLine}
    (hsent : (line.send [0x40, unit.byte, 0xF1]).1 = .ok ())
    (hreply : [0x40, unit.byte, 0xF1] ++ values.toList <+: SerialLine.arriving line.reads) :
    (overLine (.readTimers unit) line).1 =
      (TimerList.ofValues values).mapError fun reason =>
        .badResponse ("unit " ++ decimal unit.byte.toNat) reason.message := by
  have hlength : ([0x40, unit.byte, 0xF1] ++ values.toList).length = 11 := by simp
  have htake := List.prefix_iff_eq_take.mp hreply
  rw [hlength] at htake
  have hresult : (overLine (.readTimers unit) line).1 =
      (Exchange.readTimers unit).interpret ([0x40, unit.byte, 0xF1] ++ values.toList) := by
    have hle : 11 ≤ (SerialLine.arriving line.reads).length := hlength ▸ hreply.length_le
    rw [htake]
    exact overLine_eq_interpret hsent hle
  have hdecode : (Exchange.readTimers unit).decode ([0x40, unit.byte, 0xF1] ++ values.toList) =
      (TimerList.ofValues values).mapError TimerError.message := by
    have hheader : expectBytes (Exchange.header unit 0xF1)
        (([0x40, unit.byte, 0xF1] ++ values.toList).take 3) = .ok () :=
      expectBytes_eq_ok_iff.mpr rfl
    rw [← Exchange.timersOf_toList, Exchange.readTimers]
    simp only [hheader, ok_bind]
    rfl
  rw [hresult, Exchange.interpret, hdecode]
  cases TimerList.ofValues values <;> rfl

/-- A call over a line fails in one of three ways. -/
theorem overLine_eq_error {call : Call} {line : SerialLine} {error : DeviceError}
    (h : (call.overLine line).1 = .error error) :
    (∃ reason, error = .line reason) ∨ error = .noResponse call.target ∨
      ∃ detail, error = .badResponse call.target detail := by
  have hperformed := call.performed_overLine line
  generalize (call.overLine line).1 = result, (call.overLine line).2 = after at hperformed h
  cases hperformed with
  | unsent =>
    cases h
    exact .inl ⟨_, rfl⟩
  | stopped =>
    rw [Exchange.unanswered, target_exchange] at h
    split at h <;> cases h
    · exact .inr (.inl rfl)
    · exact .inl ⟨_, rfl⟩
  | answered =>
    rcases call.interpret_cases ((SerialLine.arriving line.reads).take call.exchange.replyLength)
      with ⟨answer, hanswer⟩ | ⟨detail, hdetail⟩
    · rw [hanswer] at h
      contradiction
    · rw [hdetail] at h
      cases h
      exact .inr (.inr ⟨detail, rfl⟩)

end Call

/-! ## Operations -/

namespace Operation

/-- The call that an operation makes. -/
def call : Operation → Call
  | on unit zone => .zoneOn unit zone
  | off unit zone => .zoneOff unit zone
  | allOff unit => .allOff unit
  | status unit _ => .readStatus unit
  | globalAllOff => .globalAllOff
  | comCheck => .comCheck
  | getTimers unit => .readTimers unit
  | setTimers unit timers => .writeTimers unit timers

/-- What an operation reports of the answer to its call. -/
def report : (operation : Operation) → operation.call.Answer → Report
  | status _ zone, mask => Report.ofMask zone mask
  | comCheck, _ => .online
  | getTimers _, timers => .timers timers
  | on .., _ | off .., _ | allOff _, _ | globalAllOff, _ | setTimers .., _ => .done

theorem frame_call (operation : Operation) : operation.call.frame = operation.frame := by
  cases operation <;> rfl

theorem execute_eq {m : Type → Type} [Monad m] [LawfulMonad m] (client : DeviceClient m)
    (operation : Operation) :
    operation.execute client = Outcome.ofAnswer operation.report <$> operation.call.on client := by
  cases operation <;> exact bind_pure_comp ..

/-- What an operation comes to on a line, and the line behind it. -/
def overLine (operation : Operation) (line : SerialLine) : Outcome × SerialLine :=
  (operation.execute SerialLine.client).run line

theorem overLine_eq (operation : Operation) (line : SerialLine) :
    operation.overLine line =
      (Outcome.ofAnswer operation.report (operation.call.overLine line).1,
        (operation.call.overLine line).2) := by
  rw [overLine, execute_eq]
  rfl

/-- The frame of an operation goes out over a line that takes it, flushed or not. -/
theorem written_overLine {operation : Operation} {line : SerialLine}
    (htakes : SerialLine.Takes line.writes operation.frame.length) :
    (operation.call.overLine line).2.written = line.written ++ operation.frame := by
  rw [← frame_call] at htakes ⊢
  exact (operation.call.performed_overLine line).written_eq htakes

end Operation

end Irrigation
