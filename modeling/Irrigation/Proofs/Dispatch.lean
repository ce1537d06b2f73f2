import Irrigation.Proofs.Bus.Call

/-!
# One call for each operation

Operations are carried out one after the other by any client with a state of its own, and the calls
that reach the client are put on record.

* `DeviceClient.recording`: the client that puts each call on record with its answer and the state
  that it leaves.
* `Operation.executeAll`: operations one after the other.
* `Reports`: what an operation reports of the answer to its call. `reports_iff`: it is a function of
  the two.
* `Conducts`: a run with one call for each operation. `exists_conducts` and `Conducts.run_eq`: every
  run is such a run.
* `one_call_each`: the calls of a run, its outcomes, and the states in between.
-/

namespace Irrigation

/-! ## Calls on record -/

/-- A call that was made: its answer, and the state in which it left the client. -/
structure Made (σ : Type) where
  call : Call
  answer : Except DeviceError call.Answer
  left : σ

namespace DeviceClient

variable {σ : Type}

/-- Passes a call on to a client and puts it on record. -/
def record (client : DeviceClient (StateM σ)) (call : Call) :
    StateM (List (Made σ) × σ) (Except DeviceError call.Answer) := fun (record, state) =>
  let (answer, left) := (call.on client).run state
  (answer, record ++ [⟨call, answer, left⟩], left)

/-- The client that puts its calls on record. -/
def recording (client : DeviceClient (StateM σ)) : DeviceClient (StateM (List (Made σ) × σ)) where
  zoneOn unit zone := client.record (.zoneOn unit zone)
  zoneOff unit zone := client.record (.zoneOff unit zone)
  allOff unit := client.record (.allOff unit)
  readStatus unit := client.record (.readStatus unit)
  globalAllOff := client.record .globalAllOff
  comCheck := client.record .comCheck
  readTimers unit := client.record (.readTimers unit)
  writeTimers unit timers := client.record (.writeTimers unit timers)

theorem on_recording (client : DeviceClient (StateM σ)) (call : Call) :
    call.on client.recording = client.record call := by
  cases call <;> rfl

end DeviceClient

/-! ## Reports -/

/-- What an operation reports of the answer to its call: the error itself, or what the answer of the
call tells. -/
inductive Reports : (operation : Operation) → Except DeviceError operation.call.Answer →
    Outcome → Prop
  | failed {operation : Operation} (error : DeviceError) :
    Reports operation (.error error) (.failed error)
  | on {unit : UnitId} {zone : Zone} : Reports (.on unit zone) (.ok ()) (.succeeded .done)
  | off {unit : UnitId} {zone : Zone} : Reports (.off unit zone) (.ok ()) (.succeeded .done)
  | allOff {unit : UnitId} : Reports (.allOff unit) (.ok ()) (.succeeded .done)
  | zoneState {unit : UnitId} {zone : Zone} (mask : ZoneMask) :
    Reports (.status unit (some zone)) (.ok mask)
      (.succeeded (.zoneState zone (mask.bits.toNat.testBit (zone.byte.toNat - 1))))
  | mask {unit : UnitId} (mask : ZoneMask) :
    Reports (.status unit none) (.ok mask) (.succeeded (.mask mask))
  | globalAllOff : Reports .globalAllOff (.ok ()) (.succeeded .done)
  | comCheck : Reports .comCheck (.ok ()) (.succeeded .online)
  | getTimers {unit : UnitId} (timers : TimerList) :
    Reports (.getTimers unit) (.ok timers) (.succeeded (.timers timers))
  | setTimers {unit : UnitId} {timers : TimerList} :
    Reports (.setTimers unit timers) (.ok ()) (.succeeded .done)

theorem reports_ofAnswer (operation : Operation)
    (answer : Except DeviceError operation.call.Answer) :
    Reports operation answer (.ofAnswer operation.report answer) := by
  cases answer with
  | error error => exact .failed error
  | ok answer =>
    cases operation with
    | on | off | allOff | globalAllOff | comCheck | setTimers => constructor
    | getTimers => exact .getTimers answer
    | status unit zone =>
      cases zone with
      | none => exact .mask answer
      | some zone => exact .zoneState answer

/-- The report is a function of the operation and the answer. -/
theorem reports_iff {operation : Operation} {answer : Except DeviceError operation.call.Answer}
    {outcome : Outcome} :
    Reports operation answer outcome ↔ outcome = .ofAnswer operation.report answer := by
  constructor
  · intro h
    cases h <;> rfl
  · rintro rfl
    exact reports_ofAnswer operation answer

/-! ## Runs -/

/-- Carries out operations one after the other. -/
def Operation.executeAll {m : Type → Type} [Monad m] (client : DeviceClient m)
    (operations : List Operation) : m (List Outcome) :=
  operations.mapM (execute client)

variable {σ : Type} {client : DeviceClient (StateM σ)} {start last : σ}
  {operations : List Operation} {record : List (Made σ)} {outcomes : List Outcome}

/-- A run of a client from a state on, with one call for each operation: the call is made in the
state that the one before has left, and its answer is reported. -/
inductive Conducts (client : DeviceClient (StateM σ)) :
    σ → List Operation → List (Made σ) → List Outcome → σ → Prop
  | nil {state : σ} : Conducts client state [] [] [] state
  | cons {state left last : σ} {operation : Operation} {operations : List Operation}
    {answer : Except DeviceError operation.call.Answer} {record : List (Made σ)}
    {outcome : Outcome} {outcomes : List Outcome} :
    (operation.call.on client).run state = (answer, left) →
    Reports operation answer outcome →
    Conducts client left operations record outcomes last →
    Conducts client state (operation :: operations) (⟨operation.call, answer, left⟩ :: record)
      (outcome :: outcomes) last

theorem exists_conducts (client : DeviceClient (StateM σ)) (start : σ)
    (operations : List Operation) :
    ∃ record outcomes last, Conducts client start operations record outcomes last := by
  induction operations generalizing start with
  | nil => exact ⟨[], [], start, .nil⟩
  | cons operation operations ih =>
    obtain ⟨record, outcomes, last, h⟩ := ih ((operation.call.on client).run start).2
    exact ⟨_, _, last, .cons rfl (reports_ofAnswer operation _) h⟩

namespace Operation

/-- An operation makes its call and reports the answer. -/
theorem run_execute {operation : Operation} {state left : σ}
    {answer : Except DeviceError operation.call.Answer}
    (h : (operation.call.on client).run state = (answer, left)) :
    (operation.execute client).run state = (.ofAnswer operation.report answer, left) := by
  rw [execute_eq, StateT.run_map, h]
  rfl

theorem run_execute_recording {operation : Operation} {state left : σ}
    {answer : Except DeviceError operation.call.Answer}
    (h : (operation.call.on client).run state = (answer, left)) (made : List (Made σ)) :
    (operation.execute client.recording).run (made, state) =
      (.ofAnswer operation.report answer, made ++ [⟨operation.call, answer, left⟩], left) := by
  apply run_execute
  rw [client.on_recording]
  change client.record operation.call (made, state) = _
  rw [DeviceClient.record, h]

theorem run_executeAll_cons {operation : Operation} {state next : σ} {outcome : Outcome}
    (hfirst : (operation.execute client).run state = (outcome, next))
    (hrest : (executeAll client operations).run next = (outcomes, last)) :
    (executeAll client (operation :: operations)).run state = (outcome :: outcomes, last) := by
  have hcons : (executeAll client (operation :: operations)).run state =
      let (outcome, next) := (operation.execute client).run state
      let (outcomes, last) := (executeAll client operations).run next
      (outcome :: outcomes, last) := by
    rw [executeAll, List.mapM_cons]
    rfl
  simp only [hcons, hfirst, hrest]

end Operation

/-- A client goes through the run. -/
theorem Conducts.run_eq (h : Conducts client start operations record outcomes last) :
    (Operation.executeAll client operations).run start = (outcomes, last) := by
  induction h with
  | nil => rfl
  | cons hcall hreport _ ih =>
    cases reports_iff.mp hreport
    exact Operation.run_executeAll_cons (Operation.run_execute hcall) ih

/-- The client that puts its calls on record goes through the run as well, and what it has on record
behind are the calls of the run. -/
theorem Conducts.run_recording_eq (h : Conducts client start operations record outcomes last)
    (made : List (Made σ)) :
    (Operation.executeAll client.recording operations).run (made, start) =
      (outcomes, made ++ record, last) := by
  induction h generalizing made with
  | nil =>
    rw [List.append_nil]
    rfl
  | cons hcall hreport _ ih =>
    cases reports_iff.mp hreport
    rw [List.append_cons]
    exact Operation.run_executeAll_cons (Operation.run_execute_recording hcall made) (ih _)

theorem Conducts.map_call (h : Conducts client start operations record outcomes last) :
    record.map Made.call = operations.map Operation.call := by
  induction h with
  | nil => rfl
  | cons _ _ _ ih => rw [List.map_cons, List.map_cons, ih]

/-- The first operations of a run are a run, which ends in the state that its last call has left. -/
theorem Conducts.take (h : Conducts client start operations record outcomes last) (k : Nat) :
    Conducts client start (operations.take k) (record.take k) (outcomes.take k)
      (((record.take k).map Made.left).getLastD start) := by
  induction h generalizing k with
  | nil => simpa using Conducts.nil
  | cons hcall hreport _ ih =>
    cases k with
    | zero => exact .nil
    | succ k =>
      simp only [List.take_succ_cons, List.map_cons, List.getLastD_cons]
      exact .cons hcall hreport (ih k)

/-- **One call for each operation.** Let any client carry out operations one after the other.

The calls that it gets are those of the operations, one for each, in their order; each is made in
the state that the one before has left, and its answer alone is reported. So the first operations of
the run give the same outcomes without the others, and leave the client in the state that the last
of their calls has left: a failure is not tried again, and changes nothing behind it.

What is reported is a function of the operation and the answer, and an error keeps its exit
status. -/
theorem one_call_each (client : DeviceClient (StateM σ)) (start : σ)
    (operations : List Operation) :
    ∃ record outcomes last,
      Conducts client start operations record outcomes last ∧
      (Operation.executeAll client.recording operations).run ([], start) =
        (outcomes, record, last) ∧
      record.map Made.call = operations.map Operation.call ∧
      (∀ k, (Operation.executeAll client (operations.take k)).run start =
        (outcomes.take k, ((record.take k).map Made.left).getLastD start)) ∧
      (∀ (operation : Operation) answer outcome, Reports operation answer outcome ↔
        outcome = .ofAnswer operation.report answer) ∧
      ∀ error, (Outcome.failed error).status = error.status := by
  obtain ⟨record, outcomes, last, h⟩ := exists_conducts client start operations
  exact ⟨record, outcomes, last, h, h.run_recording_eq [], h.map_call, fun k => (h.take k).run_eq,
    fun _ _ _ => reports_iff, fun _ => rfl⟩

end Irrigation
