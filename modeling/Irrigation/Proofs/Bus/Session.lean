import Irrigation.Proofs.Bus.Call
import Irrigation.Timers.Token
import Mathlib.Algebra.GroupWithZero.Nat
import Mathlib.Data.List.Forall2

/-!
# Sessions over one line

Many calls over one line, one after the other, each asked for with plain numbers and with a timer
token, and with more reads to come in front of it.

* `Request.check`: the call of a request, or why its arguments make none.
* `Step`, `Visit`: a step of a session, and what there is to see of it.
* `visits`, `afterSteps`: the steps of a session in order, and the line behind them.
* `Visit.Consumes`: what one step takes from the line. `Step.consumes_visit` is the law of one step.
* `session_synchronised`: a session cuts the delivered stream into one row of bytes for each step,
  and what is left.
-/

namespace Irrigation

/-! ## Requests -/

/-- Why the arguments of a request make no call. -/
inductive RequestError
  | option (error : ValidationError)
  | token (error : TimerError)
  deriving Repr, DecidableEq

/-- A call that is asked for: units and zones as numbers, timers as a token. -/
abbrev Request := BusCall Int Int String

namespace Request

/-- The unit of a number. -/
def readUnit (number : Int) : Except RequestError UnitId :=
  (UnitId.ofInt number).mapError .option

/-- The zone of a number. -/
def readZone (number : Int) : Except RequestError Zone :=
  (Zone.ofInt number).mapError .option

/-- The timers of a token. -/
def readToken (token : String) : Except RequestError TimerList :=
  (TimerList.parse token).mapError .token

/-- The call of a request. The unit is checked before the zone and before the timers. -/
def check : Request → Except RequestError Call
  | .zoneOn unit zone => do return .zoneOn (← readUnit unit) (← readZone zone)
  | .zoneOff unit zone => do return .zoneOff (← readUnit unit) (← readZone zone)
  | .allOff unit => do return .allOff (← readUnit unit)
  | .readStatus unit => do return .readStatus (← readUnit unit)
  | .globalAllOff => .ok .globalAllOff
  | .comCheck => .ok .comCheck
  | .readTimers unit => do return .readTimers (← readUnit unit)
  | .writeTimers unit token => do return .writeTimers (← readUnit unit) (← readToken token)

/-- A call awaits as many bytes as its request. -/
theorem replyLength_of_check {request : Request} {call : Call} (h : request.check = .ok call) :
    call.replyLength = request.replyLength := by
  cases request with
  | zoneOn unit zone | zoneOff unit zone | writeTimers unit token =>
    obtain ⟨_, -, h⟩ := bind_eq_ok_iff.mp h
    obtain ⟨_, -, h⟩ := bind_eq_ok_iff.mp h
    cases h
    rfl
  | allOff unit | readStatus unit | readTimers unit =>
    obtain ⟨_, -, h⟩ := bind_eq_ok_iff.mp h
    cases h
    rfl
  | globalAllOff | comCheck =>
    cases h
    rfl

end Request

/-! ## Steps -/

/-- A step of a session: the reads that come before it, and the request. -/
structure Step where
  feed : List ReadEvent
  request : Request

/-- How a step ends. -/
inductive StepEnd
  | rejected (error : RequestError)
  | answered (call : Call) (result : Except DeviceError call.Answer)

/-- The step ends with a complete reply: in success or with a bad response. -/
def StepEnd.Complete : StepEnd → Prop
  | answered _ (.ok _) | answered _ (.error (.badResponse ..)) => True
  | _ => False

/-- What there is to see of a step: the line with its feed, the end, and the line behind it. -/
structure Visit where
  request : Request
  before : SerialLine
  ending : StepEnd
  after : SerialLine

namespace Step

/-- The bytes that a step feeds. -/
def fed (step : Step) : List UInt8 := step.feed.flatMap ReadEvent.bytes

/-- Takes a step over a line. -/
def visit (step : Step) (line : SerialLine) : Visit :=
  let before := line.feed step.feed
  match step.request.check with
  | .error error => ⟨step.request, before, .rejected error, before⟩
  | .ok call =>
    let (result, after) := call.overLine before
    ⟨step.request, before, .answered call result, after⟩

end Step

/-- The steps of a session in order. -/
def visits : List Step → SerialLine → List Visit
  | [], _ => []
  | step :: steps, line => step.visit line :: visits steps (step.visit line).after

/-- The line behind a session. -/
def afterSteps : List Step → SerialLine → SerialLine
  | [], line => line
  | step :: steps, line => afterSteps steps (step.visit line).after

/-! ## Synchronisation -/

/-- The bytes that a step takes from what its line has to deliver: a prefix, never longer than the
reply, empty if nothing was sent, and as long as the reply if the reply was complete. -/
structure Visit.Consumes (visit : Visit) (taken : List UInt8) : Prop where
  contiguous : visit.before.unread = taken ++ visit.after.unread
  length_le : taken.length ≤ visit.request.replyLength
  rejected : ∀ error, visit.ending = .rejected error → taken = []
  unsent : ∀ call result fault, visit.ending = .answered call result →
    (visit.before.send call.frame).1 = .error fault → taken = []
  complete : visit.ending.Complete → taken.length = visit.request.replyLength

theorem SerialLine.unread_feed (line : SerialLine) (events : List ReadEvent) :
    (line.feed events).unread = line.unread ++ events.flatMap ReadEvent.bytes := by
  simp [unread, feed]

theorem SerialLine.Sent.unread_eq {frame : List UInt8} {line sent : SerialLine}
    {result : Except Fault Unit} (h : Sent frame line result sent) : sent.unread = line.unread := by
  rw [unread, unread, h.reads_eq]

/-- A reply that stops too early completes nothing. -/
theorem not_complete_unanswered (call : Call) (fault : Fault) :
    ¬ (StepEnd.answered call (.error (call.exchange.unanswered fault))).Complete := by
  unfold Exchange.unanswered
  split <;> exact id

namespace Step

theorem request_visit (step : Step) (line : SerialLine) :
    (step.visit line).request = step.request := by
  unfold visit
  split <;> rfl

theorem before_visit (step : Step) (line : SerialLine) :
    (step.visit line).before = line.feed step.feed := by
  unfold visit
  split <;> rfl

theorem visit_of_error {step : Step} {error : RequestError} (line : SerialLine)
    (h : step.request.check = .error error) :
    step.visit line =
      ⟨step.request, line.feed step.feed, .rejected error, line.feed step.feed⟩ := by
  simp only [visit, h]

theorem visit_of_ok {step : Step} {call : Call} (line : SerialLine)
    (h : step.request.check = .ok call) :
    step.visit line =
      ⟨step.request, line.feed step.feed, .answered call (call.overLine (line.feed step.feed)).1,
        (call.overLine (line.feed step.feed)).2⟩ := by
  simp only [visit, h]

/-- Every step consumes a prefix of what its line has to deliver. -/
theorem consumes_visit (step : Step) (line : SerialLine) :
    ∃ taken, (step.visit line).Consumes taken := by
  cases hcheck : step.request.check with
  | error error =>
    rw [visit_of_error line hcheck]
    exact ⟨[], rfl, Nat.zero_le _, fun _ _ => rfl, fun _ _ _ _ _ => rfl, False.elim⟩
  | ok call =>
    rw [visit_of_ok line hcheck]
    have hlength := Request.replyLength_of_check hcheck
    have hperformed := call.performed_overLine (line.feed step.feed)
    generalize (call.overLine (line.feed step.feed)).1 = result,
      (call.overLine (line.feed step.feed)).2 = after at hperformed ⊢
    cases hperformed with
    | unsent h =>
      exact ⟨[], h.unread_eq.symm, Nat.zero_le _, fun _ _ => rfl, fun _ _ _ _ _ => rfl, False.elim⟩
    | stopped h hshort hunread =>
      rw [Call.replyLength_exchange, hlength] at hshort
      refine ⟨_, hunread, Nat.le_of_lt hshort, nofun, ?_, ?_⟩
      · rintro _ _ fault ⟨⟩ hfault
        exact absurd hfault (by rw [Call.frame, h.send_eq]; nofun)
      · exact fun hc => absurd hc (not_complete_unanswered call _)
    | answered h hle hunread =>
      rw [Call.replyLength_exchange, hlength] at hle hunread
      refine ⟨_, hunread, List.length_take_le _ _, nofun, ?_, ?_⟩
      · rintro _ _ fault ⟨⟩ hfault
        exact absurd hfault (by rw [Call.frame, h.send_eq]; nofun)
      · exact fun _ => List.length_take_of_le hle

end Step

/-- A session cuts what was delivered into what its steps take, in order, and what is left. -/
theorem consumes_visits (steps : List Step) (line : SerialLine) :
    ∃ takens, List.Forall₂ Visit.Consumes (visits steps line) takens ∧
      line.unread ++ steps.flatMap Step.fed =
        takens.flatten ++ (afterSteps steps line).unread := by
  induction steps generalizing line with
  | nil => exact ⟨[], .nil, by simp [afterSteps]⟩
  | cons step steps ih =>
    obtain ⟨taken, htaken⟩ := step.consumes_visit line
    obtain ⟨takens, htakens, hrest⟩ := ih (step.visit line).after
    refine ⟨taken :: takens, .cons htaken htakens, ?_⟩
    -- The first step cuts its row off the line with its own feed; the other feeds stay behind it.
    have hfirst := htaken.contiguous
    rw [step.before_visit, SerialLine.unread_feed] at hfirst
    rw [List.flatMap_cons, Step.fed, ← List.append_assoc, hfirst, List.append_assoc, hrest,
      List.flatten_cons, List.append_assoc, afterSteps]

theorem length_flatten_of_complete {vs : List Visit} {takens : List (List UInt8)}
    (h : List.Forall₂ Visit.Consumes vs takens) (hc : ∀ visit ∈ vs, visit.ending.Complete) :
    takens.flatten.length = (vs.map fun visit => visit.request.replyLength).sum := by
  induction h with
  | nil => rfl
  | cons hfirst _ ih =>
    rw [List.flatten_cons, List.length_append, List.map_cons, List.sum_cons,
      hfirst.complete (hc _ List.mem_cons_self), ih fun visit hv => hc visit (.tail _ hv)]

theorem replyLength_visits (steps : List Step) (line : SerialLine) :
    ((visits steps line).map fun visit => visit.request.replyLength) =
      steps.map fun step => step.request.replyLength := by
  induction steps generalizing line with
  | nil => rfl
  | cons step steps ih =>
    rw [visits, List.map_cons, List.map_cons, step.request_visit, ih]

/-- **Synchronisation.** Whatever is fed between its steps and however it is cut into reads, a
session takes the delivered stream row by row: each step a row that it consumes, in order, and
nothing is skipped or read again.

So if every step ended with a complete reply, in success or with a bad response, then exactly as
many bytes are gone as there are in all the replies together. -/
theorem session_synchronised (steps : List Step) (line : SerialLine) :
    (∃ takens, List.Forall₂ Visit.Consumes (visits steps line) takens ∧
      line.unread ++ steps.flatMap Step.fed =
        takens.flatten ++ (afterSteps steps line).unread) ∧
    ((∀ visit ∈ visits steps line, visit.ending.Complete) →
      let delivered := line.unread ++ steps.flatMap Step.fed
      let total := (steps.map fun step => step.request.replyLength).sum
      total ≤ delivered.length ∧ (afterSteps steps line).unread = delivered.drop total) := by
  obtain ⟨takens, htakens, hstream⟩ := consumes_visits steps line
  refine ⟨⟨takens, htakens, hstream⟩, ?_⟩
  intro hcomplete delivered total
  have htotal : takens.flatten.length = total := by
    rw [length_flatten_of_complete htakens hcomplete, replyLength_visits]
  have hdelivered : delivered = takens.flatten ++ (afterSteps steps line).unread := hstream
  rw [hdelivered, ← htotal]
  exact ⟨by simp, List.drop_left.symm⟩

/-- Another unit answers first, in a read that runs into the next reply; the next step still reads
its own reply. -/
theorem session_synchronised_after_mismatch :
    let steps : List Step :=
      [⟨[.data [0x40, 6, 1, 0x40]], .readStatus 5⟩,
        ⟨[.fault ⟨.interrupted, "interrupted"⟩, .data [5, 0x33, 0x20]], .zoneOn 5 3⟩,
        ⟨[], .globalAllOff⟩]
    (∀ visit ∈ visits steps {}, visit.ending.Complete) ∧
      (afterSteps steps {}).unread = [0x20] := by
  intro steps
  have hcomplete : ∀ visit ∈ visits steps {}, visit.ending.Complete := by
    simp only [steps, visits, List.forall_mem_cons]
    exact ⟨trivial, trivial, trivial, List.forall_mem_nil _⟩
  exact ⟨hcomplete, ((session_synchronised steps {}).2 hcomplete).2⟩

end Irrigation
