import Irrigation.Proofs.Bus.Session

/-!
# Chunks and interruptions

How a line cuts the bytes that it delivers and takes, and how often it interrupts, does not matter.

* `ReadEvent.IsSmooth`, `WriteEvent.IsSmooth`, `SerialLine.Smooth`: a line that cuts and interrupts,
  but does not fail for so many calls. It stays smooth call by call (`Smooth.perform`).
* `SerialLine.whole`, `Step.whole`: the same bytes in one piece.
* `SerialLine.Alike`: lines with the same bytes to deliver that have seen the same.
* `perform_of_smooth`: what an exchange over a smooth line comes to, told from the bytes alone, so
  that alike lines cannot be told apart: `alike_perform`, and `alike_visits` for sessions.
* `chunking_irrelevant`: calls and sessions over a smooth line and over the line in one piece.
-/

namespace Irrigation

/-! ## Smooth lines -/

/-- The read brings one byte at least, or is interrupted. -/
def ReadEvent.IsSmooth : ReadEvent → Prop
  | .data bytes => bytes ≠ []
  | .fault cause => cause.kind = .interrupted

/-- The write takes one byte at least, or is interrupted. -/
def WriteEvent.IsSmooth : WriteEvent → Prop
  | .accept limit => 1 ≤ limit
  | .fault cause => cause.kind = .interrupted

instance : DecidablePred ReadEvent.IsSmooth
  | .data bytes => inferInstanceAs (Decidable (bytes ≠ []))
  | .fault cause => inferInstanceAs (Decidable (cause.kind = .interrupted))

instance : DecidablePred WriteEvent.IsSmooth
  | .accept limit => inferInstanceAs (Decidable (1 ≤ limit))
  | .fault cause => inferInstanceAs (Decidable (cause.kind = .interrupted))

namespace SerialLine

/-- All reads and writes of the line are smooth, and so many flushes succeed. -/
structure Smooth (calls : Nat) (line : SerialLine) : Prop where
  reads : ∀ event ∈ line.reads, event.IsSmooth
  writes : ∀ event ∈ line.writes, event.IsSmooth
  flushes : ∀ event ∈ line.flushes.take calls, event = .done

variable {calls : Nat} {line other : SerialLine}

theorem Smooth.of_succ (h : line.Smooth (calls + 1)) : line.Smooth calls where
  reads := h.reads
  writes := h.writes
  flushes event he := h.flushes event (List.take_subset_take_left _ (Nat.le_succ calls) he)

/-! ### What a smooth line does -/

theorem refusal_of_smooth {events : List WriteEvent} (h : ∀ event ∈ events, event.IsSmooth) :
    refusal events = none := by
  fun_induction refusal events with
  | case1 => rfl
  | case2 events => exact absurd (h (.accept 0) List.mem_cons_self) (Nat.not_succ_le_zero 0)
  | case3 limit events ih => rw [ih (List.forall_mem_of_forall_mem_cons h), Option.map_none]
  | case4 fault events hf ih => exact ih (List.forall_mem_of_forall_mem_cons h)
  | case5 fault events hf => exact absurd (h (.fault fault) List.mem_cons_self) hf

theorem Smooth.takes (h : line.Smooth calls) (length : Nat) : Takes line.writes length := by
  intro taken fault hr
  rw [refusal_of_smooth h.writes] at hr
  contradiction

theorem Smooth.flushes_next (h : line.Smooth (calls + 1)) : line.Flushes := by
  intro fault hf
  obtain ⟨flushes, hf⟩ := List.head?_eq_some_iff.mp hf
  have := h.flushes (.fault fault) (by rw [hf]; exact List.mem_cons_self)
  contradiction

theorem arriving_of_smooth {events : List ReadEvent} (h : ∀ event ∈ events, event.IsSmooth) :
    arriving events = events.flatMap ReadEvent.bytes := by
  fun_induction arriving events with
  | case1 => rfl
  | case2 events => exact absurd rfl (h (.data []) List.mem_cons_self)
  | case3 b bytes events ih => rw [ih (List.forall_mem_of_forall_mem_cons h)]; rfl
  | case4 fault events hf ih => exact ih (List.forall_mem_of_forall_mem_cons h)
  | case5 fault events hf => exact absurd (h (.fault fault) List.mem_cons_self) hf

theorem stopping_of_smooth {events : List ReadEvent} (h : ∀ event ∈ events, event.IsSmooth) :
    stopping events = .endOfStream := by
  fun_induction stopping events with
  | case1 => rfl
  | case2 events => rfl
  | case3 b bytes events ih => exact ih (List.forall_mem_of_forall_mem_cons h)
  | case4 fault events hf ih => exact ih (List.forall_mem_of_forall_mem_cons h)
  | case5 fault events hf => exact absurd (h (.fault fault) List.mem_cons_self) hf

/-! ### Smooth lines stay smooth -/

theorem offer_left_suffix (events : List WriteEvent) (bytes : List UInt8) :
    (offer events bytes).2.1 <:+ events := by
  fun_induction offer events bytes with
  | case1 => exact List.suffix_rfl
  | case2 => exact List.suffix_rfl
  | case3 events => exact List.suffix_cons _ _
  | case4 limit events b bytes taken left fault ho ih =>
    rw [ho] at ih
    exact ih.trans (List.suffix_cons _ _)
  | case5 fault events b bytes hf ih => exact ih.trans (List.suffix_cons _ _)
  | case6 fault events b bytes hf => exact List.suffix_cons _ _

/-- A read leaves events that it did not meet, and of the last one that it met what it did not
want. -/
theorem smooth_collect_left {events : List ReadEvent} (wanted : Nat)
    (h : ∀ event ∈ events, event.IsSmooth) :
    ∀ event ∈ (collect events wanted).2.1, event.IsSmooth := by
  fun_induction collect events wanted with
  | case1 => exact h
  | case2 => exact h
  | case3 events wanted => exact List.forall_mem_of_forall_mem_cons h
  | case4 b bytes events wanted hlt =>
    intro event he
    rcases List.mem_cons.mp he with rfl | he
    · exact fun hnil => absurd (List.drop_eq_nil_iff.mp hnil) (Nat.not_le.mpr hlt)
    · exact h event (.tail _ he)
  | case5 b bytes events wanted hge taken left fault hc ih =>
    rw [hc] at ih
    exact ih (List.forall_mem_of_forall_mem_cons h)
  | case6 fault events wanted hf ih => exact ih (List.forall_mem_of_forall_mem_cons h)
  | case7 fault events wanted hf => exact List.forall_mem_of_forall_mem_cons h

theorem Smooth.writeAll (h : line.Smooth calls) (bytes : List UInt8) :
    (line.writeAll bytes).2.Smooth calls where
  reads := h.reads
  writes event he := h.writes event ((offer_left_suffix line.writes bytes).subset he)
  flushes := h.flushes

theorem Smooth.flush (h : line.Smooth (calls + 1)) : line.flush.2.Smooth calls := by
  obtain ⟨reads, writes, flushes, written, flushCount⟩ := line
  match flushes with
  | [] => exact ⟨h.reads, h.writes, h.of_succ.flushes⟩
  | .done :: flushes => exact ⟨h.reads, h.writes, fun event he => h.flushes event (.tail _ he)⟩
  | .fault fault :: flushes =>
    exact ⟨h.reads, h.writes, fun event he => h.flushes event (.tail _ he)⟩

theorem Smooth.readExactly (h : line.Smooth calls) (wanted : Nat) :
    (line.readExactly wanted).2.Smooth calls where
  reads := smooth_collect_left wanted h.reads
  writes := h.writes
  flushes := h.flushes

theorem Smooth.perform {α : Type} (h : line.Smooth (calls + 1)) (exchange : Exchange α) :
    (line.perform exchange).2.Smooth calls := by
  have hwrite := h.writeAll exchange.frame
  unfold SerialLine.perform send
  generalize line.writeAll exchange.frame = written at hwrite ⊢
  obtain ⟨fault | _, line⟩ := written
  · exact hwrite.of_succ
  have hflush := hwrite.flush
  simp only
  generalize line.flush = flushed at hflush ⊢
  obtain ⟨fault | _, line⟩ := flushed
  · exact hflush
  have hread := hflush.readExactly exchange.replyLength
  simp only [receive]
  generalize line.readExactly exchange.replyLength = read at hread ⊢
  obtain ⟨fault | _, line⟩ := read
  · exact hread
  · exact hread

/-! ## Exchanges over smooth lines -/

/-- What an exchange makes of the bytes that a line has to deliver. -/
def answerOf {α : Type} (exchange : Exchange α) (unread : List UInt8) : Except DeviceError α :=
  if exchange.replyLength ≤ unread.length then
    exchange.interpret (unread.take exchange.replyLength)
  else .error (exchange.unanswered .endOfStream)

/-- Over a smooth line only the bytes decide: the frame goes out, flushed once, and the reply is
taken off what the line has to deliver. -/
theorem perform_of_smooth {α : Type} (exchange : Exchange α) (h : line.Smooth (calls + 1)) :
    (line.perform exchange).1 = answerOf exchange line.unread ∧
      (line.perform exchange).2.unread = line.unread.drop exchange.replyLength ∧
      (line.perform exchange).2.written = line.written ++ exchange.frame ∧
      (line.perform exchange).2.flushCount = line.flushCount + 1 := by
  have hsends := (performed_perform exchange line).sends (h.takes _) h.flushes_next
  have harriving : arriving line.reads = line.unread := arriving_of_smooth h.reads
  have hperformed := performed_perform exchange line
  generalize (line.perform exchange).1 = result, (line.perform exchange).2 = after
    at hsends hperformed ⊢
  cases hperformed with
  | unsent hsent =>
    have := hsent.eq_ok_iff.mpr ⟨h.takes _, h.flushes_next⟩
    contradiction
  | stopped hsent hshort hunread =>
    rw [harriving] at hshort hunread
    refine ⟨?_, ?_, hsends⟩
    · rw [stopping_of_smooth h.reads, answerOf, if_neg (Nat.not_le.mpr hshort)]
    · rw [List.drop_eq_nil_of_le (Nat.le_of_lt hshort)]
      exact List.self_eq_append_right.mp hunread
  | @answered sent reads hsent hle hunread =>
    rw [harriving] at hle hunread
    refine ⟨?_, ?_, hsends⟩
    · rw [harriving, answerOf, if_pos hle]
    · refine List.append_cancel_left (hunread.symm.trans ?_)
      exact (List.take_append_drop exchange.replyLength line.unread).symm

/-! ## Alike lines -/

/-- Two lines have the same bytes to deliver, have taken the same bytes, and have seen as many
flushes. -/
structure Alike (line other : SerialLine) : Prop where
  unread_eq : line.unread = other.unread
  written_eq : line.written = other.written
  flushCount_eq : line.flushCount = other.flushCount

/-- An exchange does not tell smooth lines apart that are alike. -/
theorem alike_perform {α : Type} (exchange : Exchange α) (hline : line.Smooth (calls + 1))
    (hother : other.Smooth (calls + 1)) (h : line.Alike other) :
    (line.perform exchange).1 = (other.perform exchange).1 ∧
      (line.perform exchange).2.Alike (other.perform exchange).2 := by
  obtain ⟨hresult, hunread, hwritten, hcount⟩ := perform_of_smooth exchange hline
  obtain ⟨hresult', hunread', hwritten', hcount'⟩ := perform_of_smooth exchange hother
  refine ⟨?_, ?_, ?_, ?_⟩
  · rw [hresult, hresult', h.unread_eq]
  · rw [hunread, hunread', h.unread_eq]
  · rw [hwritten, hwritten', h.written_eq]
  · rw [hcount, hcount', h.flushCount_eq]

/-- The events that bring some bytes in one read. No bytes need no event. -/
def chunk : List UInt8 → List ReadEvent
  | [] => []
  | b :: bytes => [.data (b :: bytes)]

theorem flatMap_bytes_chunk (bytes : List UInt8) :
    (chunk bytes).flatMap ReadEvent.bytes = bytes := by
  cases bytes with
  | nil => rfl
  | cons b bytes => exact List.append_nil _

theorem smooth_chunk (bytes : List UInt8) : ∀ event ∈ chunk bytes, event.IsSmooth := by
  cases bytes with
  | nil => exact List.forall_mem_nil _
  | cons b bytes => exact List.forall_mem_singleton.mpr (List.cons_ne_nil b bytes)

/-- The line in one piece: it delivers its bytes in one read and takes every write whole. -/
def whole (line : SerialLine) : SerialLine where
  reads := chunk line.unread
  written := line.written
  flushCount := line.flushCount

theorem alike_whole (line : SerialLine) : line.Alike line.whole :=
  ⟨(flatMap_bytes_chunk line.unread).symm, rfl, rfl⟩

theorem smooth_whole (calls : Nat) (line : SerialLine) : line.whole.Smooth calls where
  reads := smooth_chunk line.unread
  writes := List.forall_mem_nil _
  flushes := by
    rw [whole, List.take_nil]
    exact List.forall_mem_nil _

end SerialLine

/-! ## Sessions over smooth lines -/

/-- The step feeds smooth reads only. -/
def Step.Smooth (step : Step) : Prop := ∀ event ∈ step.feed, event.IsSmooth

/-- The step with its feed in one piece. -/
def Step.whole (step : Step) : Step := { step with feed := SerialLine.chunk step.fed }

/-- Two visits ask for the same, come to the same end, and leave alike lines. -/
structure Visit.Alike (visit other : Visit) : Prop where
  request_eq : visit.request = other.request
  ending_eq : visit.ending = other.ending
  before : visit.before.Alike other.before
  after : visit.after.Alike other.after

/-- Two steps ask for the same and feed the same bytes. -/
structure Step.Alike (step other : Step) : Prop where
  request_eq : step.request = other.request
  fed_eq : step.fed = other.fed

variable {calls : Nat} {line other : SerialLine}

theorem SerialLine.Smooth.feed (h : line.Smooth calls) {step : Step} (hstep : step.Smooth) :
    (line.feed step.feed).Smooth calls where
  reads event he := (List.mem_append.mp he).elim (h.reads event) (hstep event)
  writes := h.writes
  flushes := h.flushes

theorem SerialLine.Alike.feed (h : line.Alike other) {step step' : Step}
    (hsteps : step.Alike step') : (line.feed step.feed).Alike (other.feed step'.feed) where
  unread_eq := by
    rw [unread_feed, unread_feed, h.unread_eq]
    exact congrArg (other.unread ++ ·) hsteps.fed_eq
  written_eq := h.written_eq
  flushCount_eq := h.flushCount_eq

theorem Step.Smooth.visit {step : Step} (hstep : step.Smooth) (h : line.Smooth (calls + 1)) :
    (step.visit line).after.Smooth calls := by
  cases hcheck : step.request.check with
  | error error =>
    rw [step.visit_of_error line hcheck]
    exact (h.feed hstep).of_succ
  | ok call =>
    rw [step.visit_of_ok line hcheck, call.overLine_eq]
    exact (h.feed hstep).perform call.exchange

/-- A step does not tell smooth lines apart that are alike. -/
theorem alike_visit {step step' : Step} (hsteps : step.Alike step') (hstep : step.Smooth)
    (hstep' : step'.Smooth) (hline : line.Smooth (calls + 1)) (hother : other.Smooth (calls + 1))
    (h : line.Alike other) : (step.visit line).Alike (step'.visit other) := by
  have hbefore := h.feed hsteps
  cases hcheck : step.request.check with
  | error error =>
    rw [step.visit_of_error line hcheck, step'.visit_of_error other (hsteps.request_eq ▸ hcheck)]
    exact ⟨hsteps.request_eq, rfl, hbefore, hbefore⟩
  | ok call =>
    rw [step.visit_of_ok line hcheck, step'.visit_of_ok other (hsteps.request_eq ▸ hcheck),
      call.overLine_eq, call.overLine_eq]
    obtain ⟨hresult, hafter⟩ :=
      SerialLine.alike_perform call.exchange (hline.feed hstep) (hother.feed hstep') hbefore
    exact ⟨hsteps.request_eq, by rw [hresult], hbefore, hafter⟩

/-- Sessions that ask for the same and feed the same bytes do not tell smooth lines apart that are
alike. -/
theorem alike_visits {steps steps' : List Step} (hsteps : List.Forall₂ Step.Alike steps steps')
    (hsmooth : ∀ step ∈ steps, step.Smooth) (hsmooth' : ∀ step ∈ steps', step.Smooth)
    (hline : line.Smooth steps.length) (hother : other.Smooth steps.length)
    (h : line.Alike other) :
    List.Forall₂ Visit.Alike (visits steps line) (visits steps' other) := by
  induction hsteps generalizing line other with
  | nil => exact .nil
  | cons hfirst _ ih =>
    obtain ⟨hstep, hsmooth⟩ := List.forall_mem_cons.mp hsmooth
    obtain ⟨hstep', hsmooth'⟩ := List.forall_mem_cons.mp hsmooth'
    have hvisit := alike_visit hfirst hstep hstep' hline hother h
    have hother' := hstep'.visit hother
    exact .cons hvisit (ih hsmooth hsmooth' (hstep.visit hline) hother' hvisit.after)

theorem Step.alike_whole (step : Step) : step.Alike step.whole :=
  ⟨rfl, (SerialLine.flatMap_bytes_chunk step.fed).symm⟩

theorem alike_map_whole (steps : List Step) :
    List.Forall₂ Step.Alike steps (steps.map Step.whole) := by
  induction steps with
  | nil => exact .nil
  | cons step steps ih => exact .cons step.alike_whole ih

/-- **Chunking is irrelevant.** Let the reads of a line bring bytes or be interrupted, let its
writes take bytes or be interrupted, and let its flush succeed. Then a call gives the same as over
the line in one piece, and what has been written, how often it was flushed and what is still unread
are the same.

So it is step by step in a session, whatever smooth reads its steps feed, against the session that
feeds the same bytes in one piece. -/
theorem chunking_irrelevant :
    (∀ (call : Call) (line : SerialLine), line.Smooth 1 →
      (call.overLine line).1 = (call.overLine line.whole).1 ∧
        (call.overLine line).2.Alike (call.overLine line.whole).2) ∧
    (∀ (steps : List Step) (line : SerialLine), line.Smooth steps.length →
      (∀ step ∈ steps, step.Smooth) →
      List.Forall₂ Visit.Alike (visits steps line) (visits (steps.map Step.whole) line.whole)) := by
  constructor
  · intro call line h
    rw [call.overLine_eq, call.overLine_eq]
    exact SerialLine.alike_perform call.exchange h (line.smooth_whole 1) line.alike_whole
  · intro steps line h hsteps
    refine alike_visits (alike_map_whole steps) hsteps ?_ h (line.smooth_whole _) line.alike_whole
    intro step hstep
    obtain ⟨step, -, rfl⟩ := List.mem_map.mp hstep
    exact SerialLine.smooth_chunk step.fed

/-- A mask in two reads, and a session whose first reply ends in the middle of a read. -/
theorem chunking_irrelevant_across_steps :
    let interrupted : Fault := ⟨.interrupted, "interrupted"⟩
    let call : Call := .readStatus ⟨5, by decide, by decide⟩
    let line : SerialLine :=
      { reads := [.data [0x40], .fault interrupted, .data [5, 0x81, 0x40]]
        writes := [.accept 1, .fault interrupted, .accept 2]
        flushes := [.done, .done] }
    let steps : List Step :=
      [⟨[], .readStatus 5⟩, ⟨[.data [5], .fault interrupted, .data [0x33, 7]], .zoneOn 5 3⟩]
    ((call.overLine line).1 = .ok ⟨0x81⟩ ∧ (call.overLine line).2.unread = [0x40]) ∧
      List.Forall₂ Visit.Alike (visits steps line) (visits (steps.map Step.whole) line.whole) ∧
      (afterSteps (steps.map Step.whole) line.whole).unread = [7] := by
  intro interrupted call line steps
  have hline : line.Smooth 2 := ⟨by decide, by decide, by decide⟩
  have hsteps : ∀ step ∈ steps, step.Smooth := by
    simp only [steps, List.forall_mem_cons, Step.Smooth]
    decide
  obtain ⟨hresult, hafter⟩ := chunking_irrelevant.1 call line hline.of_succ
  have hsession := chunking_irrelevant.2 steps line hline hsteps
  refine ⟨⟨hresult.trans rfl, hafter.unread_eq.trans rfl⟩, hsession, rfl⟩

end Irrigation
