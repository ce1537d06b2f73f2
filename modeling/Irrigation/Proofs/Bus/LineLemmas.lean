import Irrigation.Bus.Client

/-!
# Laws of serial lines

The scripts of a line read as what they amount to, and the operations of a line by that reading.

* `refusal`, `Takes`, `Flushes`: how many bytes writes take before a fault ends them; that they
  take a whole frame; that the next flush succeeds.
* `arriving`, `stopping`: the bytes that come before reads stop, and the fault that stops them.
* `Sent`, `sent_send`: the three ways in which a send ends.
* `readExactly_eq`: a read of so many bytes, by what arrives. Nothing that it takes is skipped.
* `Performed`, `performed_perform`: the three ways in which an exchange ends. Every law of a client
  is a case analysis on them.
-/

namespace Irrigation

namespace SerialLine

/-! ## Writes -/

/-- How many bytes writes take before a fault ends them, with that fault; `none` if no fault
does. -/
def refusal : List WriteEvent → Option (Nat × Fault)
  | [] => none
  | .accept 0 :: _ => some (0, .nothingWritten)
  | .accept (limit + 1) :: events =>
    (refusal events).map fun (taken, fault) => (limit + 1 + taken, fault)
  | .fault fault :: events =>
    if fault.kind = .interrupted then refusal events else some (0, fault)

/-- Writes take so many bytes before any fault. -/
def Takes (events : List WriteEvent) (length : Nat) : Prop :=
  ∀ taken fault, refusal events = some (taken, fault) → length ≤ taken

theorem takes_or_refusal (events : List WriteEvent) (length : Nat) :
    Takes events length ∨ ∃ taken fault, refusal events = some (taken, fault) ∧ taken < length := by
  unfold Takes
  rcases refusal events with _ | ⟨taken, fault⟩
  · exact .inl nofun
  · rcases Nat.lt_or_ge taken length with h | h
    · exact .inr ⟨taken, fault, rfl, h⟩
    · exact .inl fun _ _ e => by cases e; exact h

theorem offer_of_refusal {events : List WriteEvent} {bytes : List UInt8} {taken : Nat}
    {fault : Fault} (h : refusal events = some (taken, fault)) (hlt : taken < bytes.length) :
    (offer events bytes).1 = bytes.take taken ∧ (offer events bytes).2.2 = some fault := by
  fun_induction offer events bytes generalizing taken with
  | case1 => simp at hlt
  | case2 => simp [refusal] at h
  | case3 => simp_all [refusal]
  | case4 limit events b bytes taken' left fault' ho ih =>
    simp only [refusal, Option.map_eq_some_iff, Prod.mk.injEq, Prod.exists] at h
    obtain ⟨rest, fault, hr, rfl, rfl⟩ := h
    have hrest := ih hr (by simp at hlt ⊢; omega)
    rw [ho] at hrest
    obtain ⟨rfl, rfl⟩ := hrest
    refine ⟨?_, rfl⟩
    rw [List.take_add, List.take_succ_cons, List.drop_succ_cons]
  | case5 fault' events b bytes hf ih =>
    simp only [refusal, hf, ↓reduceIte] at h
    exact ih h hlt
  | case6 => simp_all [refusal]

theorem offer_of_takes {events : List WriteEvent} {bytes : List UInt8}
    (h : Takes events bytes.length) :
    (offer events bytes).1 = bytes ∧ (offer events bytes).2.2 = none := by
  fun_induction offer events bytes with
  | case1 => exact ⟨rfl, rfl⟩
  | case2 => exact ⟨rfl, rfl⟩
  | case3 => exact absurd (h 0 _ rfl) (by simp)
  | case4 limit events b bytes taken left fault ho ih =>
    have hrest := ih fun taken fault hr => by
      have := h (limit + 1 + taken) fault (by simp [refusal, hr])
      simp at this ⊢
      omega
    rw [ho] at hrest
    obtain ⟨rfl, rfl⟩ := hrest
    simp
  | case5 fault events b bytes hf ih =>
    exact ih fun taken fault' hr => h taken fault' (by simp [refusal, hf, hr])
  | case6 fault events b bytes hf =>
    exact absurd (h 0 fault (by simp [refusal, hf])) (by simp)

theorem writeAll_of_takes {bytes : List UInt8} {line : SerialLine}
    (h : Takes line.writes bytes.length) :
    ∃ writes, line.writeAll bytes =
      (.ok (), { line with writes, written := line.written ++ bytes }) := by
  obtain ⟨htaken, hfault⟩ := offer_of_takes h
  simp only [writeAll, htaken, hfault]
  exact ⟨_, rfl⟩

theorem writeAll_of_refusal {bytes : List UInt8} {line : SerialLine} {taken : Nat} {fault : Fault}
    (h : refusal line.writes = some (taken, fault)) (hlt : taken < bytes.length) :
    ∃ writes, line.writeAll bytes =
      (.error fault, { line with writes, written := line.written ++ bytes.take taken }) := by
  obtain ⟨htaken, hfault⟩ := offer_of_refusal h hlt
  simp only [writeAll, htaken, hfault]
  exact ⟨_, rfl⟩

/-! ## Flushes -/

/-- The next flush succeeds. -/
def Flushes (line : SerialLine) : Prop := ∀ fault, line.flushes.head? ≠ some (.fault fault)

theorem flush_of_flushes {line : SerialLine} (h : line.Flushes) :
    ∃ flushes, line.flush = (.ok (), { line with flushes, flushCount := line.flushCount + 1 }) := by
  simp only [flush]
  split
  · exact ⟨_, rfl⟩
  · exact ⟨_, rfl⟩
  · next fault events hf => exact absurd (by rw [hf]; rfl) (h fault)

theorem flush_of_fault {line : SerialLine} {fault : Fault}
    (h : line.flushes.head? = some (.fault fault)) :
    ∃ flushes, line.flush =
      (.error fault, { line with flushes, flushCount := line.flushCount + 1 }) := by
  obtain ⟨flushes, hf⟩ := List.head?_eq_some_iff.mp h
  simp only [flush, hf]
  exact ⟨_, rfl⟩

theorem flush_cases (line : SerialLine) :
    (line.Flushes ∧ ∃ flushes,
      line.flush = (.ok (), { line with flushes, flushCount := line.flushCount + 1 })) ∨
    ∃ fault flushes, line.flushes.head? = some (.fault fault) ∧
      line.flush = (.error fault, { line with flushes, flushCount := line.flushCount + 1 }) := by
  by_cases hf : ∃ fault, line.flushes.head? = some (.fault fault)
  · obtain ⟨fault, hf⟩ := hf
    obtain ⟨flushes, he⟩ := flush_of_fault hf
    exact .inr ⟨fault, flushes, hf, he⟩
  · have hf : line.Flushes := fun fault he => hf ⟨fault, he⟩
    exact .inl ⟨hf, flush_of_flushes hf⟩

/-! ## Sends -/

/-- How a send of a frame ends: with a part of the frame taken and no flush, with all of it taken
and a flush that fails, or with all of it taken and flushed. -/
inductive Sent (frame : List UInt8) (line : SerialLine) : Except Fault Unit → SerialLine → Prop
  | refused {taken : Nat} {fault : Fault} {writes : List WriteEvent} :
    refusal line.writes = some (taken, fault) → taken < frame.length →
    Sent frame line (.error fault)
      { line with writes, written := line.written ++ frame.take taken }
  | unflushed {fault : Fault} {writes : List WriteEvent} {flushes : List FlushEvent} :
    Takes line.writes frame.length → line.flushes.head? = some (.fault fault) →
    Sent frame line (.error fault)
      { line with
        writes, flushes, written := line.written ++ frame, flushCount := line.flushCount + 1 }
  | flushed {writes : List WriteEvent} {flushes : List FlushEvent} :
    Takes line.writes frame.length → line.Flushes →
    Sent frame line (.ok ())
      { line with
        writes, flushes, written := line.written ++ frame, flushCount := line.flushCount + 1 }

theorem sent_send (frame : List UInt8) (line : SerialLine) :
    Sent frame line (line.send frame).1 (line.send frame).2 := by
  unfold send
  rcases takes_or_refusal line.writes frame.length with h | ⟨taken, fault, h, hlt⟩
  · obtain ⟨writes, hw⟩ := writeAll_of_takes h
    simp only [hw]
    rcases flush_cases { line with writes, written := line.written ++ frame } with
      ⟨hf, flushes, he⟩ | ⟨fault, flushes, hf, he⟩
    · rw [he]
      exact .flushed h hf
    · rw [he]
      exact .unflushed h hf
  · obtain ⟨writes, hw⟩ := writeAll_of_refusal h hlt
    simp only [hw]
    exact .refused h hlt

/-- A send reads nothing. -/
theorem Sent.reads_eq {frame : List UInt8} {line sent : SerialLine} {result : Except Fault Unit}
    (h : Sent frame line result sent) : sent.reads = line.reads := by
  cases h <;> rfl

theorem Sent.eq_ok_iff {frame : List UInt8} {line sent : SerialLine} {result : Except Fault Unit}
    (h : Sent frame line result sent) :
    result = .ok () ↔ Takes line.writes frame.length ∧ line.Flushes := by
  cases h with
  | refused h hlt => exact ⟨nofun, fun ht => absurd (ht.1 _ _ h) (Nat.not_le.mpr hlt)⟩
  | unflushed ht hf => exact ⟨nofun, fun h => absurd hf (h.2 _)⟩
  | flushed ht hf => exact iff_of_true rfl ⟨ht, hf⟩

theorem send_eq_ok_iff {frame : List UInt8} {line : SerialLine} :
    (line.send frame).1 = .ok () ↔ Takes line.writes frame.length ∧ line.Flushes :=
  (sent_send frame line).eq_ok_iff

/-- A send that is known to have succeeded in one way succeeds in every way. -/
theorem Sent.send_eq {frame : List UInt8} {line sent : SerialLine}
    (h : Sent frame line (.ok ()) sent) : (line.send frame).1 = .ok () :=
  send_eq_ok_iff.mpr (h.eq_ok_iff.mp rfl)

/-- Over a line that takes the frame all of it goes out, flushed or not. -/
theorem Sent.written_eq {frame : List UInt8} {line sent : SerialLine} {result : Except Fault Unit}
    (h : Sent frame line result sent) (htakes : Takes line.writes frame.length) :
    sent.written = line.written ++ frame := by
  cases h with
  | refused h hlt => exact absurd (htakes _ _ h) (Nat.not_le.mpr hlt)
  | unflushed | flushed => rfl

/-! ## Reads -/

/-- The bytes that come before reads stop. -/
def arriving : List ReadEvent → List UInt8
  | [] => []
  | .data [] :: _ => []
  | .data (b :: bytes) :: events => b :: bytes ++ arriving events
  | .fault fault :: events => if fault.kind = .interrupted then arriving events else []

/-- The fault that stops reads. -/
def stopping : List ReadEvent → Fault
  | [] => .endOfStream
  | .data [] :: _ => .endOfStream
  | .data (_ :: _) :: events => stopping events
  | .fault fault :: events => if fault.kind = .interrupted then stopping events else fault

theorem collect_taken (events : List ReadEvent) (wanted : Nat) :
    (collect events wanted).1 = (arriving events).take wanted := by
  fun_induction collect events wanted with
  | case1 => rfl
  | case2 => rfl
  | case3 => rfl
  | case4 b bytes events wanted h =>
    rw [arriving, List.cons_append, List.take_succ_cons,
      List.take_append_of_le_length (Nat.le_of_lt h)]
  | case5 b bytes events wanted h taken left fault hc ih =>
    rw [hc] at ih
    simp only at ih
    subst ih
    simp only [arriving, List.cons_append, Nat.succ_eq_add_one, List.take_succ_cons,
      List.take_append, List.take_of_length_le (Nat.not_lt.mp h)]
  | case6 fault events wanted hf ih => rw [ih, arriving, if_pos hf]
  | case7 fault events wanted hf => rw [arriving, if_neg hf, List.take_nil]

theorem collect_fault (events : List ReadEvent) (wanted : Nat) :
    (collect events wanted).2.2 =
      if wanted ≤ (arriving events).length then none else some (stopping events) := by
  fun_induction collect events wanted with
  | case1 => simp
  | case2 => simp [arriving, stopping]
  | case3 => simp [arriving, stopping]
  | case4 b bytes events wanted h => simp [arriving]; omega
  | case5 b bytes events wanted h taken left fault hc ih =>
    rw [hc] at ih
    simp only at ih
    subst ih
    simp only [arriving, stopping, List.cons_append, List.length_cons, List.length_append,
      Nat.succ_eq_add_one, Nat.add_le_add_iff_right, Nat.sub_le_iff_le_add']
  | case6 fault events wanted hf ih => rw [ih, arriving, stopping, if_pos hf, if_pos hf]
  | case7 fault events wanted hf => simp [arriving, stopping, hf]

/-- What a read takes and what it leaves are together what there was, in order. -/
theorem collect_left (events : List ReadEvent) (wanted : Nat) :
    events.flatMap ReadEvent.bytes =
      (collect events wanted).1 ++ (collect events wanted).2.1.flatMap ReadEvent.bytes := by
  fun_induction collect events wanted with
  | case1 => simp
  | case2 => simp
  | case3 => simp [ReadEvent.bytes]
  | case4 b bytes events wanted h => simp [ReadEvent.bytes, ← List.append_assoc]
  | case5 b bytes events wanted h taken left fault hc ih =>
    rw [hc] at ih
    simp [ReadEvent.bytes, ih]
  | case6 fault events wanted hf ih => simp [ReadEvent.bytes, ih]
  | case7 fault events wanted hf => simp [ReadEvent.bytes]

theorem readExactly_eq (wanted : Nat) (line : SerialLine) :
    ∃ reads, line.unread = (arriving line.reads).take wanted ++ reads.flatMap ReadEvent.bytes ∧
      line.readExactly wanted =
        (if wanted ≤ (arriving line.reads).length then .ok ((arriving line.reads).take wanted)
          else .error (stopping line.reads), { line with reads }) := by
  refine ⟨(collect line.reads wanted).2.1, ?_, ?_⟩
  · rw [unread, collect_left line.reads wanted, collect_taken]
  · simp only [readExactly, collect_taken, collect_fault]
    by_cases h : wanted ≤ (arriving line.reads).length <;> simp only [h, ↓reduceIte]

/-! ## Exchanges -/

/-- How an exchange ends: with a frame that was not sent, with an answer that stopped too early,
or with an answer of full length. -/
inductive Performed {α : Type} (exchange : Exchange α) (line : SerialLine) :
    Except DeviceError α → SerialLine → Prop
  | unsent {fault : Fault} {sent : SerialLine} :
    Sent exchange.frame line (.error fault) sent →
    Performed exchange line (.error (.line fault.text)) sent
  | stopped {sent : SerialLine} {reads : List ReadEvent} :
    Sent exchange.frame line (.ok ()) sent →
    (arriving line.reads).length < exchange.replyLength →
    line.unread = arriving line.reads ++ reads.flatMap ReadEvent.bytes →
    Performed exchange line (.error (exchange.unanswered (stopping line.reads)))
      { sent with reads }
  | answered {sent : SerialLine} {reads : List ReadEvent} :
    Sent exchange.frame line (.ok ()) sent →
    exchange.replyLength ≤ (arriving line.reads).length →
    line.unread =
      (arriving line.reads).take exchange.replyLength ++ reads.flatMap ReadEvent.bytes →
    Performed exchange line
      (exchange.interpret ((arriving line.reads).take exchange.replyLength)) { sent with reads }

theorem performed_perform {α : Type} (exchange : Exchange α) (line : SerialLine) :
    Performed exchange line (line.perform exchange).1 (line.perform exchange).2 := by
  have hsent := sent_send exchange.frame line
  unfold perform
  generalize line.send exchange.frame = result at hsent ⊢
  obtain ⟨fault | _, sent⟩ := result
  · exact .unsent hsent
  · obtain ⟨reads, hunread, hread⟩ := readExactly_eq exchange.replyLength sent
    rw [unread, hsent.reads_eq] at hunread
    rw [hsent.reads_eq] at hread
    simp only [receive, hread]
    by_cases hle : exchange.replyLength ≤ (arriving line.reads).length
    · rw [if_pos hle]
      exact .answered hsent hle hunread
    · rw [if_neg hle]
      refine .stopped hsent (Nat.not_le.mp hle) ?_
      rwa [List.take_of_length_le (by omega)] at hunread

/-- An exchange over a line that takes its frame sends it, and nothing else. -/
theorem Performed.written_eq {α : Type} {exchange : Exchange α} {line after : SerialLine}
    {result : Except DeviceError α} (h : Performed exchange line result after)
    (htakes : Takes line.writes exchange.frame.length) :
    after.written = line.written ++ exchange.frame := by
  cases h with
  | unsent hsent | stopped hsent | answered hsent => exact hsent.written_eq htakes

/-- An exchange over a line that takes its frame and flushes sends it once. -/
theorem Performed.sends {α : Type} {exchange : Exchange α} {line after : SerialLine}
    {result : Except DeviceError α} (h : Performed exchange line result after)
    (htakes : Takes line.writes exchange.frame.length) (hflushes : line.Flushes) :
    after.written = line.written ++ exchange.frame ∧
      after.flushCount = line.flushCount + 1 := by
  refine ⟨h.written_eq htakes, ?_⟩
  cases h with
  | unsent hsent =>
    have := hsent.eq_ok_iff.mpr ⟨htakes, hflushes⟩
    contradiction
  | stopped hsent | answered hsent =>
    cases hsent with
    | flushed => rfl

end SerialLine

end Irrigation
