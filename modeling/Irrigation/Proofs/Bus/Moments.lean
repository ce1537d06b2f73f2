import Irrigation.Proofs.Bus.Call

/-!
# Exchanges moment by moment

An exchange as a run of single uses of its line: one write, one flush or one read at a time. The
run says in which order things happen, which the end of an exchange alone does not tell.

* `SerialLine.writeOnce`, `SerialLine.readOnce`: one write and one read.
* `Progress`, `Exchange.advance`: where an exchange stands, and the next use of the line.
* `Moment`: the moments of an exchange. `moment_perform`: the last one is what the exchange gives.
* `Orderly`: what holds at each moment. `orderly_of_moment` carries it through the run.
* `sends_before_reading`: a call writes its frame once, flushes it once, and only then reads; a
  line that fails before that is never read.
-/

namespace Irrigation

namespace SerialLine

/-- One write: how many of the bytes the line takes. -/
def writeOnce (bytes : List UInt8) (line : SerialLine) : Except Fault Nat × SerialLine :=
  match line.writes with
  | [] => (.ok bytes.length, { line with written := line.written ++ bytes })
  | .accept limit :: writes =>
    (.ok (min limit bytes.length),
      { line with writes, written := line.written ++ bytes.take limit })
  | .fault fault :: writes => (.error fault, { line with writes })

/-- One read: the bytes that the line delivers, at most as many as wanted. -/
def readOnce (wanted : Nat) (line : SerialLine) : Except Fault (List UInt8) × SerialLine :=
  match line.reads with
  | [] => (.ok [], line)
  | .data bytes :: reads =>
    let left := if wanted < bytes.length then .data (bytes.drop wanted) :: reads else reads
    (.ok (bytes.take wanted), { line with reads := left })
  | .fault fault :: reads => (.error fault, { line with reads })

theorem writeOnce_cases (bytes : List UInt8) (line : SerialLine) :
    (∃ taken writes, line.writeOnce bytes =
      (.ok taken, { line with writes, written := line.written ++ bytes.take taken })) ∨
    ∃ fault writes, line.writeOnce bytes = (.error fault, { line with writes }) := by
  obtain ⟨reads, writes, flushes, written, flushCount⟩ := line
  match writes with
  | [] => exact .inl ⟨bytes.length, [], by rw [List.take_length]; rfl⟩
  | .accept limit :: writes =>
    exact .inl ⟨min limit bytes.length, writes, by rw [← List.take_eq_take_min]; rfl⟩
  | .fault fault :: writes => exact .inr ⟨fault, writes, rfl⟩

theorem readOnce_eq (wanted : Nat) (line : SerialLine) :
    ∃ result reads, line.readOnce wanted = (result, { line with reads }) := by
  obtain ⟨reads, writes, flushes, written, flushCount⟩ := line
  match reads with
  | [] => exact ⟨_, _, rfl⟩
  | .data bytes :: reads => exact ⟨_, _, rfl⟩
  | .fault fault :: reads => exact ⟨_, _, rfl⟩

end SerialLine

/-! ## Moments -/

/-- Where an exchange stands: which bytes it has still to write, that it is to flush, which bytes
it has read, or what it has given. -/
inductive Progress (α : Type)
  | writing (rest : List UInt8)
  | flushing
  | reading (got : List UInt8)
  | ended (result : Except DeviceError α)

namespace Exchange

variable {α : Type}

/-- Where an exchange stands after one write. -/
def afterWrite (rest : List UInt8) : Except Fault Nat → Progress α
  | .ok 0 => .ended (.error (.line Fault.nothingWritten.text))
  | .ok taken => .writing (rest.drop taken)
  | .error fault =>
    if fault.kind = .interrupted then .writing rest else .ended (.error (.line fault.text))

/-- Where an exchange stands after its flush. -/
def afterFlush : Except Fault Unit → Progress α
  | .ok () => .reading []
  | .error fault => .ended (.error (.line fault.text))

/-- Where an exchange stands after one read. -/
def afterRead (exchange : Exchange α) (got : List UInt8) :
    Except Fault (List UInt8) → Progress α
  | .ok [] => .ended (.error (exchange.unanswered .endOfStream))
  | .ok bytes => .reading (got ++ bytes)
  | .error fault =>
    if fault.kind = .interrupted then .reading got
    else .ended (.error (exchange.unanswered fault))

/-- The next use of the line. -/
def advance (exchange : Exchange α) : Progress α × SerialLine → Progress α × SerialLine
  | (.writing [], line) => (.flushing, line)
  | (.writing (b :: rest), line) =>
    let (result, line) := line.writeOnce (b :: rest)
    (afterWrite (b :: rest) result, line)
  | (.flushing, line) =>
    let (result, line) := line.flush
    (afterFlush result, line)
  | (.reading got, line) =>
    if exchange.replyLength ≤ got.length then (.ended (exchange.interpret got), line)
    else
      let (result, line) := line.readOnce (exchange.replyLength - got.length)
      (exchange.afterRead got result, line)
  | (.ended result, line) => (.ended result, line)

variable {exchange : Exchange α} {got : List UInt8}

theorem advance_reading {wanted : Nat} (line : SerialLine)
    (h : exchange.replyLength = got.length + (wanted + 1)) :
    exchange.advance (.reading got, line) =
      (exchange.afterRead got (line.readOnce (wanted + 1)).1,
        (line.readOnce (wanted + 1)).2) := by
  have hmore : ¬exchange.replyLength ≤ got.length := by omega
  have hwanted : exchange.replyLength - got.length = wanted + 1 := by omega
  simp only [advance, hmore, ↓reduceIte, hwanted]

theorem advance_reading_full (line : SerialLine) (h : exchange.replyLength = got.length) :
    exchange.advance (.reading got, line) = (.ended (exchange.interpret got), line) := by
  simp only [advance, h, Nat.le_refl, ↓reduceIte]

end Exchange

/-- The moments of an exchange from one of them on. -/
inductive Moment {α : Type} (exchange : Exchange α) (start : Progress α × SerialLine) :
    Progress α × SerialLine → Prop
  | start : Moment exchange start start
  | next {now : Progress α × SerialLine} :
    Moment exchange start now → Moment exchange start (exchange.advance now)

variable {α : Type} {exchange : Exchange α} {start now later : Progress α × SerialLine}

theorem Moment.trans (h : Moment exchange start now) (h' : Moment exchange now later) :
    Moment exchange start later := by
  induction h' with
  | start => exact h
  | next _ ih => exact .next ih

/-- The moments behind the next use of the line. -/
theorem Moment.of_advance (h : Moment exchange (exchange.advance start) now) :
    Moment exchange start now :=
  Moment.trans (.next .start) h

theorem Moment.eq_or_advance (h : Moment exchange start now) :
    now = start ∨ Moment exchange (exchange.advance start) now := by
  induction h with
  | start => exact .inl rfl
  | next _ ih =>
    rcases ih with rfl | ih
    · exact .inr .start
    · exact .inr (.next ih)

/-- Nothing happens once an exchange is over. -/
theorem Moment.eq_of_ended {result : Except DeviceError α} {line : SerialLine}
    (h : Moment exchange (.ended result, line) now) : now = (.ended result, line) := by
  induction h with
  | start => rfl
  | next _ ih =>
    subst ih
    rfl

/-- An exchange that comes to an end does so from each of its moments. -/
theorem Moment.ends {result : Except DeviceError α} {line : SerialLine}
    (hnow : Moment exchange start now) (h : Moment exchange start (.ended result, line)) :
    Moment exchange now (.ended result, line) := by
  induction hnow with
  | start => exact h
  | next _ ih =>
    rcases ih.eq_or_advance with rfl | hnext
    · exact .start
    · exact hnext

/-! ## The end of an exchange -/

namespace Exchange

/-- Where an exchange stands after all its writes. -/
def afterWriteAll : Except Fault Unit → Progress α
  | .ok () => .flushing
  | .error fault => .ended (.error (.line fault.text))

/-- Where an exchange stands after all its reads. -/
def afterReadExactly (exchange : Exchange α) (got : List UInt8) :
    Except Fault (List UInt8) → Progress α
  | .ok bytes => .ended (exchange.interpret (got ++ bytes))
  | .error fault => .ended (.error (exchange.unanswered fault))

end Exchange

open Exchange

theorem moment_writeAll (exchange : Exchange α) (bytes : List UInt8) (line : SerialLine) :
    Moment exchange (.writing bytes, line)
      (afterWriteAll (line.writeAll bytes).1, (line.writeAll bytes).2) := by
  -- One use of the line for each event that the offer meets, behind what was written before.
  obtain ⟨reads, writes, flushes, written, flushCount⟩ := line
  simp only [SerialLine.writeAll]
  fun_induction SerialLine.offer writes bytes generalizing written with
  | case1 events =>
    rw [List.append_nil]
    exact .next .start
  | case2 bytes hne =>
    obtain ⟨b, rest, rfl⟩ := List.exists_cons_of_ne_nil hne
    have hdrop : (b :: rest).drop (b :: rest).length = [] := List.drop_length
    refine .of_advance (.of_advance ?_)
    simp only [advance, SerialLine.writeOnce, afterWrite, List.length_cons] at hdrop ⊢
    rw [hdrop]
    exact .start
  | case3 => exact .next .start
  | case4 limit events b bytes taken left fault ho ih =>
    rw [ho] at ih
    have hrest := ih (written ++ b :: bytes.take limit)
    rw [List.append_assoc] at hrest
    have hdrop : (b :: bytes).drop (min (limit + 1) (b :: bytes).length) = bytes.drop limit := by
      rw [← List.drop_eq_drop_min, List.drop_succ_cons]
    refine .of_advance ?_
    simp only [advance, SerialLine.writeOnce, afterWrite, List.length_cons,
      Nat.succ_min_succ] at hdrop ⊢
    rw [hdrop]
    exact hrest
  | case5 fault events b bytes hf ih =>
    refine .of_advance ?_
    simp only [advance, SerialLine.writeOnce, afterWrite, hf, ↓reduceIte]
    exact ih written
  | case6 fault events b bytes hf =>
    refine .of_advance ?_
    simp only [advance, SerialLine.writeOnce, afterWrite, hf, ↓reduceIte, List.append_nil]
    exact .start

theorem moment_readExactly {exchange : Exchange α} {got : List UInt8} {wanted : Nat}
    (line : SerialLine) (h : exchange.replyLength = got.length + wanted) :
    Moment exchange (.reading got, line)
      (exchange.afterReadExactly got (line.readExactly wanted).1,
        (line.readExactly wanted).2) := by
  -- One use of the line for each event that is collected; the bytes read so far grow with them.
  obtain ⟨reads, writes, flushes, written, flushCount⟩ := line
  simp only [SerialLine.readExactly]
  fun_induction SerialLine.collect reads wanted generalizing got with
  | case1 events =>
    refine .of_advance ?_
    rw [advance_reading_full _ h, afterReadExactly, List.append_nil]
    exact .start
  | case2 wanted =>
    refine .of_advance ?_
    rw [advance_reading _ h]
    exact .start
  | case3 events wanted =>
    refine .of_advance ?_
    rw [advance_reading _ h]
    exact .start
  | case4 b bytes events wanted hlt =>
    refine .of_advance (.of_advance ?_)
    rw [advance_reading _ h]
    simp only [SerialLine.readOnce, List.take_succ_cons, List.length_cons,
      Nat.add_lt_add_iff_right, hlt, ↓reduceIte, List.drop_succ_cons, afterRead]
    rw [advance_reading_full]
    · exact .start
    · simp
      omega
  | case5 b bytes events wanted hge taken left fault hc ih =>
    rw [hc] at ih
    have hrest := @ih (got ++ b :: bytes) (by simp; omega)
    refine .of_advance ?_
    rw [advance_reading _ h]
    simp only [SerialLine.readOnce, List.take_succ_cons, List.length_cons,
      Nat.add_lt_add_iff_right, hge, ↓reduceIte, afterRead,
      List.take_of_length_le (Nat.not_lt.mp hge)]
    cases fault with
    | none =>
      simp only [afterReadExactly, List.append_assoc] at hrest ⊢
      exact hrest
    | some fault => exact hrest
  | case6 fault events wanted hf ih =>
    refine .of_advance ?_
    rw [advance_reading _ h]
    simp only [SerialLine.readOnce, afterRead, hf, ↓reduceIte]
    exact ih h
  | case7 fault events wanted hf =>
    refine .of_advance ?_
    rw [advance_reading _ h]
    simp only [SerialLine.readOnce, afterRead, hf, ↓reduceIte]
    exact .start

/-- The result of an exchange and its line are the last moment of the exchange. -/
theorem moment_perform (exchange : Exchange α) (line : SerialLine) :
    Moment exchange (.writing exchange.frame, line)
      (.ended (line.perform exchange).1, (line.perform exchange).2) := by
  have hwrite := moment_writeAll exchange exchange.frame line
  unfold SerialLine.perform SerialLine.send
  generalize line.writeAll exchange.frame = written at hwrite ⊢
  obtain ⟨fault | _, line⟩ := written
  · exact hwrite
  refine hwrite.trans (.of_advance ?_)
  simp only [afterWriteAll, advance]
  obtain ⟨fault | _, line⟩ := line.flush
  · exact .start
  have hread := @moment_readExactly α exchange [] exchange.replyLength line (Nat.zero_add _).symm
  simp only [SerialLine.receive]
  generalize line.readExactly exchange.replyLength = read at hread ⊢
  obtain ⟨fault | _, line⟩ := read
  · exact hread
  · exact hread

/-! ## Order -/

/-- What holds at the moments of an exchange over a line: how much of the frame is out, whether it
is flushed, and whether anything is read. -/
inductive Orderly (exchange : Exchange α) (line : SerialLine) : Progress α × SerialLine → Prop
  | writing {sent rest : List UInt8} {now : SerialLine} :
    sent ++ rest = exchange.frame → now.written = line.written ++ sent →
    now.flushCount = line.flushCount → now.flushes = line.flushes → now.reads = line.reads →
    Orderly exchange line (.writing rest, now)
  | refused {sent : List UInt8} {fault : Fault} {now : SerialLine} :
    sent <+: exchange.frame → now.written = line.written ++ sent →
    now.flushCount = line.flushCount → now.reads = line.reads →
    Orderly exchange line (.ended (.error (.line fault.text)), now)
  | flushing {now : SerialLine} :
    now.written = line.written ++ exchange.frame → now.flushCount = line.flushCount →
    now.flushes = line.flushes → now.reads = line.reads →
    Orderly exchange line (.flushing, now)
  | unflushed {fault : Fault} {now : SerialLine} :
    now.written = line.written ++ exchange.frame → now.flushCount = line.flushCount + 1 →
    now.reads = line.reads →
    Orderly exchange line (.ended (.error (.line fault.text)), now)
  | reading {got : List UInt8} {now : SerialLine} :
    now.written = line.written ++ exchange.frame → now.flushCount = line.flushCount + 1 →
    line.Flushes →
    Orderly exchange line (.reading got, now)
  | ended {result : Except DeviceError α} {now : SerialLine} :
    now.written = line.written ++ exchange.frame → now.flushCount = line.flushCount + 1 →
    line.Flushes →
    Orderly exchange line (.ended result, now)

theorem Orderly.advance {line : SerialLine} (h : Orderly exchange line now) :
    Orderly exchange line (exchange.advance now) := by
  cases h with
  | @writing sent rest now hsplit hwritten hcount hflushes hreads =>
    match rest with
    | [] =>
      rw [List.append_nil] at hsplit
      subst hsplit
      exact .flushing hwritten hcount hflushes hreads
    | b :: rest =>
      simp only [Exchange.advance]
      rcases now.writeOnce_cases (b :: rest) with ⟨taken, writes, hw⟩ | ⟨fault, writes, hw⟩
      · rw [hw]
        match taken with
        | 0 => exact .refused ⟨_, hsplit⟩ (by simpa using hwritten) hcount hreads
        | taken + 1 =>
          refine @Orderly.writing _ _ _ (sent ++ (b :: rest).take (taken + 1)) _ _ ?_ ?_
            hcount hflushes hreads
          · rw [List.append_assoc, List.take_append_drop, hsplit]
          · rw [← List.append_assoc, ← hwritten]
      · rw [hw]
        simp only [afterWrite]
        split
        · exact .writing hsplit hwritten hcount hflushes hreads
        · exact .refused ⟨_, hsplit⟩ hwritten hcount hreads
  | refused hsent hwritten hcount hreads => exact .refused hsent hwritten hcount hreads
  | @flushing now hwritten hcount hflushes hreads =>
    simp only [Exchange.advance]
    rcases now.flush_cases with ⟨hf, flushes, he⟩ | ⟨fault, flushes, hf, he⟩
    · have hf : line.Flushes := fun fault h => hf fault (hflushes ▸ h)
      rw [he]
      exact .reading hwritten (congrArg (· + 1) hcount) hf
    · rw [he]
      exact .unflushed hwritten (congrArg (· + 1) hcount) hreads
  | unflushed hwritten hcount hreads => exact .unflushed hwritten hcount hreads
  | @reading got now hwritten hcount hf =>
    simp only [Exchange.advance]
    split
    · exact .ended hwritten hcount hf
    · obtain ⟨result, reads, hr⟩ := now.readOnce_eq (exchange.replyLength - got.length)
      rw [hr]
      match result with
      | .ok [] => exact .ended hwritten hcount hf
      | .ok (b :: bytes) => exact .reading hwritten hcount hf
      | .error fault =>
        simp only [afterRead]
        split
        · exact .reading hwritten hcount hf
        · exact .ended hwritten hcount hf
  | ended hwritten hcount hf => exact .ended hwritten hcount hf

/-- Every moment of an exchange is orderly. -/
theorem orderly_of_moment {line : SerialLine}
    (h : Moment exchange (.writing exchange.frame, line) now) : Orderly exchange line now := by
  induction h with
  | start => exact @Orderly.writing _ _ _ [] _ _ rfl (List.append_nil _).symm rfl rfl rfl
  | next _ ih => exact ih.advance

/-! ## Sending before reading -/

/-- A write or the flush is about to fail at a moment. -/
inductive SendFails : Progress α × SerialLine → Fault → Prop
  | nothing {b : UInt8} {rest : List UInt8} {now : SerialLine} :
    now.writes.head? = some (.accept 0) → SendFails (.writing (b :: rest), now) .nothingWritten
  | write {b : UInt8} {rest : List UInt8} {now : SerialLine} {fault : Fault} :
    now.writes.head? = some (.fault fault) → fault.kind ≠ .interrupted →
    SendFails (.writing (b :: rest), now) fault
  | flush {now : SerialLine} {fault : Fault} :
    now.flushes.head? = some (.fault fault) → SendFails (.flushing, now) fault

/-- What a line has seen of a frame at a moment: a prefix of it, a flush at most once and only of
the whole frame, and no read before the flush has succeeded. -/
structure SendsFirst (frame : List UInt8) (line now : SerialLine) : Prop where
  written : ∃ sent, sent <+: frame ∧ now.written = line.written ++ sent
  flushed : now.flushCount = line.flushCount ∨
    now.flushCount = line.flushCount + 1 ∧ now.written = line.written ++ frame
  read : now.reads ≠ line.reads → now.flushCount = line.flushCount + 1 ∧ line.Flushes

theorem Orderly.sendsFirst {progress : Progress α} {line now : SerialLine}
    (h : Orderly exchange line (progress, now)) : SendsFirst exchange.frame line now := by
  cases h with
  | writing hsplit hwritten hcount _ hreads =>
    exact ⟨⟨_, ⟨_, hsplit⟩, hwritten⟩, .inl hcount, fun h => absurd hreads h⟩
  | refused hsent hwritten hcount hreads =>
    exact ⟨⟨_, hsent, hwritten⟩, .inl hcount, fun h => absurd hreads h⟩
  | flushing hwritten hcount _ hreads =>
    exact ⟨⟨_, List.prefix_rfl, hwritten⟩, .inl hcount, fun h => absurd hreads h⟩
  | unflushed hwritten hcount hreads =>
    exact ⟨⟨_, List.prefix_rfl, hwritten⟩, .inr ⟨hcount, hwritten⟩, fun h => absurd hreads h⟩
  | reading hwritten hcount hf | ended hwritten hcount hf =>
    exact ⟨⟨_, List.prefix_rfl, hwritten⟩, .inr ⟨hcount, hwritten⟩, fun _ => ⟨hcount, hf⟩⟩

/-- A send that fails ends the exchange, and nothing is read. -/
theorem SendFails.ended_advance {line : SerialLine} {fault : Fault} (h : SendFails now fault)
    (ho : Orderly exchange line now) :
    ∃ after, exchange.advance now = (.ended (.error (.line fault.text)), after) ∧
      after.reads = line.reads := by
  cases h with
  | nothing hw =>
    obtain ⟨writes, hw⟩ := List.head?_eq_some_iff.mp hw
    cases ho with
    | writing _ _ _ _ hreads =>
      simp only [advance, SerialLine.writeOnce, hw, afterWrite, Nat.zero_min]
      exact ⟨_, rfl, hreads⟩
  | write hw hf =>
    obtain ⟨writes, hw⟩ := List.head?_eq_some_iff.mp hw
    cases ho with
    | writing _ _ _ _ hreads =>
      simp only [advance, SerialLine.writeOnce, hw, afterWrite, hf, ↓reduceIte]
      exact ⟨_, rfl, hreads⟩
  | flush hf =>
    obtain ⟨flushes, hf⟩ := SerialLine.flush_of_fault hf
    cases ho with
    | flushing _ _ _ hreads =>
      simp only [advance, hf, afterFlush]
      exact ⟨_, rfl, hreads⟩

/-- **Sending before reading.** At each moment of a call over a line, the line has taken a prefix
of the frame of the call, it is flushed at most once and only with the whole frame taken, and
nothing is read before this flush has succeeded.

If a write or the flush fails at a moment, the call gives this fault of the line, and the reads are
untouched. So every answer, silence and bad response tells that the frame was written once and
flushed once. -/
theorem sends_before_reading (call : Call) (line : SerialLine) :
    let result := (call.overLine line).1
    let after := (call.overLine line).2
    (∀ progress now, Moment call.exchange (.writing call.frame, line) (progress, now) →
      SendsFirst call.frame line now) ∧
    Moment call.exchange (.writing call.frame, line) (.ended result, after) ∧
    (∀ now fault, Moment call.exchange (.writing call.frame, line) now → SendFails now fault →
      result = .error (.line fault.text) ∧ (DeviceError.line fault.text).status = 74 ∧
        after.reads = line.reads) ∧
    ((∀ reason, result ≠ .error (.line reason)) →
      after.written = line.written ++ call.frame ∧ after.flushCount = line.flushCount + 1) := by
  intro result after
  have hend : Moment call.exchange (.writing call.frame, line) (.ended result, after) := by
    unfold result after
    rw [call.overLine_eq]
    exact moment_perform call.exchange line
  refine ⟨fun progress now h => (orderly_of_moment h).sendsFirst, hend, ?_, ?_⟩
  · intro now fault hnow hfails
    -- The failure ends the exchange, and an exchange has only one end.
    obtain ⟨last, hlast, hreads⟩ := hfails.ended_advance (orderly_of_moment hnow)
    have hended := hnow.next.ends hend
    rw [hlast] at hended
    obtain ⟨hresult, hafter⟩ := Prod.mk.inj hended.eq_of_ended
    refine ⟨Progress.ended.inj hresult, rfl, ?_⟩
    rw [hafter, hreads]
  · intro hresult
    generalize result = given at hend hresult
    cases orderly_of_moment hend with
    | refused | unflushed => exact absurd rfl (hresult _)
    | ended hwritten hcount _ => exact ⟨hwritten, hcount⟩

/-- A write that times out after two bytes is a fault of the line, not silence, and the reply that
waits there is left alone. A call that meets no such fault has sent its frame. -/
theorem sends_before_reading_timed_out :
    let call : Call := .allOff ⟨5, by decide, by decide⟩
    let timedOut : Fault := ⟨.timedOut, "timed out"⟩
    let line : SerialLine :=
      { reads := [.data [0x40, 5, 0x55]], writes := [.accept 2, .fault timedOut] }
    let silent : SerialLine := { reads := [.fault timedOut], writes := [.accept 2] }
    ((call.overLine line).1 = .error (.line "timed out") ∧
      (call.overLine line).2.reads = line.reads ∧ (call.overLine line).2.written = [0x40, 5]) ∧
    (∀ reason, (call.overLine silent).1 ≠ .error (.line reason)) ∧
      (call.overLine silent).2.written = [0x40, 5, 0x55] := by
  intro call timedOut line silent
  have hfails : SendFails (call.exchange.advance (.writing call.frame, line)) timedOut :=
    .write rfl (by decide)
  obtain ⟨hresult, -, hreads⟩ := (sends_before_reading call line).2.2.1 _ _ (.next .start) hfails
  have hsilent : ∀ reason, (call.overLine silent).1 ≠ .error (.line reason) := nofun
  exact ⟨⟨hresult, hreads, rfl⟩, hsilent, ((sends_before_reading call silent).2.2.2 hsilent).1⟩

end Irrigation
