import Irrigation.Proofs.Bus.Call

/-!
# Which replies count as answers

Once the frame of a call is out, only what arrives decides. A stream that stops before the reply
is complete is silence or a fault of the line, by the kind of what stops it. A complete reply is an
answer exactly if it is the row of bytes that tells this answer, and otherwise a bad response.

* `reply_classified`: the outcome of every call by what arrives.
-/

namespace Irrigation

theorem Fault.isSilence_iff (fault : Fault) :
    fault.isSilence ↔ fault.kind ∈ [.timedOut, .wouldBlock, .unexpectedEof] := by
  obtain ⟨kind, text⟩ := fault
  cases kind <;> simp [isSilence]

/-- **Replies.** Let the frame of a call be sent, and let bytes arrive until the reply is complete
or the stream stops.

If the stream stops first, the call gives no response after a time-out, a read that would block or
the end of the stream, and a fault of the line after any other fault, whatever has arrived.

If the reply is complete, the call gives an answer exactly if the reply tells it, and a bad response
if the reply tells no answer. -/
theorem reply_classified (call : Call) (line : SerialLine)
    (hsent : (line.send call.frame).1 = .ok ()) :
    let result := (call.overLine line).1
    let arrived := SerialLine.arriving line.reads
    let stop := SerialLine.stopping line.reads
    let reply := arrived.take call.replyLength
    (arrived.length < call.replyLength →
      (stop.kind ∈ [.timedOut, .wouldBlock, .unexpectedEof] →
        result = .error (.noResponse call.target)) ∧
      (stop.kind ∉ [.timedOut, .wouldBlock, .unexpectedEof] →
        result = .error (.line stop.text))) ∧
    (call.replyLength ≤ arrived.length →
      (∀ answer, result = .ok answer ↔ reply = call.reply answer) ∧
      ((∀ answer, reply ≠ call.reply answer) →
        ∃ detail, result = .error (.badResponse call.target detail))) := by
  intro result arrived stop reply
  have hperformed : SerialLine.Performed call.exchange line result (call.overLine line).2 :=
    call.performed_overLine line
  generalize result = given, (call.overLine line).2 = after at hperformed
  cases hperformed with
  | unsent h =>
    have := (h.eq_ok_iff).mpr (SerialLine.send_eq_ok_iff.mp hsent)
    contradiction
  | stopped h hshort =>
    rw [Call.replyLength_exchange] at hshort
    refine ⟨fun _ => ?_, fun hle => absurd hshort (Nat.not_lt.mpr hle)⟩
    rw [← Fault.isSilence_iff, Exchange.unanswered, Call.target_exchange]
    constructor
    · intro hs
      rw [if_pos hs]
    · intro hs
      rw [if_neg hs]
  | answered h hle =>
    rw [Call.replyLength_exchange] at hle ⊢
    have hlength : reply.length = call.replyLength := by
      rw [List.length_take, Nat.min_eq_left hle]
    refine ⟨fun hshort => absurd hshort (Nat.not_lt.mpr hle), fun _ => ⟨fun answer => ?_, ?_⟩⟩
    · exact call.interpret_eq_ok_iff hlength answer
    · intro hnone
      rcases call.interpret_cases reply with ⟨answer, ha⟩ | hbad
      · exact absurd ((call.interpret_eq_ok_iff hlength answer).mp ha) (hnone answer)
      · exact hbad

/-- A frame taken in two parts and a reply in two parts, both interrupted: the mask is read, and
without its last byte the unit has not answered. -/
theorem reply_classified_in_parts :
    let call : Call := .readStatus ⟨5, by decide, by decide⟩
    let interrupted : Fault := ⟨.interrupted, "interrupted"⟩
    let line : SerialLine :=
      { reads := [.data [0x40], .fault interrupted, .data [5, 0x81, 0xFF]]
        writes := [.accept 2, .fault interrupted] }
    let short : SerialLine :=
      { reads := [.data [0x40], .fault interrupted, .data [5], .fault ⟨.timedOut, "timed out"⟩] }
    ((line.send call.frame).1 = .ok () ∧ (call.overLine line).1 = .ok ⟨0x81⟩) ∧
      (short.send call.frame).1 = .ok () ∧
        (call.overLine short).1 = .error (.noResponse "unit 5") := by
  intro call interrupted line short
  have hline : (line.send call.frame).1 = .ok () := rfl
  have hshort : (short.send call.frame).1 = .ok () := rfl
  have htarget : call.target = "unit 5" := by decide +kernel
  refine ⟨⟨hline, ?_⟩, hshort, ?_⟩
  · exact (((reply_classified call line hline).2 (by decide)).1 ⟨0x81⟩).mpr rfl
  · rw [← htarget]
    exact ((reply_classified call short hshort).1 (by decide)).1 (by decide)

end Irrigation
