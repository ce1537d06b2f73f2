import Irrigation.Proofs.Bus.Wire

/-!
# Exit status and output of a run

What the caller of one operation sees, told from the call and from what arrives.

* `Journal.note_of_silent`: at verbosity 0 the journal adds nothing to the output.
* `Outcome.printout_ending`: the report of a run stands between the lines of the journal.
* `Outcome.status_mem_iff`, `Outcome.stderr_eq_empty_iff`: success shows in the status, and only a
  failure shows on standard error.
* `Call.status_of_error`, `Operation.status_overLine_mem`: the statuses of a call that fails, and of
  all operations.
* `Operation.run_of_answer`: a run reports the answer to its call.
* `Operation.status_eq_one_iff`: only a zone that is on gives the status 1.
* `run_tells_outcome`: exit status and both streams of a run.
-/

namespace Irrigation

/-! ## The journal -/

namespace Journal

variable {journal : Journal}

theorem note_of_silent (h : journal.verbosity = 0) (record : Record) :
    journal.note record = "" := by
  have hthreshold : ¬record.kind.threshold ≤ journal.verbosity := by
    rw [h]
    cases record.kind <;> decide
  rw [note, if_neg hthreshold]

theorem beforeReport_of_silent (h : journal.verbosity = 0) (operation : Operation)
    (outcome : Outcome) : journal.beforeReport operation outcome = "" := by
  simp [beforeReport, note_of_silent h]

theorem afterReport_of_silent (h : journal.verbosity = 0) (operation : Operation) :
    journal.afterReport operation = "" :=
  note_of_silent h _

end Journal

/-! ## Outcomes -/

/-- No error has a status that answers a query. -/
theorem DeviceError.status_not_mem (error : DeviceError) : error.status ∉ [0, 1] := by
  cases error <;> simp [status, ExitStatus.noInput, ExitStatus.ioError, ExitStatus.unavailable,
    ExitStatus.protocol]

/-- The statuses of a call that fails. -/
theorem Call.status_of_error {call : Call} {line : SerialLine} {error : DeviceError}
    (h : (call.overLine line).1 = .error error) : error.status ∈ [69, 74, 76] := by
  rcases overLine_eq_error h with ⟨reason, rfl⟩ | rfl | ⟨detail, rfl⟩
  · have hstatus : (DeviceError.line reason).status = 74 := rfl
    simp [hstatus]
  · have hstatus : (DeviceError.noResponse call.target).status = 69 := rfl
    simp [hstatus]
  · have hstatus : (DeviceError.badResponse call.target detail).status = 76 := rfl
    simp [hstatus]

namespace Outcome

variable {outcome : Outcome}

theorem ofAnswer_eq_succeeded_iff {α : Type} {report : α → Report} {result : Except DeviceError α} :
    (∃ told, ofAnswer report result = .succeeded told) ↔ ∃ answer, result = .ok answer := by
  cases result <;> simp [ofAnswer]

theorem status_mem_iff : outcome.status ∈ [0, 1] ↔ ∃ report, outcome = .succeeded report := by
  cases outcome with
  | succeeded report =>
    have hstatus : (succeeded report).status ∈ [0, 1] := by
      unfold status
      split <;> simp_all [ExitStatus.ok, ExitStatus.zoneOn]
    exact iff_of_true hstatus ⟨report, rfl⟩
  | failed error => exact iff_of_false error.status_not_mem nofun

/-- Only an answer can give the status 1, since no error has it. -/
theorem status_ofAnswer_eq_one_iff {α : Type} {report : α → Report}
    {result : Except DeviceError α} :
    (ofAnswer report result).status = 1 ↔
      ∃ answer zone, result = .ok answer ∧ report answer = .zoneState zone true := by
  cases result with
  | ok answer =>
    have hstatus : (succeeded (report answer)).status = 1 ↔
        ∃ zone, report answer = .zoneState zone true := by
      unfold status
      split <;> simp_all [ExitStatus.ok, ExitStatus.zoneOn]
    simp [ofAnswer, hstatus]
  | error error =>
    have hne : error.status ≠ 1 := fun h => error.status_not_mem (by simp [h])
    exact iff_of_false hne nofun

/-- The report stands between the lines of the journal. -/
theorem printout_ending (journal : Journal) (colour verbose : Bool) (operation : Operation)
    (outcome : Outcome) :
    (outcome.ending journal colour verbose operation).printout =
      ⟨journal.beforeReport operation outcome ++ (outcome.printout colour verbose).stdout ++
        journal.afterReport operation, (outcome.printout colour verbose).stderr⟩ := by
  have hstderr : ("" : String) ++ (outcome.printout colour verbose).stderr ++ "" =
      (outcome.printout colour verbose).stderr := by simp
  exact congrArg (Printout.mk _) hstderr

theorem stderr_eq_empty_iff {colour verbose : Bool} :
    (outcome.printout colour verbose).stderr = "" ↔ ∃ report, outcome = .succeeded report := by
  cases outcome with
  | succeeded report => exact iff_of_true rfl ⟨report, rfl⟩
  | failed error =>
    have hne : (Printout.complaint
        (Style.red.paint colour "FAIL" ++ ": " ++ error.message)).stderr ≠ "" := by
      simp [Printout.complaint]
    exact iff_of_false hne nofun

end Outcome

/-- The statuses of an operation over a line. -/
theorem Operation.status_overLine_mem (operation : Operation) (line : SerialLine) :
    (operation.overLine line).1.status ∈ [0, 1, 69, 74, 76] := by
  rw [overLine_eq]
  cases hresult : (operation.call.overLine line).1 with
  | ok answer =>
    have hmem := Outcome.status_mem_iff.mpr ⟨operation.report answer, rfl⟩
    exact List.mem_append_left [69, 74, 76] hmem
  | error error =>
    have hmem := Call.status_of_error hresult
    exact List.mem_append_right [0, 1] hmem

/-- A run whose call is answered reports the answer. -/
theorem Operation.run_of_answer {operation : Operation} {line : SerialLine}
    {answer : operation.call.Answer} (h : (operation.call.overLine line).1 = .ok answer)
    (journal : Journal) (colour verbose : Bool) :
    ((operation.run SerialLine.client journal colour verbose).run line).1 =
      (Outcome.succeeded (operation.report answer)).ending journal colour verbose operation := by
  rw [run_client, h]
  rfl

/-! ## Zones that are on -/

/-- Of all outcomes only that of a query for one zone, with the bit of this zone set in the mask
that has arrived, gives the status 1. -/
theorem Operation.status_eq_one_iff {operation : Operation} {line : SerialLine} :
    (Outcome.ofAnswer operation.report (operation.call.overLine line).1).status = 1 ↔
      ∃ unit zone mask, operation = .status unit (some zone) ∧
        (line.send [0x40, unit.byte, 0xF0]).1 = .ok () ∧
        (SerialLine.arriving line.reads).take 3 = [0x40, unit.byte, mask] ∧
        mask.toNat.testBit (zone.byte.toNat - 1) := by
  rw [Outcome.status_ofAnswer_eq_one_iff]
  constructor
  · rintro ⟨answer, zone, hresult, hreport⟩
    obtain ⟨hsent, hreply⟩ := Call.overLine_eq_ok_iff.mp hresult
    cases operation with
    | status unit asked =>
      cases asked with
      | none => contradiction
      | some asked =>
        obtain ⟨rfl, hon⟩ : asked = zone ∧ answer.isOn asked = true := by
          simpa [report, Report.ofMask] using hreport
        exact ⟨unit, asked, answer.bits, rfl, hsent, hreply, hon⟩
    -- No other operation reports the state of a zone.
    | _ => contradiction
  · rintro ⟨unit, zone, mask, rfl, hsent, hreply, hon⟩
    have hresult : (Call.overLine (.readStatus unit) line).1 = .ok ⟨mask⟩ :=
      Call.overLine_eq_ok_iff.mpr ⟨hsent, hreply⟩
    have hreport : Report.ofMask (some zone) ⟨mask⟩ = .zoneState zone true :=
      congrArg (Report.zoneState zone) hon
    exact ⟨⟨mask⟩, zone, hresult, hreport⟩

/-- **Exit status and output of a run.** Let an operation be carried out and reported over any line.

It ends with 1 exactly if the state of a zone was asked for, the query was sent, and the three bytes
that arrived are its reply with a mask that has the bit of the zone set. It ends with 0 or 1 exactly
if the call succeeded.

A call that fails gives its own status, one of 69, 74 and 76. Then standard output holds the lines
of the journal alone, none at verbosity 0, and standard error the message of the error and no more.
Otherwise standard error is empty. -/
theorem run_tells_outcome (operation : Operation) (journal : Journal) (colour verbose : Bool)
    (line : SerialLine) :
    let ending := ((operation.run SerialLine.client journal colour verbose).run line).1
    let result := (operation.call.overLine line).1
    (ending.status = 1 ↔ ∃ unit zone mask, operation = .status unit (some zone) ∧
      (line.send [0x40, unit.byte, 0xF0]).1 = .ok () ∧
      (SerialLine.arriving line.reads).take 3 = [0x40, unit.byte, mask] ∧
      mask.toNat.testBit (zone.byte.toNat - 1)) ∧
    (ending.status ∈ [0, 1] ↔ ∃ answer, result = .ok answer) ∧
    (∀ error, result = .error error →
      ending.status = error.status ∧ error.status ∈ [69, 74, 76] ∧
      ending.printout.stdout = journal.beforeReport operation (.failed error) ++
        journal.afterReport operation ∧
      (journal.verbosity = 0 → ending.printout.stdout = "") ∧
      ending.printout.stderr =
        Style.red.paint colour "FAIL" ++ ": " ++ error.message ++ "\n") ∧
    (ending.printout.stderr = "" ↔ ending.status ∈ [0, 1]) := by
  intro ending result
  have hending : ending =
      (Outcome.ofAnswer operation.report result).ending journal colour verbose operation :=
    congrArg Prod.fst (operation.run_client journal colour verbose line)
  have hstatus : ending.status = (Outcome.ofAnswer operation.report result).status := by
    rw [hending]
    rfl
  have hprintout := Outcome.printout_ending journal colour verbose operation
    (Outcome.ofAnswer operation.report result)
  rw [← hending] at hprintout
  refine ⟨?_, ?_, ?_, ?_⟩
  · rw [hstatus]
    exact Operation.status_eq_one_iff
  · rw [hstatus, Outcome.status_mem_iff]
    exact Outcome.ofAnswer_eq_succeeded_iff
  · intro error herror
    rw [herror] at hstatus hprintout
    have hstdout : ending.printout.stdout =
        journal.beforeReport operation (.failed error) ++ journal.afterReport operation := by
      rw [hprintout]
      simp [Outcome.ofAnswer, Outcome.printout, Printout.complaint]
    refine ⟨hstatus, Call.status_of_error herror, hstdout, ?_, ?_⟩
    · intro hsilent
      rw [hstdout, journal.beforeReport_of_silent hsilent, journal.afterReport_of_silent hsilent]
      rfl
    · rw [hprintout]
      rfl
  · rw [hprintout, hstatus, Outcome.stderr_eq_empty_iff, Outcome.status_mem_iff]

/-- Zone 8 is on in the mask of unit 5; and the echo of another unit is no answer, whatever its
third byte. -/
theorem run_tells_outcome_zone_on :
    let operation : Operation := .status ⟨5, by decide, by decide⟩ (some ⟨8, by decide, by decide⟩)
    let line : SerialLine := { reads := [.data [0x40], .data [5, 0x80]] }
    let other : SerialLine := { reads := [.data [0x40, 6, 0x80]] }
    ((operation.run SerialLine.client .silent false false).run line).1.status = 1 ∧
      ((operation.run SerialLine.client .silent false false).run other).1.status = 76 ∧
      ((operation.run SerialLine.client .silent false false).run other).1.printout.stdout = "" := by
  intro operation line other
  obtain ⟨hon, -⟩ := run_tells_outcome operation .silent false false line
  obtain ⟨-, -, hfails, -⟩ := run_tells_outcome operation .silent false false other
  obtain ⟨hstatus, -, -, hsilent, -⟩ := hfails (.badResponse _ _) rfl
  exact ⟨hon.mpr ⟨_, _, 0x80, rfl, rfl, rfl, rfl⟩, hstatus, hsilent rfl⟩

end Irrigation
