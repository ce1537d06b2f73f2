import Irrigation.Proofs.Run
import Mathlib.Algebra.GroupWithZero.Nat

/-!
# Zone states

A unit is asked for the state of one zone or of all of them. The query and the reply are the same;
only the report differs.

* `sum_testBit`: the low bits of a number, each with its weight.
* `ZoneMask.sum_isOn`: the states of all zones, each with its weight, are the mask.
* `run_status`, `written_run_status`: a run over a line on which the query goes out and a mask
  arrives reports what the mask tells, and has sent the query.
* `newline_not_mem_zoneLine`: the state of a zone is one line.
* `zone_states_agree`: the report for all zones is the reports for each of them, one after the
  other, and their exit statuses are the bits of the mask.
-/

namespace Irrigation

/-! ## Bits -/

/-- The low bits of a number, each with its weight, add up to its remainder. -/
theorem sum_testBit (n width : Nat) :
    ((List.range width).map fun i => (n.testBit i).toNat * 2 ^ i).sum = n % 2 ^ width := by
  induction width with
  | zero => simp [Nat.mod_one]
  | succ width ih =>
    rw [List.range_succ, List.map_append, List.sum_append, ih, List.map_singleton,
      List.sum_singleton, Nat.toNat_testBit, Nat.mod_pow_succ, Nat.mul_comm]

theorem Zone.map_index_all : all.map index = List.range 8 := rfl

theorem Zone.exists_ofIndex (zone : Zone) : ∃ i, ofIndex i = zone := by
  obtain ⟨byte, hlow, hhigh⟩ := zone
  have hbyte : UInt8.ofNat (byte.toNat - 1 + 1) = byte := by
    rw [Nat.sub_add_cancel hlow, UInt8.ofNat_toNat]
  exact ⟨⟨byte.toNat - 1, by omega⟩, by simp only [ofIndex, hbyte]⟩

namespace ZoneMask

/-- The states of all zones, each with its weight, are the mask. -/
theorem sum_isOn (mask : ZoneMask) :
    (Zone.all.map fun zone => (mask.isOn zone).toNat * 2 ^ zone.index).sum = mask.bits.toNat := by
  have hlt : mask.bits.toNat < 2 ^ 8 := mask.bits.toNat_lt
  have hbits := sum_testBit mask.bits.toNat 8
  rw [← Zone.map_index_all, List.map_map, Nat.mod_eq_of_lt hlt] at hbits
  exact hbits

end ZoneMask

/-! ## Lines -/

/-- The state of a zone is one line. -/
theorem newline_not_mem_zoneLine (colour : Bool) (zone : Zone) (on : Bool) :
    '\n' ∉ (zoneLine colour zone on).toList := by
  have hall : ∀ (colour : Bool) (i : Fin 8) (on : Bool),
      '\n' ∉ (zoneLine colour (.ofIndex i) on).toList := by
    decide +kernel
  obtain ⟨i, rfl⟩ := zone.exists_ofIndex
  exact hall colour i on

/-! ## Runs -/

/-- A query for one zone ends with the bit of the zone. -/
theorem Outcome.status_zoneState (zone : Zone) (on : Bool) :
    (succeeded (.zoneState zone on)).status = on.toNat := by
  cases on <;> rfl

section

variable {unit : UnitId} {asked : Option Zone} {mask : UInt8} {line : SerialLine}

/-- A run that asks a unit for its states reports what the mask that arrives tells of them. -/
theorem run_status (hsent : (line.send [0x40, unit.byte, 0xF0]).1 = .ok ())
    (hreply : [0x40, unit.byte, mask] <+: SerialLine.arriving line.reads)
    (journal : Journal) (colour verbose : Bool) :
    (((Operation.status unit asked).run SerialLine.client journal colour verbose).run line).1 =
      (Outcome.succeeded (.ofMask asked ⟨mask⟩)).ending journal colour verbose
        (.status unit asked) := by
  have hanswer : (SerialLine.arriving line.reads).take 3 = [0x40, unit.byte, mask] :=
    (List.prefix_iff_eq_take.mp hreply).symm
  have hresult : ((Operation.status unit asked).call.overLine line).1 = .ok ⟨mask⟩ :=
    Call.overLine_eq_ok_iff.mpr ⟨hsent, hanswer⟩
  exact Operation.run_of_answer hresult journal colour verbose

/-- Without details and without a journal the report is all that is printed. -/
theorem printout_run_status (hsent : (line.send [0x40, unit.byte, 0xF0]).1 = .ok ())
    (hreply : [0x40, unit.byte, mask] <+: SerialLine.arriving line.reads)
    {journal : Journal} (hsilent : journal.verbosity = 0) (colour : Bool) :
    (((Operation.status unit asked).run SerialLine.client journal colour false).run
        line).1.printout =
      .lines ((Report.ofMask asked ⟨mask⟩).lines colour false) := by
  rw [run_status hsent hreply, Outcome.printout_ending, Journal.beforeReport_of_silent hsilent,
    Journal.afterReport_of_silent hsilent]
  simp [Outcome.printout, Printout.lines]

/-- A run that asks a unit for its states sends one query, whatever zone is asked for. -/
theorem written_run_status (hsent : (line.send [0x40, unit.byte, 0xF0]).1 = .ok ())
    (journal : Journal) (colour verbose : Bool) :
    (((Operation.status unit asked).run SerialLine.client journal colour verbose).run
        line).2.written = line.written ++ [0x40, unit.byte, 0xF0] := by
  obtain ⟨htakes, -⟩ := SerialLine.send_eq_ok_iff.mp hsent
  rw [Operation.run_client]
  exact Operation.written_overLine htakes

end

/-- **The state of each zone is its line in the report for all.** Let a unit be asked for its states
nine times, once for all zones and once for each of them, over lines on which the query goes out and
the same reply with a mask arrives, in whatever pieces. Neither details nor diagnostics are wanted.

The report for all zones ends with 0 and prints what the eight reports for the zones from 1 to 8
print, one after the other, and each of these is one line. They end with the bits of the mask. Each
of the nine runs sends the same three bytes. -/
theorem zone_states_agree (unit : UnitId) (mask : UInt8) (colour : Bool) (journal : Journal)
    (line : Option Zone → SerialLine) (hsilent : journal.verbosity = 0)
    (hsent : ∀ asked, ((line asked).send [0x40, unit.byte, 0xF0]).1 = .ok ())
    (hreply : ∀ asked, [0x40, unit.byte, mask] <+: SerialLine.arriving (line asked).reads) :
    let run asked :=
      ((Operation.status unit asked).run SerialLine.client journal colour false).run (line asked)
    Zone.all.map Zone.byte = [1, 2, 3, 4, 5, 6, 7, 8] ∧
    (run none).1.status = 0 ∧
    (run none).1.printout =
      ⟨String.join (Zone.all.map fun zone => (run (some zone)).1.printout.stdout), ""⟩ ∧
    (∀ zone, ∃ text, '\n' ∉ text.toList ∧ (run (some zone)).1.printout = ⟨text ++ "\n", ""⟩) ∧
    (∀ zone, (run (some zone)).1.status =
      (mask.toNat.testBit (zone.byte.toNat - 1)).toNat) ∧
    (Zone.all.map fun zone =>
      (run (some zone)).1.status * 2 ^ (zone.byte.toNat - 1)).sum = mask.toNat ∧
    ∀ asked, (run asked).2.written = (line asked).written ++ [0x40, unit.byte, 0xF0] := by
  intro run
  have hrun : ∀ asked, (run asked).1 = (Outcome.succeeded (.ofMask asked ⟨mask⟩)).ending journal
      colour false (.status unit asked) :=
    fun asked => run_status (hsent asked) (hreply asked) journal colour false
  have hprintout : ∀ asked, (run asked).1.printout =
      .lines ((Report.ofMask asked ⟨mask⟩).lines colour false) :=
    fun asked => printout_run_status (hsent asked) (hreply asked) hsilent colour
  have hzone : ∀ zone, (run (some zone)).1.printout =
      ⟨zoneLine colour zone (ZoneMask.isOn ⟨mask⟩ zone) ++ "\n", ""⟩ := by
    intro zone
    rw [hprintout]
    simp [Report.ofMask, Report.lines, Printout.lines, String.join]
  have hstatus : ∀ zone, (run (some zone)).1.status =
      (mask.toNat.testBit (zone.byte.toNat - 1)).toNat := by
    intro zone
    rw [hrun]
    exact Outcome.status_zoneState zone _
  refine ⟨rfl, ?_, ?_, ?_, hstatus, ?_, ?_⟩
  · rw [hrun]
    rfl
  · rw [hprintout]
    simp only [hzone, Report.ofMask, Report.lines, Printout.lines, List.map_map]
    rfl
  · intro zone
    exact ⟨_, newline_not_mem_zoneLine colour zone _, hzone zone⟩
  · simp only [hstatus]
    exact ZoneMask.sum_isOn ⟨mask⟩
  · exact fun asked => written_run_status (hsent asked) journal colour false

/-- Zones 1 and 8 of unit 5 are on. The reply comes in one piece where all zones are asked for, and
else in three, with an interruption between two of them. -/
theorem zone_states_agree_first_and_last :
    let unit : UnitId := ⟨5, by decide, by decide⟩
    let line : Option Zone → SerialLine
      | none => { reads := [.data [0x40, 5, 0x81]] }
      | some _ =>
        { reads := [.data [0x40], .data [5], .fault ⟨.interrupted, "interrupted"⟩, .data [0x81]] }
    let run asked :=
      ((Operation.status unit asked).run SerialLine.client .silent false false).run (line asked)
    (run none).1.status = 0 ∧
      (run (some (.ofIndex 0))).1.status = 1 ∧ (run (some (.ofIndex 1))).1.status = 0 ∧
      (run (some (.ofIndex 7))).1.status = 1 ∧
      (run none).1.printout.stdout =
        String.join (Zone.all.map fun zone => (run (some zone)).1.printout.stdout) ∧
      (run none).2.written = [0x40, 5, 0xF0] ∧
      (run (some (.ofIndex 7))).2.written = [0x40, 5, 0xF0] := by
  intro unit line run
  have hsent : ∀ asked, ((line asked).send [0x40, unit.byte, 0xF0]).1 = .ok () := by
    rintro (_ | _) <;> rfl
  have hreply : ∀ asked, [0x40, unit.byte, 0x81] <+: SerialLine.arriving (line asked).reads := by
    rintro (_ | _) <;> exact List.prefix_rfl
  obtain ⟨-, hall, hprintout, -, hstatus, -, hwritten⟩ :=
    zone_states_agree unit 0x81 false .silent line rfl hsent hreply
  exact ⟨hall, hstatus _, hstatus _, hstatus _, congrArg Printout.stdout hprintout, hwritten _,
    hwritten _⟩

end Irrigation
