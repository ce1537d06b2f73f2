import Irrigation.Proofs.Requirements
import Irrigation.Proofs.Run
import Irrigation.Proofs.Timers.Canonical

/-!
# Timers that are read and written back

* `TimerList.listing`: the lines for the run times of the zones. `TimerList.lines_verbose`: this is
  what is reported of the timers where details are asked for.
* `overLine_readTimers_eq_ok`, `run_getTimers`: the timers of a unit are read from the bytes that
  arrive, and reported.
* `Options.validate_setTimers`, `Options.written_carryOut`: the operation that options with timers
  describe, and the bytes that go out for an operation.
* `timers_written_back`: the token that is printed for one unit writes the same timers to any other.
-/

namespace Irrigation

namespace TimerList

/-- The lines for the run times, from zone 1 to zone 8. -/
def listing (timers : TimerList) (colour : Bool) : List String :=
  List.ofFn fun i : Fin 8 =>
    "  zone " ++ decimal (i + 1) ++ ": " ++
      Style.cyan.paint colour (decimal timers.values[i].toNat)

theorem render_ofIndex (i : Fin 8) : (Zone.ofIndex i).render = decimal (i + 1) := by
  have hbyte : (Zone.ofIndex i).byte.toNat = i + 1 := by
    simp only [Zone.ofIndex, UInt8.toNat_ofNat']
    omega
  rw [Zone.render, hbyte]

/-- The zones with their run times, in order. -/
theorem entries_eq (timers : TimerList) :
    timers.entries = List.ofFn fun i : Fin 8 => (Zone.ofIndex i, timers.values[i]) := by
  apply List.ext_getElem
  · simp [entries, Zone.all]
  · intro i hi hi'
    simp only [entries, Zone.all, toList, List.getElem_zip, List.getElem_ofFn,
      Vector.getElem_toList, Fin.getElem_fin]

theorem lines_verbose (timers : TimerList) (colour : Bool) :
    (Report.timers timers).lines colour true = timers.listing colour := by
  simp only [Report.lines, if_true, entries_eq, List.map_ofFn, listing, Function.comp_def,
    render_ofIndex]

end TimerList

/-! ## Reading -/

/-- The timers of a unit are read where the query goes out and the reply that tells them arrives,
however the line cuts it. -/
theorem overLine_readTimers_eq_ok {unit : UnitId} {timers : TimerList} {line : SerialLine}
    (hsent : (line.send [0x40, unit.byte, 0xF1]).1 = .ok ())
    (hreply : [0x40, unit.byte, 0xF1] ++ timers.toList <+: SerialLine.arriving line.reads) :
    (Call.overLine (.readTimers unit) line).1 = .ok timers := by
  have hvalues : TimerList.ofValues timers.values = .ok timers :=
    TimerList.ofValues_eq_ok_iff.mpr rfl
  rw [Call.overLine_readTimers hsent hreply, hvalues]
  rfl

/-- A run that reads the timers of a unit reports them. -/
theorem run_getTimers {unit : UnitId} {timers : TimerList} {line : SerialLine}
    (hsent : (line.send [0x40, unit.byte, 0xF1]).1 = .ok ())
    (hreply : [0x40, unit.byte, 0xF1] ++ timers.toList <+: SerialLine.arriving line.reads)
    (journal : Journal) (colour verbose : Bool) :
    (((Operation.getTimers unit).run SerialLine.client journal colour verbose).run line).1 =
      (Outcome.succeeded (.timers timers)).ending journal colour verbose (.getTimers unit) := by
  have hresult : ((Operation.getTimers unit).call.overLine line).1 = .ok timers :=
    overLine_readTimers_eq_ok hsent hreply
  exact Operation.run_of_answer hresult journal colour verbose

/-! ## Writing -/

namespace Options

variable {options : Options} {unit : UnitId} {timers : TimerList}

theorem validate_setTimers (hmeans : options.Means .setTimers)
    (hunit : options.unit = some unit.number) (htimers : options.timers = some timers) :
    options.validate = .ok (.setTimers unit timers) := by
  have hcommand := readCommand_eq_ok_iff_means.mpr hmeans
  refine validate_eq_ok_iff.mpr ⟨.setTimers, some unit, none, some timers, hcommand, ?_⟩
  exact ⟨⟨unit, hunit, rfl⟩, rfl, ⟨timers, htimers, rfl⟩, rfl⟩

/-- The bytes that go out for an operation over a line that takes its frame, flushed or not. -/
theorem written_carryOut {operation : Operation} (h : options.validate = .ok operation)
    (journal : Journal) (colour : Bool) {line : SerialLine}
    (htakes : SerialLine.Takes line.writes operation.frame.length) :
    ((options.carryOut SerialLine.client journal colour).run line).2.written =
      line.written ++ operation.frame := by
  rw [run_carryOut h]
  exact Operation.written_overLine htakes

end Options

/-- **Timers are written back as they were read.** Let a unit be asked for its timers over a line on
which the query goes out and the reply arrives, in whatever pieces and with whatever behind it.

Without details and without a journal the run succeeds and prints one line, a token that is read as
the timers of the unit. Options that name the command to write timers, with any unit and with the
timers that were read from the token, describe the operation that writes them to this unit; over any
line that takes the frame exactly the header and the same eight bytes go out in the same order.

With details the run succeeds and lists the same values for the zones from 1 to 8, between the
lines of the journal. -/
theorem timers_written_back (unit : UnitId) (timers : TimerList) (line : SerialLine) (colour : Bool)
    (hsent : (line.send [0x40, unit.byte, 0xF1]).1 = .ok ())
    (hreply : [0x40, unit.byte, 0xF1] ++ timers.toList <+: SerialLine.arriving line.reads) :
    (∀ journal : Journal, journal.verbosity = 0 →
      let ending :=
        (((Operation.getTimers unit).run SerialLine.client journal colour false).run line).1
      ending.status = 0 ∧ ∃ token, ending.printout = ⟨token ++ "\n", ""⟩ ∧
        TimerList.parse token = .ok timers ∧
        ∀ (target : UnitId) (options : Options) (journal : Journal) (colour : Bool)
          (port : SerialLine),
          options.Means .setTimers → options.unit = some target.number →
          options.timers = (TimerList.parse token).toOption →
          SerialLine.Takes port.writes 11 →
            options.validate = .ok (.setTimers target timers) ∧
            ((options.carryOut SerialLine.client journal colour).run port).2.written =
              port.written ++ ([0x40, target.byte, 0xF2] ++ timers.toList)) ∧
    ∀ journal : Journal,
      let ending :=
        (((Operation.getTimers unit).run SerialLine.client journal colour true).run line).1
      ending.status = 0 ∧ ending.printout =
        ⟨journal.beforeReport (.getTimers unit) (.succeeded (.timers timers)) ++
          String.join ((timers.listing colour).map (· ++ "\n")) ++
          (Style.green.paint colour "✓" ++ " SUCCESS\n") ++
          journal.afterReport (.getTimers unit), ""⟩ := by
  constructor
  · intro journal hsilent ending
    have hending : ending = _ := run_getTimers hsent hreply journal colour false
    have hstatus : ending.status = 0 := by
      rw [hending]
      rfl
    have hprintout : ending.printout = ⟨timers.render ++ "\n", ""⟩ := by
      rw [hending, Outcome.printout_ending, Journal.beforeReport_of_silent hsilent,
        Journal.afterReport_of_silent hsilent]
      simp [Outcome.printout, Printout.lines, Report.lines, String.join]
    refine ⟨hstatus, timers.render, hprintout, timers.parse_render, ?_⟩
    intro target options journal' colour' port hmeans hunit htimers htakes
    -- The token is the canonical one, so that the timers read from it are known.
    rw [timers.parse_render] at htimers
    have hvalidate := Options.validate_setTimers hmeans hunit htimers
    have hlength : (Operation.setTimers target timers).frame.length = 11 := by
      simp [Operation.frame, Exchange.writeTimers, Exchange.header]
    refine ⟨hvalidate, ?_⟩
    exact Options.written_carryOut hvalidate journal' colour' (hlength ▸ htakes)
  · intro journal ending
    have hending : ending = _ := run_getTimers hsent hreply journal colour true
    have hstatus : ending.status = 0 := by
      rw [hending]
      rfl
    refine ⟨hstatus, ?_⟩
    rw [hending, Outcome.printout_ending]
    simp [Outcome.printout, Printout.lines, timers.lines_verbose, String.append_assoc]

/-- The reply comes in three pieces, one of them after an interruption, with a byte behind it; the
token goes to another unit over a line that takes one byte at first. -/
theorem timers_written_back_in_pieces :
    let timers : TimerList := ⟨#v[10, 20, 30, 1, 100, 255, 9, 40], by decide⟩
    let unit : UnitId := ⟨5, by decide, by decide⟩
    let line : SerialLine :=
      { reads := [.data [0x40, 5], .fault ⟨.interrupted, "interrupted"⟩, .data [0xF1, 10, 20, 30],
          .data [1, 100, 255, 9, 40, 7]] }
    let options : Options := ⟨"/dev/ttyS0", some "SetTimers", some 254, none, some timers, false⟩
    let port : SerialLine := { writes := [.accept 1] }
    (∃ token, (((Operation.getTimers unit).run SerialLine.client .silent false false).run
        line).1.printout = ⟨token ++ "\n", ""⟩ ∧ TimerList.parse token = .ok timers) ∧
      ((options.carryOut SerialLine.client .silent false).run port).2.written =
        [0x40, 254, 0xF2, 10, 20, 30, 1, 100, 255, 9, 40] := by
  intro timers unit line options port
  have hsent : (line.send [0x40, unit.byte, 0xF1]).1 = .ok () := rfl
  have hreply : [0x40, unit.byte, 0xF1] ++ timers.toList <+: SerialLine.arriving line.reads :=
    ⟨[7], rfl⟩
  obtain ⟨hbackup, -⟩ := timers_written_back unit timers line false hsent hreply
  obtain ⟨-, token, hprintout, hparse, hrestore⟩ := hbackup .silent rfl
  have hmeans : options.Means .setTimers := Options.readCommand_eq_ok_iff_means.mp rfl
  have htimers : options.timers = (TimerList.parse token).toOption := by rw [hparse]; rfl
  have htakes : SerialLine.Takes port.writes 11 := nofun
  obtain ⟨-, hwritten⟩ := hrestore ⟨254, by decide, by decide⟩ options .silent false port hmeans rfl
    htimers htakes
  exact ⟨⟨token, hprintout, hparse⟩, hwritten⟩

end Irrigation
