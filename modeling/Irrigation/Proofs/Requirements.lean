import Irrigation.Proofs.Parameters
import Irrigation.Proofs.Text.Letters

/-!
# Validation and the requirements

The requirements of the commands are a table, and validation follows it.

* `Options.Means`: the command that options name, up to the case of ASCII letters.
* `Options.Meets`, `Options.Describes`: options meet every requirement of a command; an operation
  has exactly what they keep.
* `Check`, `Options.Violates`, `Options.FirstViolation`: the four checks in order, and their errors.
* `Options.checked`: the parameters that the checks let through. They are enough for an operation:
  `exists_operation_of_checked`.
* `Options.SameOnUse`: options that differ only in what their command does not use.
* `validation_follows_requirements`: which options are accepted, as what, and with which error all
  others are refused.
-/

namespace Irrigation

/-! ## Accepted options -/

namespace Command

/-- Keywords are written in lower case. -/
theorem map_toLower_keyword (command : Command) :
    command.keyword.toList.map Char.toLower = command.keyword.toList := by
  cases command <;> decide

theorem sameUpToCase_keyword_iff {text : String} {command : Command} :
    SameUpToCase text command.keyword ↔ ofKeyword? text = some command := by
  rw [sameUpToCase_iff, map_toLower_keyword, ofKeyword?_eq_some_iff, eq_comm]

end Command
namespace Options

variable {options : Options} {command other : Command}

/-- The options name the command, up to the case of ASCII letters. -/
def Means (options : Options) (command : Command) : Prop :=
  ∃ text, options.command = some text ∧ SameUpToCase text command.keyword

/-- The options name the command and meet its requirements. -/
structure Meets (options : Options) (command : Command) : Prop where
  means : options.Means command
  unit : command.requirements.unit.Accepts UnitId.InRange options.unit
  zone : command.requirements.zone.Accepts Zone.InRange options.zone
  timers : command.requirements.timers.Accepts (fun _ => True) options.timers

/-- The parameters of the operation are those in the options, less those that its command does not
use. -/
structure Describes (options : Options) (operation : Operation) : Prop where
  unit : operation.unit?.map UnitId.number = operation.command.requirements.unit.keep options.unit
  zone : operation.zone?.map Zone.number = operation.command.requirements.zone.keep options.zone
  timers : operation.timers? = operation.command.requirements.timers.keep options.timers

theorem readCommand_eq_ok_iff_means :
    options.readCommand = .ok command ↔ options.Means command := by
  rw [readCommand_eq_ok_iff]
  simp only [Means, Command.sameUpToCase_keyword_iff, Command.ofKeyword?_eq_some_iff]

/-- Options name one command at most. -/
theorem Means.unique (h : options.Means command) (hother : options.Means other) :
    command = other := by
  rw [← readCommand_eq_ok_iff_means] at h hother
  exact Except.ok.inj (h.symm.trans hother)

end Options

/-- An operation is made of its own parameters. -/
theorem Operation.operation_command (operation : Operation) :
    operation.command.operation operation.unit? operation.zone? operation.timers? =
      .ok operation := by
  cases operation <;> rfl

/-- Parameters that the requirements of a command admit make an operation of this command, which
has them all. -/
theorem Command.exists_operation {command : Command} {options : Options} {unit : Option UnitId}
    {zone : Option Zone} {timers : Option TimerList}
    (hunit : command.requirements.unit.Admits UnitId.number options.unit unit)
    (hzone : command.requirements.zone.Admits Zone.number options.zone zone)
    (htimers : command.requirements.timers.Admits id options.timers timers) :
    ∃ operation, command.operation unit zone timers = .ok operation ∧
      operation.command = command ∧ operation.unit? = unit ∧ operation.zone? = zone ∧
        operation.timers? = timers := by
  cases command with
  | on | off =>
    obtain ⟨unit, -, rfl⟩ := hunit
    obtain ⟨zone, -, rfl⟩ := hzone
    cases htimers
    exact ⟨_, rfl, rfl, rfl, rfl, rfl⟩
  | allOff | getTimers =>
    obtain ⟨unit, -, rfl⟩ := hunit
    cases hzone
    cases htimers
    exact ⟨_, rfl, rfl, rfl, rfl, rfl⟩
  | status =>
    obtain ⟨unit, -, rfl⟩ := hunit
    cases htimers
    exact ⟨_, rfl, rfl, rfl, rfl, rfl⟩
  | globalAllOff | comCheck =>
    cases hunit
    cases hzone
    cases htimers
    exact ⟨_, rfl, rfl, rfl, rfl, rfl⟩
  | setTimers =>
    obtain ⟨unit, -, rfl⟩ := hunit
    obtain ⟨timers, -, rfl⟩ := htimers
    cases hzone
    exact ⟨_, rfl, rfl, rfl, rfl, rfl⟩

namespace Options

variable {options other : Options} {command : Command} {operation : Operation}
  {error : ValidationError}

/-- Every timer list is in range. -/
theorem timers_inRange_iff (timers : TimerList) : True ↔ ∃ list, timers = id list :=
  ⟨fun _ => ⟨timers, rfl⟩, fun _ => trivial⟩

theorem validate_eq_ok_iff_meets :
    options.validate = .ok operation ↔
      options.Meets operation.command ∧ options.Describes operation := by
  rw [validate_eq_ok_iff]
  constructor
  · rintro ⟨command, unit, zone, timers, hcommand, hunit, hzone, htimers, hoperation⟩
    obtain ⟨made, hmade, rfl, rfl, rfl, rfl⟩ := Command.exists_operation hunit hzone htimers
    cases hmade.symm.trans hoperation
    rw [Requirement.admits_iff_accepts UnitId.checksRange.inRange_iff] at hunit
    rw [Requirement.admits_iff_accepts Zone.checksRange.inRange_iff] at hzone
    rw [Requirement.admits_iff_accepts timers_inRange_iff, Option.map_id] at htimers
    exact ⟨⟨readCommand_eq_ok_iff_means.mp hcommand, hunit.1, hzone.1, htimers.1⟩,
      ⟨hunit.2, hzone.2, htimers.2⟩⟩
  · rintro ⟨hmeets, hdescribes⟩
    refine ⟨operation.command, operation.unit?, operation.zone?, operation.timers?,
      readCommand_eq_ok_iff_means.mpr hmeets.means, ?_, ?_, ?_, operation.operation_command⟩
    · exact (Requirement.admits_iff_accepts UnitId.checksRange.inRange_iff).mpr
        ⟨hmeets.unit, hdescribes.unit⟩
    · exact (Requirement.admits_iff_accepts Zone.checksRange.inRange_iff).mpr
        ⟨hmeets.zone, hdescribes.zone⟩
    · rw [Requirement.admits_iff_accepts timers_inRange_iff, Option.map_id]
      exact ⟨hmeets.timers, hdescribes.timers⟩

/-- Options that meet the requirements of a command describe an operation. -/
theorem Meets.exists_validate (h : options.Meets command) :
    ∃ operation, options.validate = .ok operation := by
  obtain ⟨unit, hunit⟩ := h.unit.exists_admits UnitId.checksRange.inRange_iff
  obtain ⟨zone, hzone⟩ := h.zone.exists_admits Zone.checksRange.inRange_iff
  obtain ⟨timers, htimers⟩ := h.timers.exists_admits timers_inRange_iff
  obtain ⟨operation, hoperation, -⟩ := Command.exists_operation hunit hzone htimers
  exact ⟨operation, validate_eq_ok_iff.mpr ⟨command, unit, zone, timers,
    readCommand_eq_ok_iff_means.mpr h.means, hunit, hzone, htimers, hoperation⟩⟩

end Options

/-! ## Refused options -/

/-- The checks of options. -/
inductive Check
  | command
  | unit
  | zone
  | timers
  deriving Repr, DecidableEq

/-- The place of a check in their order. -/
def Check.rank : Check → Nat
  | command => 0
  | unit => 1
  | zone => 2
  | timers => 3

theorem Check.rank_injective : Function.Injective rank := by
  intro check other
  cases check <;> cases other <;> simp [rank]

/-- A command with the parameters that the checks let through. -/
structure Checked where
  command : Command
  unit : Option UnitId
  zone : Option Zone
  timers : Option TimerList
  deriving Repr, DecidableEq

/-- The operation that is made of checked parameters. -/
def Checked.operation (checked : Checked) : Except ValidationError Operation :=
  checked.command.operation checked.unit checked.zone checked.timers

namespace Options

/-- What is wrong with options at a check, whether or not an earlier check finds something too. -/
inductive Violates (options : Options) : Check → ValidationError → Prop
  | missingCommand : options.command = none → Violates options .command .missingCommand
  | unknownCommand {text : String} :
    options.command = some text → (∀ command : Command, ¬SameUpToCase text command.keyword) →
    Violates options .command (.unknownCommand text)
  | unit {command : Command} {error : ValidationError} :
    options.Means command →
    command.requirements.unit.Refuses UnitId.InRange (.missingUnit command) .unitOutOfRange
      options.unit error →
    Violates options .unit error
  | zone {command : Command} {error : ValidationError} :
    options.Means command →
    command.requirements.zone.Refuses Zone.InRange (.missingZone command) .zoneOutOfRange
      options.zone error →
    Violates options .zone error
  | timers {command : Command} :
    options.Means command → command.requirements.timers = .required → options.timers = none →
    Violates options .timers (.missingTimers command)

/-- The error is that of the first check that finds something. -/
def FirstViolation (options : Options) (error : ValidationError) : Prop :=
  ∃ check, options.Violates check error ∧
    ∀ earlier other, earlier.rank < check.rank → ¬options.Violates earlier other

/-- The checks in their order, without making an operation of what they let through. -/
def checked (options : Options) : Except ValidationError Checked := do
  let command ← options.readCommand
  let needs := command.requirements
  let unit ← needs.unit.read (.missingUnit command) UnitId.ofInt options.unit
  let zone ← needs.zone.read (.missingZone command) Zone.ofInt options.zone
  let timers ← needs.timers.check (.missingTimers command) options.timers
  return ⟨command, unit, zone, timers⟩

variable {options other : Options} {command : Command} {error : ValidationError}

theorem validate_eq_checked_bind (options : Options) :
    options.validate = options.checked >>= Checked.operation := by
  simp only [validate, checked, Requirement.read, bind_assoc, pure_bind]
  rfl

/-- Nothing is missing once all checks are passed. -/
theorem exists_operation_of_checked {checked : Checked} (h : options.checked = .ok checked) :
    ∃ operation, checked.operation = .ok operation := by
  simp only [Options.checked, bind_eq_ok_iff, Requirement.read_eq_ok_iff UnitId.checksRange,
    Requirement.read_eq_ok_iff Zone.checksRange, Requirement.check_eq_ok_iff] at h
  obtain ⟨command, -, unit, hunit, zone, hzone, timers, htimers, hchecked⟩ := h
  cases hchecked
  obtain ⟨operation, hoperation, -⟩ := Command.exists_operation hunit hzone htimers
  exact ⟨operation, hoperation⟩

theorem validate_eq_error_iff_checked :
    options.validate = .error error ↔ options.checked = .error error := by
  rw [validate_eq_checked_bind, bind_eq_error_iff, or_iff_left]
  rintro ⟨checked, hchecked, herror⟩
  obtain ⟨operation, hoperation⟩ := exists_operation_of_checked hchecked
  rw [hoperation] at herror
  contradiction

theorem violates_command_iff :
    options.Violates .command error ↔ options.readCommand = .error error := by
  have hunknown : ∀ text, Command.ofKeyword? text = none ↔
      ∀ command : Command, ¬SameUpToCase text command.keyword := fun text => by
    simp only [Command.sameUpToCase_keyword_iff, Option.eq_none_iff_forall_ne_some, ne_eq]
  constructor
  · rintro (hnone | ⟨hsome, htext⟩)
    · rw [readCommand, hnone]
    · rw [← hunknown] at htext
      simp only [readCommand, hsome, htext]
  · intro h
    unfold readCommand at h
    split at h
    · next hnone =>
      cases h
      exact .missingCommand hnone
    · next text hsome =>
      split at h
      · next htext =>
        cases h
        exact .unknownCommand hsome ((hunknown text).mp htext)
      · contradiction

/-- At the check of the unit it is known which command the options name. -/
theorem violates_unit_iff (h : options.readCommand = .ok command) :
    options.Violates .unit error ↔
      command.requirements.unit.read (.missingUnit command) UnitId.ofInt options.unit =
        .error error := by
  rw [Requirement.read_eq_error_iff UnitId.checksRange]
  rw [readCommand_eq_ok_iff_means] at h
  constructor
  · rintro (_ | _ | ⟨hmeans, hrefuses⟩)
    cases h.unique hmeans
    exact hrefuses
  · exact .unit h

theorem violates_zone_iff (h : options.readCommand = .ok command) :
    options.Violates .zone error ↔
      command.requirements.zone.read (.missingZone command) Zone.ofInt options.zone =
        .error error := by
  rw [Requirement.read_eq_error_iff Zone.checksRange]
  rw [readCommand_eq_ok_iff_means] at h
  constructor
  · rintro (_ | _ | _ | ⟨hmeans, hrefuses⟩)
    cases h.unique hmeans
    exact hrefuses
  · exact .zone h

theorem violates_timers_iff (h : options.readCommand = .ok command) :
    options.Violates .timers error ↔
      command.requirements.timers.check (.missingTimers command) options.timers =
        .error error := by
  rw [Requirement.check_eq_error_iff]
  rw [readCommand_eq_ok_iff_means] at h
  constructor
  · rintro (_ | _ | _ | _ | ⟨hmeans, hrequired, hnone⟩)
    cases h.unique hmeans
    exact ⟨hrequired, hnone, rfl⟩
  · rintro ⟨hrequired, hnone, rfl⟩
    exact .timers h hrequired hnone

/-- No check behind the first one finds anything while the command is unknown. -/
theorem Violates.exists_readCommand {check : Check} (h : options.Violates check error)
    (hcheck : check ≠ .command) : ∃ command, options.readCommand = .ok command := by
  cases h with
  | missingCommand | unknownCommand => exact absurd rfl hcheck
  | unit hmeans | zone hmeans | timers hmeans =>
    exact ⟨_, readCommand_eq_ok_iff_means.mpr hmeans⟩

theorem firstViolation_of_checked (h : options.checked = .error error) :
    options.FirstViolation error := by
  -- The checks are gone through in their order; each one that is passed finds nothing.
  rcases bind_eq_error_iff.mp h with hcommand | ⟨command, hcommand, h⟩
  · exact ⟨.command, violates_command_iff.mpr hcommand,
      fun _ _ hlt => absurd hlt (Nat.not_lt_zero _)⟩
  have hnoCommand : ∀ other, ¬options.Violates .command other := fun other =>
    mt violates_command_iff.mp (ne_error_of_eq_ok hcommand other)
  rcases bind_eq_error_iff.mp h with hunit | ⟨unit, hunit, h⟩
  · refine ⟨.unit, (violates_unit_iff hcommand).mpr hunit, fun earlier other hlt => ?_⟩
    cases earlier with
    | command => exact hnoCommand other
    | unit | zone | timers => exact absurd hlt (by decide)
  have hnoUnit : ∀ other, ¬options.Violates .unit other := fun other =>
    mt (violates_unit_iff hcommand).mp (ne_error_of_eq_ok hunit other)
  rcases bind_eq_error_iff.mp h with hzone | ⟨zone, hzone, h⟩
  · refine ⟨.zone, (violates_zone_iff hcommand).mpr hzone, fun earlier other hlt => ?_⟩
    cases earlier with
    | command => exact hnoCommand other
    | unit => exact hnoUnit other
    | zone | timers => exact absurd hlt (by decide)
  have hnoZone : ∀ other, ¬options.Violates .zone other := fun other =>
    mt (violates_zone_iff hcommand).mp (ne_error_of_eq_ok hzone other)
  rcases bind_eq_error_iff.mp h with htimers | ⟨timers, htimers, h⟩
  · refine ⟨.timers, (violates_timers_iff hcommand).mpr htimers, fun earlier other hlt => ?_⟩
    cases earlier with
    | command => exact hnoCommand other
    | unit => exact hnoUnit other
    | zone => exact hnoZone other
    | timers => exact absurd hlt (by decide)
  · contradiction

/-- Options that pass all checks are right at each of them. -/
theorem not_violates_of_checked {checked : Checked} (h : options.checked = .ok checked)
    (check : Check) : ¬options.Violates check error := by
  simp only [Options.checked, bind_eq_ok_iff] at h
  obtain ⟨command, hcommand, unit, hunit, zone, hzone, timers, htimers, -⟩ := h
  cases check with
  | command => exact mt violates_command_iff.mp (ne_error_of_eq_ok hcommand error)
  | unit => exact mt (violates_unit_iff hcommand).mp (ne_error_of_eq_ok hunit error)
  | zone => exact mt (violates_zone_iff hcommand).mp (ne_error_of_eq_ok hzone error)
  | timers => exact mt (violates_timers_iff hcommand).mp (ne_error_of_eq_ok htimers error)

/-- A check finds one error at most. -/
theorem Violates.unique {check : Check} {error' : ValidationError}
    (h : options.Violates check error) (h' : options.Violates check error') : error = error' := by
  by_cases hcheck : check = .command
  · subst hcheck
    rw [violates_command_iff] at h h'
    exact Except.error.inj (h.symm.trans h')
  obtain ⟨command, hcommand⟩ := h.exists_readCommand hcheck
  cases check with
  | command => contradiction
  | unit =>
    rw [violates_unit_iff hcommand] at h h'
    exact Except.error.inj (h.symm.trans h')
  | zone =>
    rw [violates_zone_iff hcommand] at h h'
    exact Except.error.inj (h.symm.trans h')
  | timers =>
    rw [violates_timers_iff hcommand] at h h'
    exact Except.error.inj (h.symm.trans h')

theorem FirstViolation.unique {error' : ValidationError} (h : options.FirstViolation error)
    (h' : options.FirstViolation error') : error = error' := by
  obtain ⟨check, hviolates, hfirst⟩ := h
  obtain ⟨check', hviolates', hfirst'⟩ := h'
  rcases Nat.lt_trichotomy check.rank check'.rank with hlt | heq | hgt
  · exact absurd hviolates (hfirst' _ _ hlt)
  · cases Check.rank_injective heq
    exact hviolates.unique hviolates'
  · exact absurd hviolates' (hfirst _ _ hgt)

theorem validate_eq_error_iff :
    options.validate = .error error ↔ options.FirstViolation error := by
  rw [validate_eq_error_iff_checked]
  refine ⟨firstViolation_of_checked, fun hfirst => ?_⟩
  cases hchecked : options.checked with
  | error other => rw [(firstViolation_of_checked hchecked).unique hfirst]
  | ok checked =>
    obtain ⟨check, hviolates, -⟩ := hfirst
    exact absurd hviolates (not_violates_of_checked hchecked check)

/-! ## Options that differ only where it does not matter -/

/-- The options name the same command, in whatever case, and have the same parameters where it uses
them. What they say about the device and the diagnostics does not matter. -/
structure SameOnUse (options other : Options) : Prop where
  command : options.command = other.command ∨
    ∃ command, options.Means command ∧ other.Means command
  unit : ∀ command, options.Means command → command.requirements.unit ≠ .unused →
    options.unit = other.unit
  zone : ∀ command, options.Means command → command.requirements.zone ≠ .unused →
    options.zone = other.zone
  timers : ∀ command, options.Means command → command.requirements.timers ≠ .unused →
    options.timers = other.timers

theorem SameOnUse.readCommand_eq (h : options.SameOnUse other) :
    options.readCommand = other.readCommand := by
  rcases h.command with hsame | ⟨command, hmeans, hmeans'⟩
  · rw [readCommand, readCommand, hsame]
  · rw [readCommand_eq_ok_iff_means.mpr hmeans, readCommand_eq_ok_iff_means.mpr hmeans']

theorem SameOnUse.validate_eq (h : options.SameOnUse other) :
    options.validate = other.validate := by
  unfold validate
  rw [← h.readCommand_eq]
  cases hcommand : options.readCommand with
  | error error => rfl
  | ok command =>
    have hmeans := readCommand_eq_ok_iff_means.mp hcommand
    simp only [ok_bind, Requirement.check_congr (h.unit command hmeans),
      Requirement.check_congr (h.zone command hmeans),
      Requirement.check_congr (h.timers command hmeans)]

/-- The options of an operation: its command and its parameters. -/
def ofOperation (operation : Operation) : Options where
  device := ""
  command := some operation.command.keyword
  unit := operation.unit?.map UnitId.number
  zone := operation.zone?.map Zone.number
  timers := operation.timers?
  verbose := false

theorem readCommand_ofOperation (operation : Operation) :
    (ofOperation operation).readCommand = .ok operation.command :=
  readCommand_eq_ok_iff.mpr ⟨_, rfl, operation.command.map_toLower_keyword.symm⟩

theorem validate_ofOperation (operation : Operation) :
    (ofOperation operation).validate = .ok operation := by
  refine validate_eq_ok_iff.mpr ⟨operation.command, operation.unit?, operation.zone?,
    operation.timers?, readCommand_ofOperation operation, ?_⟩
  cases operation with
  | on unit zone | off unit zone => exact ⟨⟨unit, rfl, rfl⟩, ⟨zone, rfl, rfl⟩, rfl, rfl⟩
  | allOff unit | status unit zone | getTimers unit => exact ⟨⟨unit, rfl, rfl⟩, rfl, rfl, rfl⟩
  | globalAllOff | comCheck => exact ⟨rfl, rfl, rfl, rfl⟩
  | setTimers unit timers => exact ⟨⟨unit, rfl, rfl⟩, rfl, ⟨timers, rfl, rfl⟩, rfl⟩

end Options

/-- **Validation follows the requirements.** Options are accepted exactly if they name a command, up
to the case of ASCII letters, and meet its requirements; the operation is then the one of this
command with the parameters in the options, less those that it does not use. A name means one
command at most.

All other options are refused with the error of the first check that finds something: command,
unit, zone, timers. An error for something missing names the command, and one for a number out of
range names the number. The parameters that pass the checks are always enough for an operation, so
nothing turns out to be missing behind them.

Hence what the command does not use changes nothing, and every operation comes from some options. -/
theorem validation_follows_requirements :
    (∀ options : Options,
      ((∃ operation, options.validate = .ok operation) ↔ ∃ command, options.Meets command) ∧
      (∀ operation, options.validate = .ok operation ↔
        options.Meets operation.command ∧ options.Describes operation) ∧
      (∀ command other, options.Means command → options.Means other → command = other) ∧
      (∀ error, options.validate = .error error ↔ options.FirstViolation error) ∧
      options.validate = options.checked >>= Checked.operation ∧
      ∀ checked, options.checked = .ok checked →
        ∃ operation, checked.operation = .ok operation) ∧
    (∀ options other : Options, options.SameOnUse other → options.validate = other.validate) ∧
    ∀ operation, ∃ options : Options, options.validate = .ok operation := by
  refine ⟨fun options => ⟨⟨?_, ?_⟩, ?_, ?_, ?_, ?_, ?_⟩, ?_, ?_⟩
  · rintro ⟨operation, h⟩
    exact ⟨operation.command, (Options.validate_eq_ok_iff_meets.mp h).1⟩
  · rintro ⟨command, h⟩
    exact h.exists_validate
  · exact fun operation => Options.validate_eq_ok_iff_meets
  · exact fun command other h hother => h.unique hother
  · exact fun error => Options.validate_eq_error_iff
  · exact options.validate_eq_checked_bind
  · exact fun checked h => Options.exists_operation_of_checked h
  · exact fun options other h => h.validate_eq
  · exact fun operation => ⟨_, Options.validate_ofOperation operation⟩

/-- A status query for the last unit and a zone behind the last: the zone is refused, whatever the
case of the word and whatever else is given. Timers are no longer missing once they are checked. -/
theorem validation_follows_requirements_status :
    let timers : TimerList := ⟨Vector.replicate 8 255, by decide⟩
    let options : Options := ⟨"/dev/ttyS0", some "StAtUs", some 254, some 9, none, false⟩
    let other : Options := ⟨"", some "STATUS", some 254, some 9, some timers, true⟩
    let write : Options := ⟨"", some "settimers", some 1, some (-1), some timers, false⟩
    (options.SameOnUse other ∧ options.validate = other.validate ∧
      other.validate = .error (.zoneOutOfRange 9)) ∧
    ∃ checked operation, write.checked = .ok checked ∧ checked.operation = .ok operation := by
  intro timers options other write
  have hmeans : options.Means .status := Options.readCommand_eq_ok_iff_means.mp rfl
  have hmeans' : other.Means .status := Options.readCommand_eq_ok_iff_means.mp rfl
  have hunused : ∀ command, options.Means command → command.requirements.timers ≠ .unused →
      options.timers = other.timers := by
    intro command h hused
    cases (validation_follows_requirements.1 options).2.2.1 _ _ hmeans h
    exact absurd rfl hused
  have hsame : options.SameOnUse other :=
    ⟨.inr ⟨.status, hmeans, hmeans'⟩, fun _ _ _ => rfl, fun _ _ _ => rfl, hunused⟩
  have hwrite : write.checked =
      .ok ⟨.setTimers, some ⟨1, by decide, by decide⟩, none, some timers⟩ := rfl
  obtain ⟨operation, hoperation⟩ := (validation_follows_requirements.1 write).2.2.2.2.2 _ hwrite
  exact ⟨⟨hsame, validation_follows_requirements.2.1 options other hsame, rfl⟩,
    _, operation, hwrite, hoperation⟩

end Irrigation
