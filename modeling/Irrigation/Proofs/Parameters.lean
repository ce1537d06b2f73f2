import Irrigation.Proofs.Validation

/-!
# Parameters and requirements

One parameter against one requirement, whatever the parameter is.

* `UnitId.InRange`, `Zone.InRange`: the numbers of units and zones.
* `Requirement.Accepts`, `Requirement.keep`: the parameters that a requirement accepts, and what an
  operation keeps of them. `Requirement.Refuses`: the error for the others.
* `Requirement.read`: the check of a parameter and of its range. `read_eq_ok_iff` and
  `read_eq_error_iff` tell its values and its errors.
* `ChecksRange`: what the range check of a parameter has to do for that. `UnitId.checksRange` and
  `Zone.checksRange`: those of units and zones do it.
-/

namespace Irrigation

/-- The numbers that units have. -/
def UnitId.InRange (number : Int) : Prop := 1 ≤ number ∧ number ≤ 254

/-- The numbers that zones have. -/
def Zone.InRange (number : Int) : Prop := 1 ≤ number ∧ number ≤ 8

section

variable {α β ε : Type}

namespace Requirement

/-- A parameter is there if it is required, and in range unless it is absent or unused. -/
def Accepts (inRange : α → Prop) : Requirement → Option α → Prop
  | .required, value => ∃ a, value = some a ∧ inRange a
  | .optional, value => ∀ a, value = some a → inRange a
  | .unused, _ => True

/-- What an operation keeps of a parameter. -/
def keep : Requirement → Option α → Option α
  | .required, value | .optional, value => value
  | .unused, _ => none

/-- The error for a parameter that a requirement does not accept. -/
inductive Refuses (inRange : α → Prop) (missing : ε) (outOfRange : α → ε) :
    Requirement → Option α → ε → Prop
  | missing : Refuses inRange missing outOfRange .required none missing
  | outOfRange {requirement : Requirement} {a : α} :
    requirement ≠ .unused → ¬inRange a →
    Refuses inRange missing outOfRange requirement (some a) (outOfRange a)

/-- Holds a parameter against a requirement, and then against its range. -/
def read (requirement : Requirement) (missing : ε) (check : α → Except ε β) (value : Option α) :
    Except ε (Option β) := do
  checkRange check (← requirement.check missing value)

end Requirement

/-- The check accepts what is in range, as the value of that number, and names everything else in
its error. -/
structure ChecksRange (check : α → Except ε β) (number : β → α) (inRange : α → Prop)
    (outOfRange : α → ε) : Prop where
  ok_iff : ∀ a b, check a = .ok b ↔ a = number b
  error_iff : ∀ a e, check a = .error e ↔ ¬inRange a ∧ e = outOfRange a

namespace ChecksRange

variable {check : α → Except ε β} {number : β → α} {inRange : α → Prop} {outOfRange : α → ε}

/-- What is in range is a number. -/
theorem inRange_iff (h : ChecksRange check number inRange outOfRange) (a : α) :
    inRange a ↔ ∃ b, a = number b := by
  constructor
  · intro hrange
    cases hcheck : check a with
    | ok b => exact ⟨b, (h.ok_iff a b).mp hcheck⟩
    | error e => exact absurd hrange ((h.error_iff a e).mp hcheck).1
  · rintro ⟨b, rfl⟩
    refine Classical.byContradiction fun hout => ?_
    have herror := (h.error_iff _ _).mpr ⟨hout, rfl⟩
    rw [(h.ok_iff _ b).mpr rfl] at herror
    contradiction

end ChecksRange

theorem UnitId.checksRange : ChecksRange ofInt number InRange .unitOutOfRange where
  ok_iff _ _ := ofInt_eq_ok_iff
  error_iff i e := by
    unfold ofInt ofInt? InRange
    by_cases h : 1 ≤ i ∧ i ≤ 254
    · simp [h]
    · simp [h, eq_comm]

theorem Zone.checksRange : ChecksRange ofInt number InRange .zoneOutOfRange where
  ok_iff _ _ := ofInt_eq_ok_iff
  error_iff i e := by
    unfold ofInt ofInt? InRange
    by_cases h : 1 ≤ i ∧ i ≤ 8
    · simp [h]
    · simp [h, eq_comm]

namespace Requirement

variable {requirement : Requirement} {missing : ε} {check : α → Except ε β} {number : β → α}
  {inRange : α → Prop} {outOfRange : α → ε} {value other : Option α} {result : Option β} {e : ε}

/-- A requirement makes a value of a parameter exactly if it accepts the parameter, and the value
is what an operation keeps of it. -/
theorem admits_iff_accepts (h : ∀ a, inRange a ↔ ∃ b, a = number b) :
    requirement.Admits number value result ↔
      requirement.Accepts inRange value ∧ result.map number = requirement.keep value := by
  cases requirement with
  | required =>
    constructor
    · rintro ⟨b, rfl, rfl⟩
      exact ⟨⟨_, rfl, (h _).mpr ⟨b, rfl⟩⟩, rfl⟩
    · rintro ⟨⟨a, rfl, -⟩, hkeep⟩
      obtain ⟨b, rfl, rfl⟩ := Option.map_eq_some_iff.mp hkeep
      exact ⟨b, rfl, rfl⟩
  | optional =>
    constructor
    · rintro rfl
      refine ⟨fun a ha => ?_, rfl⟩
      obtain ⟨b, -, rfl⟩ := Option.map_eq_some_iff.mp ha
      exact (h _).mpr ⟨b, rfl⟩
    · rintro ⟨-, hkeep⟩
      exact hkeep.symm
  | unused => exact ⟨fun hnone => ⟨trivial, Option.map_eq_none_iff.mpr hnone⟩,
      fun ⟨_, hkeep⟩ => Option.map_eq_none_iff.mp hkeep⟩

theorem Accepts.exists_admits (haccepts : requirement.Accepts inRange value)
    (h : ∀ a, inRange a ↔ ∃ b, a = number b) :
    ∃ result, requirement.Admits number value result := by
  cases requirement with
  | required =>
    obtain ⟨a, rfl, ha⟩ := haccepts
    obtain ⟨b, rfl⟩ := (h a).mp ha
    exact ⟨some b, b, rfl, rfl⟩
  | optional =>
    cases value with
    | none => exact ⟨none, rfl⟩
    | some a =>
      obtain ⟨b, rfl⟩ := (h a).mp (haccepts a rfl)
      exact ⟨some b, rfl⟩
  | unused => exact ⟨none, rfl⟩

theorem read_eq_ok_iff (h : ChecksRange check number inRange outOfRange) :
    requirement.read missing check value = .ok result ↔
      requirement.Admits number value result :=
  bind_eq_ok_iff.trans (admits_iff h.ok_iff)

theorem refuses_none_iff :
    requirement.Refuses inRange missing outOfRange none e ↔
      requirement = .required ∧ e = missing := by
  constructor
  · rintro ⟨⟩
    exact ⟨rfl, rfl⟩
  · rintro ⟨rfl, rfl⟩
    exact .missing

theorem refuses_some_iff {a : α} :
    requirement.Refuses inRange missing outOfRange (some a) e ↔
      requirement ≠ .unused ∧ ¬inRange a ∧ e = outOfRange a := by
  constructor
  · rintro (_ | ⟨hused, hout⟩)
    exact ⟨hused, hout, rfl⟩
  · rintro ⟨hused, hout, rfl⟩
    exact .outOfRange hused hout

theorem read_some {a : α} (hused : requirement ≠ .unused) :
    requirement.read missing check (some a) = (check a).map some := by
  cases requirement with
  | required | optional => rfl
  | unused => exact absurd rfl hused

theorem read_none_eq_error_iff :
    requirement.read missing check none = .error e ↔ requirement = .required ∧ e = missing := by
  cases requirement <;> simp [read, Requirement.check, checkRange, ok_bind, error_bind, eq_comm]

theorem read_eq_error_iff (h : ChecksRange check number inRange outOfRange) :
    requirement.read missing check value = .error e ↔
      requirement.Refuses inRange missing outOfRange value e := by
  cases value with
  | none => rw [refuses_none_iff, read_none_eq_error_iff]
  | some a =>
    rw [refuses_some_iff]
    by_cases hused : requirement = .unused
    · subst hused
      exact ⟨nofun, fun hrefuses => absurd rfl hrefuses.1⟩
    · rw [read_some hused, map_eq_error_iff, h.error_iff, and_iff_right hused]

/-- A parameter that is not used is not looked at. -/
theorem check_congr (h : requirement ≠ .unused → value = other) :
    requirement.check missing value = requirement.check missing other := by
  cases requirement with
  | unused => rfl
  | required | optional => rw [h nofun]

theorem check_eq_error_iff :
    requirement.check missing value = .error e ↔
      requirement = .required ∧ value = none ∧ e = missing := by
  cases requirement <;> cases value <;> simp [Requirement.check, eq_comm]

end Requirement

end

end Irrigation
