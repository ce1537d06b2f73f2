/-!
# Results and errors

The ways in which checks are put together, forwards and backwards: a sequence succeeds exactly if
each part does, and a change of the error keeps success.
-/

namespace Irrigation

variable {α β ε ε' : Type}

theorem ok_bind (a : α) (next : α → Except ε β) : (.ok a >>= next) = next a := rfl

theorem error_bind (e : ε) (next : α → Except ε β) : (.error e >>= next) = .error e := rfl

theorem mapError_ok (f : ε → ε') (a : α) : (Except.ok a).mapError f = .ok a := rfl

theorem mapError_error (f : ε → ε') (e : ε) :
    (Except.error e : Except ε α).mapError f = .error (f e) := rfl

theorem bind_eq_ok_iff {x : Except ε α} {next : α → Except ε β} {b : β} :
    x >>= next = .ok b ↔ ∃ a, x = .ok a ∧ next a = .ok b := by
  cases x with
  | error e => exact ⟨nofun, nofun⟩
  | ok a => exact ⟨fun h => ⟨a, rfl, h⟩, fun ⟨_, ha, h⟩ => by cases ha; exact h⟩

theorem bind_eq_error_iff {x : Except ε α} {next : α → Except ε β} {e : ε} :
    x >>= next = .error e ↔ x = .error e ∨ ∃ a, x = .ok a ∧ next a = .error e := by
  cases x with
  | error e' => simp [error_bind]
  | ok a => simp [ok_bind]

theorem map_eq_error_iff {f : α → β} {x : Except ε α} {e : ε} :
    x.map f = .error e ↔ x = .error e := by
  cases x <;> simp [Except.map]

/-- Where one of two results that are mapped alike is an error, so is the other. -/
theorem eq_error_of_map_eq {f : α → β} {x y : Except ε α} {e : ε} (h : x.map f = y.map f)
    (hx : x = .error e) : y = .error e := by
  rw [← map_eq_error_iff (f := f), ← h, hx]
  rfl

/-- Where one of two results that are mapped alike succeeds, so does the other. -/
theorem exists_ok_of_map_eq {f : α → β} {x y : Except ε α} {a : α} (h : x.map f = y.map f)
    (hx : x = .ok a) : ∃ b, y = .ok b ∧ f b = f a := by
  rw [hx] at h
  cases y with
  | error e => contradiction
  | ok b => exact ⟨b, rfl, (Except.ok.inj h).symm⟩

theorem ne_error_of_eq_ok {x : Except ε α} {a : α} (h : x = .ok a) (e : ε) : x ≠ .error e := by
  rw [h]
  exact nofun

theorem toOption_eq_some_iff {x : Except ε α} {a : α} : x.toOption = some a ↔ x = .ok a := by
  cases x <;> simp [Except.toOption]

@[simp]
theorem mapError_eq_ok_iff {f : ε → ε'} {x : Except ε α} {a : α} :
    x.mapError f = .ok a ↔ x = .ok a := by
  cases x with
  | error e => exact ⟨nofun, nofun⟩
  | ok a' =>
    constructor
    · rintro ⟨⟩
      rfl
    · rintro ⟨⟩
      rfl

end Irrigation
