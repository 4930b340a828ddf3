import Mathlib.Logic.Basic

/-!
# Results

What is known of a result after more is done with it: when a sequence of two steps succeeds, and
when a result whose failure is told otherwise is a success or a failure.
-/

namespace Ed25519

namespace Result

variable {ε δ α β : Type}

theorem ok_bind (a : α) (f : α → Except ε β) : (Except.ok a >>= f) = f a := rfl

theorem error_bind (err : ε) (f : α → Except ε β) : (Except.error err >>= f) = .error err := rfl

theorem mapError_ok (a : α) (f : ε → δ) : (Except.ok a).mapError f = .ok a := rfl

theorem bind_eq_ok_iff {x : Except ε α} {f : α → Except ε β} {b : β} :
    (x >>= f) = .ok b ↔ ∃ a, x = .ok a ∧ f a = .ok b := by
  cases x with
  | ok a =>
    constructor
    · exact fun h => ⟨a, rfl, h⟩
    · rintro ⟨_, ⟨⟩, h⟩
      exact h
  | error => exact iff_of_false nofun nofun

theorem map_eq_ok_iff {x : Except ε α} {f : α → β} {b : β} :
    x.map f = .ok b ↔ ∃ a, x = .ok a ∧ f a = b := by
  cases x with
  | ok a =>
    constructor
    · rintro ⟨⟩
      exact ⟨a, rfl, rfl⟩
    · rintro ⟨_, ⟨⟩, rfl⟩
      rfl
  | error => exact iff_of_false nofun nofun

theorem mapError_eq_ok_iff {x : Except ε α} {f : ε → δ} {a : α} :
    x.mapError f = .ok a ↔ x = .ok a := by
  cases x with
  | ok b =>
    constructor
    all_goals rintro ⟨⟩; rfl
  | error => exact iff_of_false nofun nofun

theorem mapError_eq_error_iff {x : Except ε α} {f : ε → δ} {d : δ} :
    x.mapError f = .error d ↔ ∃ err, x = .error err ∧ f err = d := by
  cases x with
  | ok a => exact iff_of_false nofun nofun
  | error err =>
    constructor
    · rintro ⟨⟩
      exact ⟨err, rfl, rfl⟩
    · rintro ⟨_, ⟨⟩, rfl⟩
      rfl

theorem mapError_bind (x : Except ε α) (f : α → Except ε β) (g : ε → δ) :
    (x >>= f).mapError g = x.mapError g >>= fun a => (f a).mapError g := by
  cases x <;> rfl

/-- A result that is not the only one possible is a failure. -/
theorem eq_error_of_ne_ok {x : Except ε Unit} (h : x ≠ .ok ()) : ∃ err, x = .error err := by
  cases x with
  | ok => exact absurd rfl h
  | error err => exact ⟨err, rfl⟩

theorem eq_ok_of_isOk {x : Except ε Unit} (h : x.isOk = true) : x = .ok () := by
  cases x with
  | ok => rfl
  | error => cases h

end Result

end Ed25519
