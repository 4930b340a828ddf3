import Ed25519.Startup
import Mathlib.Data.Nat.Notation

/-!
# Starting up is decided once

The first call runs its self-test, and its outcome is kept (`Startup.run_fresh`). A call that finds
an outcome answers with it, runs nothing, tells nothing and changes nothing
(`Startup.run_of_outcome`). So a sequence of calls is decided by the first of them, whatever the
self-tests of the others would give or do (`Startup.replies_fresh`): where every self-test counts
itself, the count is one from the first call on (`Startup.replies_decided`).
-/

namespace Ed25519.Startup

/-! ## One call -/

section

variable {m : Type → Type} [Monad m]

theorem run_fresh (check : m (Except Error Unit)) :
    fresh.run check = (do
      let o := outcomeOf (← check)
      return (o, ⟨some o⟩, [eventOf o])) := rfl

/-- Once there is an outcome, the self-test is not run: what the call does is the same for all of
them. -/
theorem run_of_outcome {s : Startup} {o : Except Error Sizes} (h : s.outcome = some o)
    (check : m (Except Error Unit)) : s.run check = pure (o, s, []) := by
  simp only [run, h]

end

/-! ## Sequences of calls -/

variable {σ : Type}

/-- What a call leaves behind: its answer, the world after it, and the events it emitted. -/
structure Reply (σ : Type) where
  answer : Except Error Sizes
  world : σ
  events : List Event

/-- The replies to a sequence of calls in the world `w`, and the state they leave behind. Each of the
self-tests `checks` may read and change the world, if it is run. -/
def replies (s : Startup) (w : σ) :
    (checks : List (StateM σ (Except Error Unit))) → List (Reply σ) × Startup
  | [] => ([], s)
  | check :: checks =>
    let ((answer, s', events), w') := (s.run check).run w
    let (rs, t) := replies s' w' checks
    (⟨answer, w', events⟩ :: rs, t)

/-- Once there is an outcome, every call of a sequence answers with it, and nothing else happens. -/
theorem replies_of_outcome {s : Startup} {o : Except Error Sizes} (h : s.outcome = some o) (w : σ)
    (checks : List (StateM σ (Except Error Unit))) :
    s.replies w checks = (List.replicate checks.length ⟨o, w, []⟩, s) := by
  induction checks with
  | nil => rfl
  | cons check checks ih =>
    have hrun : (s.run check).run w = ((o, s, []), w) := by
      rw [run_of_outcome h]
      rfl
    simp only [replies, hrun, ih, List.length_cons, List.replicate_succ]

/-- **The first call decides.** Its self-test is the only one that is run, its event is the only one
that is emitted, and its outcome is the answer to every call. -/
theorem replies_fresh (w : σ) (check : StateM σ (Except Error Unit))
    (checks : List (StateM σ (Except Error Unit))) :
    let o := outcomeOf (check.run w).1
    let w' := (check.run w).2
    fresh.replies w (check :: checks) =
      (⟨o, w', [eventOf o]⟩ :: List.replicate checks.length ⟨o, w', []⟩, ⟨some o⟩) := by
  intro o w'
  have hrun : (fresh.run check).run w = ((o, ⟨some o⟩, [eventOf o]), w') := by
    rw [run_fresh]
    rfl
  have hrest := replies_of_outcome (s := ⟨some o⟩) rfl w' checks
  simp only [replies, hrun, hrest]

/-- The self-test that gives `check`, and counts that it was run. -/
def counted (check : Except Error Unit) : StateM ℕ (Except Error Unit) := do
  modify (· + 1)
  return check

/-- **Starting up is decided once and for ever.** Of self-tests that count their runs only the first
is ever run: a passed one publishes the sizes, and its event tells them; a failed one makes its own
error the answer to every call, and its event tells the message of that error. Whatever else
self-tests do to the world, the first call does it and no other. -/
theorem replies_decided (checks : List (Except Error Unit)) :
    (fresh.replies 0 (counted (.ok ()) :: checks.map counted) =
      (⟨.ok ⟨64, 32, 64⟩, 1, [.started ⟨64, 32, 64⟩]⟩ ::
        List.replicate checks.length ⟨.ok ⟨64, 32, 64⟩, 1, []⟩, ⟨some (.ok ⟨64, 32, 64⟩)⟩) ∧
      (Event.started ⟨64, 32, 64⟩).level = .debug ∧
      (Event.started ⟨64, 32, 64⟩).fields =
        [("algorithm", .text "Ed25519"), ("private_key_len", .number 64),
          ("public_key_len", .number 32), ("signature_len", .number 64)]) ∧
    (∀ err : Error,
      fresh.replies 0 (counted (.error err) :: checks.map counted) =
        (⟨.error err, 1, [.notStarted err]⟩ ::
          List.replicate checks.length ⟨.error err, 1, []⟩, ⟨some (.error err)⟩) ∧
      (Event.notStarted err).level = .error ∧
      (Event.notStarted err).fields =
        [("algorithm", .text "Ed25519"), ("error", .text err.message)]) ∧
    ∀ (σ : Type) (w : σ) (check : StateM σ (Except Error Unit))
      (rest : List (StateM σ (Except Error Unit))),
      let o := outcomeOf (check.run w).1
      let w' := (check.run w).2
      fresh.replies w (check :: rest) =
        (⟨o, w', [eventOf o]⟩ :: List.replicate rest.length ⟨o, w', []⟩, ⟨some o⟩) := by
  refine ⟨⟨?_, rfl, rfl⟩, fun err => ⟨?_, rfl, rfl⟩, fun σ => replies_fresh⟩
  · rw [replies_fresh, List.length_map]
    rfl
  · rw [replies_fresh, List.length_map]
    rfl

end Ed25519.Startup
