import Ed25519.Random.Source
import Ed25519.Startup

/-!
# Operations

An operation runs in an environment, which says how far the library has started up and holds the
random source that keys are drawn from, with the requests made of it. Its outcome is a result, the
environment it leaves behind and the events it emitted, in order. An operation that fails keeps the
environment and the events it had reached.
-/

namespace Ed25519

/-- What an operation runs in: how far the library has started up, the random source, and the sizes
of the requests made of that source so far. -/
structure Environment where
  startup : Startup
  source : Source
  requests : List Nat

/-- The environment in which nothing was run yet. -/
def Environment.fresh (s : Source) : Environment := ⟨.fresh, s, []⟩

/-- What an operation leaves behind. -/
structure Outcome (ε α : Type) where
  result : Except ε α
  environment : Environment
  events : List Event

/-- A computation that can fail with an `ε`, change its environment and emit events. -/
def Operation (ε α : Type) : Type := Environment → Outcome ε α

namespace Operation

variable {ε δ α β : Type}

/-- Succeed with `a`. -/
def pure (a : α) : Operation ε α := fun e => ⟨.ok a, e, []⟩

/-- Run `f` on the result of `x`, if there is one. -/
def bind (x : Operation ε α) (f : α → Operation ε β) : Operation ε β := fun e =>
  match x e with
  | ⟨.ok a, e', es⟩ =>
    let o := f a e'
    { o with events := es ++ o.events }
  | ⟨.error err, e', es⟩ => ⟨.error err, e', es⟩

instance : Monad (Operation ε) where
  pure := pure
  bind := bind

/-- Give a known result. -/
def ofExcept (x : Except ε α) : Operation ε α := fun e => ⟨x, e, []⟩

/-- Emit one event and fail. -/
def refuse (v : Event) (err : ε) : Operation ε α := fun e => ⟨.error err, e, [v]⟩

/-- Ask the random source for `n` bytes. -/
def draw (n : Nat) : Operation ε (Except String (Octets n)) := fun e =>
  let d := e.source.draw n
  ⟨.ok d.1, { e with source := d.2, requests := e.requests ++ [n] }, []⟩

/-- Start up, unless it is done. -/
def ready : Operation Error Sizes := fun e =>
  let r := Id.run (e.startup.run (Pure.pure Startup.selfTest))
  ⟨r.1, { e with startup := r.2.1 }, r.2.2⟩

/-- Tell the failures of an operation otherwise. -/
def mapError (f : ε → δ) (x : Operation ε α) : Operation δ α := fun e =>
  let o := x e
  ⟨o.result.mapError f, o.environment, o.events⟩

/-! ## Outcomes -/

theorem pure_apply (a : α) (e : Environment) :
    (Pure.pure a : Operation ε α) e = ⟨.ok a, e, []⟩ := rfl

theorem bind_of_ok {x : Operation ε α} {f : α → Operation ε β} {e e' : Environment} {a : α}
    {es : List Event} (h : x e = ⟨.ok a, e', es⟩) :
    (x >>= f) e = { f a e' with events := es ++ (f a e').events } := by
  show bind x f e = _
  simp only [bind, h]

theorem bind_of_error {x : Operation ε α} {f : α → Operation ε β} {e e' : Environment} {err : ε}
    {es : List Event} (h : x e = ⟨.error err, e', es⟩) :
    (x >>= f) e = ⟨.error err, e', es⟩ := by
  show bind x f e = _
  simp only [bind, h]

/-- Starting up changes nothing once there is an outcome. -/
theorem ready_of_outcome {e : Environment} {o : Except Error Sizes}
    (h : e.startup.outcome = some o) : ready e = ⟨o, e, []⟩ := by
  simp only [ready, Startup.run, h]
  rfl

end Operation

end Ed25519
