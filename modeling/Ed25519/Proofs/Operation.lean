import Ed25519.Proofs.Result
import Ed25519.Signing
import Mathlib.Data.Nat.Notation

/-!
# Results of the operations

The self-test is passed (`Startup.selfTest_eq_ok`), so the library does its work in every
environment in which no other self-test was run (`Environment.Usable`). There the result of each
operation is a function of its arguments, and neither of the random source nor of what was run
before.

* `PrivateKey.result_publicKey`, `PrivateKey.result_sign`: what a private key answers.
* `PublicKey.result_verifyBytes`: what a public key answers.
* `Call.usable_run`: no calls lead out of the usable environments.
-/

namespace Ed25519

/-! ## Usable environments -/

/-- The self-test is passed or yet to be run. -/
def Environment.Usable (e : Environment) : Prop :=
  ∀ o, e.startup.outcome = some o → o = .ok .standard

theorem Environment.usable_fresh (s : Source) : (Environment.fresh s).Usable := nofun

theorem Environment.usable_of_outcome {e : Environment}
    (h : e.startup.outcome = some (.ok .standard)) : e.Usable := by
  intro o ho
  exact (Option.some.inj (h.symm.trans ho)).symm

namespace Startup

/-- **The self-test is passed.** -/
theorem selfTest_eq_ok : selfTest = .ok () := Result.eq_ok_of_isOk (by decide +kernel)

theorem run_selfTest {s : Startup} (h : s.outcome = none) :
    Id.run (s.run (pure selfTest)) =
      (.ok .standard, ⟨some (.ok .standard)⟩, [.started .standard]) := by
  rw [selfTest_eq_ok]
  simp only [run, h]
  rfl

end Startup

namespace Operation

variable {ε α β : Type} {e : Environment}

/-- Starting up succeeds where the environment is usable, and leaves the outcome behind. -/
theorem ready_of_usable (he : e.Usable) :
    ∃ e' es, ready e = ⟨.ok .standard, e', es⟩ ∧ e'.startup.outcome = some (.ok .standard) := by
  cases ho : e.startup.outcome with
  | some o =>
    rw [ready_of_outcome ho, he o ho]
    exact ⟨e, [], rfl, by rw [ho, he o ho]⟩
  | none =>
    refine ⟨{ e with startup := ⟨some (.ok .standard)⟩ }, [.started .standard], ?_, rfl⟩
    simp only [ready, Startup.run_selfTest ho]

/-- The operation leads from usable environments to usable environments. -/
def Keeps (x : Operation ε α) : Prop := ∀ e : Environment, e.Usable → (x e).environment.Usable

theorem keeps_pure (a : α) : Keeps (Pure.pure a : Operation ε α) := fun _ he => he

theorem keeps_ofExcept (x : Except ε α) : (ofExcept x).Keeps := fun _ he => he

theorem keeps_refuse (v : Event) (err : ε) : (refuse v err : Operation ε α).Keeps := fun _ he => he

theorem keeps_draw (n : ℕ) : (draw n : Operation ε (Except String (Octets n))).Keeps :=
  fun _ he => he

theorem keeps_ready : ready.Keeps := by
  intro e he
  obtain ⟨e', es, h, ho⟩ := ready_of_usable he
  rw [h]
  exact Environment.usable_of_outcome ho

theorem Keeps.bind {x : Operation ε α} {f : α → Operation ε β} (hx : x.Keeps)
    (hf : ∀ a, (f a).Keeps) : (x >>= f).Keeps := by
  intro e he
  have h := hx e he
  cases hxe : x e with
  | mk r e' es =>
    rw [hxe] at h
    cases r with
    | ok a =>
      rw [bind_of_ok hxe]
      exact hf a e' h
    | error err =>
      rw [bind_of_error hxe]
      exact h

/-- What follows the start-up decides the result. -/
theorem result_ready_bind (he : e.Usable) {x : Operation Error α} {r : Except Error α}
    (hx : ∀ e' : Environment, (x e').result = r) : ((ready >>= fun _ => x) e).result = r := by
  obtain ⟨e', es, h, -⟩ := ready_of_usable he
  rw [bind_of_ok h]
  exact hx e'

theorem result_bind_of_ok {x : Operation ε α} {f : α → Operation ε β} {a : α}
    (h : (x e).result = .ok a) : ((x >>= f) e).result = (f a (x e).environment).result := by
  cases hx : x e with
  | mk r e' es =>
    rw [hx] at h
    obtain rfl : r = .ok a := h
    rw [bind_of_ok hx]

theorem result_ofExcept_bind (x : Except ε α) (f : α → Operation ε β) (e : Environment) :
    ((ofExcept x >>= f) e).result = x >>= fun a => (f a e).result := by
  cases x <;> rfl

theorem result_bind_pure (x : Operation ε α) (f : α → β) (e : Environment) :
    ((x >>= fun a => Pure.pure (f a)) e).result = (x e).result.map f := by
  cases hx : x e with
  | mk r e' es =>
    cases r with
    | ok a => rw [bind_of_ok hx]; rfl
    | error err => rw [bind_of_error hx]; rfl

end Operation

open Operation

variable {e : Environment}

/-! ## Private keys -/

namespace PrivateKey

theorem keeps_generate : generate.Keeps := by
  refine keeps_ready.bind fun _ => (keeps_draw 32).bind fun r => ?_
  cases r with
  | ok seed => exact keeps_pure _
  | error cause => exact keeps_refuse _ _

theorem keeps_publicKey (k : PrivateKey) : k.publicKey.Keeps :=
  keeps_ready.bind fun _ => (keeps_ofExcept _).bind fun _ => keeps_pure _

theorem keeps_sign (k : PrivateKey) (m : Bytes) : (k.sign m).Keeps :=
  keeps_ready.bind fun _ => (keeps_ofExcept _).bind fun _ => keeps_pure _

theorem result_publicKey (he : e.Usable) (k : PrivateKey) :
    (k.publicKey e).result = k.usableSeed.map fun seed => ⟨Scheme.publicKey seed⟩ :=
  result_ready_bind he fun e' => result_bind_pure (ofExcept k.usableSeed) _ e'

theorem result_sign (he : e.Usable) (k : PrivateKey) (m : Bytes) :
    (k.sign m e).result = k.usableSeed.map fun seed => Scheme.sign seed m :=
  result_ready_bind he fun e' => result_bind_pure (ofExcept k.usableSeed) _ e'

end PrivateKey

theorem KeyPair.keeps_ofSeed (seed : Octets 32) : (KeyPair.ofSeed seed).Keeps :=
  (PrivateKey.keeps_publicKey _).bind fun _ => keeps_pure _

/-! ## Public keys -/

/-- The error that tells a refusal. -/
def Scheme.Refusal.toError (r : Scheme.Refusal) : Error := .verification algorithmName r.message

namespace PublicKey

/-- The verdict on a signature. -/
def verdict (k : PublicKey) (m : Bytes) (s : Signature) : Except Error Unit :=
  (Scheme.verify k.toOctets m s).mapError Scheme.Refusal.toError

/-- The check as an equation between functions: opened at a key that is not known, it would make the
kernel decode that key. -/
theorem check_def : check = fun k m s =>
    match Scheme.verify k.toOctets m s with
    | .ok () => Pure.pure ()
    | .error r => refuse (.refused m.length r) (.verification algorithmName r.message) := rfl

theorem keeps_check (k : PublicKey) (m : Bytes) (s : Signature) : (k.check m s).Keeps := by
  rw [check_def]
  cases hv : Scheme.verify k.toOctets m s with
  | ok => simp only [hv]; exact keeps_pure _
  | error r => simp only [hv]; exact keeps_refuse _ _

theorem keeps_verify (k : PublicKey) (m : Bytes) (s : Signature) : (k.verify m s).Keeps :=
  keeps_ready.bind fun _ => k.keeps_check m s

theorem keeps_verifyBytes (k : PublicKey) (m b : Bytes) : (k.verifyBytes m b).Keeps := by
  refine keeps_ready.bind fun _ => ?_
  cases Signature.ofBytes b with
  | ok s => exact k.keeps_check m s
  | error err => exact keeps_refuse _ _

theorem result_check (k : PublicKey) (m : Bytes) (s : Signature) (e : Environment) :
    (k.check m s e).result = k.verdict m s := by
  rw [check_def, verdict]
  cases hv : Scheme.verify k.toOctets m s with
  | ok => simp only [hv]; rfl
  | error r => simp only [hv]; rfl

theorem result_verify (he : e.Usable) (k : PublicKey) (m : Bytes) (s : Signature) :
    (k.verify m s e).result = k.verdict m s := by
  rw [verify]
  exact result_ready_bind he (k.result_check m s)

/-- Where the reading of a signature fails, its failure is the result; otherwise the check decides.
-/
theorem result_match (x : Except Error Signature) {f : Signature → Operation Error Unit}
    {g : Signature → Except Error Unit} (v : Event) (hf : ∀ s e, (f s e).result = g s)
    (e : Environment) :
    ((match x with | .ok s => f s | .error err => refuse v err) e).result = x >>= g := by
  cases x with
  | ok s => exact hf s e
  | error err => rfl

/-- **A verification is the reading of the signature, and then the verdict.** -/
theorem result_verifyBytes (he : e.Usable) (k : PublicKey) (m b : Bytes) :
    (k.verifyBytes m b e).result = Signature.ofBytes b >>= k.verdict m := by
  rw [verifyBytes]
  exact result_ready_bind he fun e' => result_match _ _ (k.result_check m) e'

end PublicKey

/-! ## Runs -/

/-- A call of one of the operations. -/
inductive Call where
  | generate
  | publicKey (k : PrivateKey)
  | keyPair (seed : Octets 32)
  | sign (k : PrivateKey) (m : Bytes)
  | verify (k : PublicKey) (m : Bytes) (s : Signature)
  | verifyBytes (k : PublicKey) (m b : Bytes)

namespace Call

/-- The environment that a call leaves behind. -/
def environment (e : Environment) : Call → Environment
  | generate => (PrivateKey.generate e).environment
  | publicKey k => (k.publicKey e).environment
  | keyPair seed => (KeyPair.ofSeed seed e).environment
  | sign k m => (k.sign m e).environment
  | verify k m s => (k.verify m s e).environment
  | verifyBytes k m b => (k.verifyBytes m b e).environment

theorem usable_environment (he : e.Usable) (c : Call) : (c.environment e).Usable := by
  cases c with
  | generate => exact PrivateKey.keeps_generate e he
  | publicKey k => exact k.keeps_publicKey e he
  | keyPair seed => exact KeyPair.keeps_ofSeed seed e he
  | sign k m => exact k.keeps_sign m e he
  | verify k m s => exact k.keeps_verify m s e he
  | verifyBytes k m b => exact k.keeps_verifyBytes m b e he

/-- **The library stays usable**, whatever is called and in whatever order. -/
theorem usable_run (source : Source) (cs : List Call) :
    (cs.foldl environment (.fresh source)).Usable := by
  have h : ∀ e : Environment, e.Usable → (cs.foldl environment e).Usable := by
    induction cs with
    | nil => exact fun e he => he
    | cons c r ih => exact fun e he => ih (c.environment e) (usable_environment he c)
  exact h _ (Environment.usable_fresh source)

end Call

end Ed25519
