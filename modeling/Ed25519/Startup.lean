import Ed25519.Event
import Ed25519.Key.Private

/-!
# Starting up

The arithmetic beneath the operations is tested before its first use. The outcome of that test is
kept: it is neither repeated nor changed, so that a library that failed its test once does no work
at all.

* `Startup.run`: the outcome of starting up, with the state it leaves behind.
* `Startup.selfTest`: the test.
-/

namespace Ed25519

/-- How far the library has started up: the outcome, once there is one. -/
structure Startup where
  outcome : Option (Except Error Sizes)

namespace Startup

/-- Before anything is run. -/
def fresh : Startup := ⟨none⟩

/-- The outcome of a self-test that gives `check`. -/
def outcomeOf (check : Except Error Unit) : Except Error Sizes :=
  check.map fun _ => Sizes.standard

/-- The event that tells an outcome. -/
def eventOf : Except Error Sizes → Event
  | .ok s => .started s
  | .error e => .notStarted e

/-- Start up by the self-test `check`, which is run only if there is no outcome yet. The answer is
the outcome kept. -/
def run {m : Type → Type} [Monad m] (s : Startup) (check : m (Except Error Unit)) :
    m (Except Error Sizes × Startup × List Event) :=
  match s.outcome with
  | some o => return (o, s, [])
  | none => do
    let o := outcomeOf (← check)
    return (o, ⟨some o⟩, [eventOf o])

/-! ## The self-test -/

/-- The seed of the self-test. -/
def testSeed : Octets 32 := ⟨List.replicate 32 0x5a, rfl⟩

/-- The message of the self-test. -/
def testMessage : Bytes := Bytes.ofString "natrium backend self-test"

/-- Write a key and read it back, sign, verify, and have a tampered signature refused. Signing cannot
fail here, as a seed signs every message: the failure "signing failed" that is provided for it is
never met. -/
def selfTest : Except Error Unit := do
  let key := PrivateKey.ofSeed testSeed
  let restored := PrivateKey.ofOctets key.toOctets
  match restored.usableSeed with
  | .error e => failed ("key pair encoding rejected: " ++ e.message)
  | .ok seed =>
    if Scheme.publicKey seed ≠ key.publicHalf then
      failed "public key derivation is not deterministic"
    let signature := Scheme.sign seed testMessage
    match Scheme.verify key.publicHalf testMessage signature with
    | .error r => failed ("verification of a fresh signature failed: " ++ r.message)
    | .ok () =>
      let tampered := Signature.ofOctets (signature.toOctets.invertBit 504)
      match Scheme.verify key.publicHalf testMessage tampered with
      | .error _ => return
      | .ok () => failed "a tampered signature was accepted"
where
  /-- The failure of the self-test. -/
  failed (details : String) : Except Error Unit := .error (.initialization algorithmName details)

end Startup

end Ed25519
