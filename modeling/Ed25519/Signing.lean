import Ed25519.Operation

/-!
# Generating keys, signing, verifying

The operations on keys and signatures. Each of them starts the library up first, unless that is
done.
-/

namespace Ed25519

open Operation

/-! ## Keys -/

/-- Generate a private key: its seed is the next 32 bytes of the random source. No key comes from a
source that fails. -/
def PrivateKey.generate : Operation Error PrivateKey := do
  let _ ← ready
  match ← draw 32 with
  | .ok seed => return .ofSeed seed
  | .error cause =>
    refuse (.sourceFailed cause)
      (.keyGeneration algorithmName ("entropy source failed: " ++ cause))

/-- The public key of a private key. -/
def PrivateKey.publicKey (k : PrivateKey) : Operation Error PublicKey := do
  let _ ← ready
  let seed ← ofExcept k.usableSeed
  return ⟨Scheme.publicKey seed⟩

/-- The private key of a seed, with its public key. -/
def KeyPair.ofSeed (seed : Octets 32) : Operation Error KeyPair := do
  let k := PrivateKey.ofSeed seed
  return ⟨← k.publicKey, k⟩

/-! ## Signatures -/

/-- Sign a message. -/
def PrivateKey.sign (k : PrivateKey) (m : Bytes) : Operation Error Signature := do
  let _ ← ready
  let seed ← ofExcept k.usableSeed
  return Scheme.sign seed m

/-- The check of a signature, and the event of its refusal. -/
def PublicKey.check (k : PublicKey) (m : Bytes) (s : Signature) : Operation Error Unit :=
  match Scheme.verify k.toOctets m s with
  | .ok () => return
  | .error r => refuse (.refused m.length r) (.verification algorithmName r.message)

/-- Verify the signature of a message. -/
def PublicKey.verify (k : PublicKey) (m : Bytes) (s : Signature) : Operation Error Unit := do
  let _ ← ready
  k.check m s

/-- Verify the signature of a message, given by any bytes. Their number is checked first. -/
def PublicKey.verifyBytes (k : PublicKey) (m signature : Bytes) : Operation Error Unit := do
  let _ ← ready
  match Signature.ofBytes signature with
  | .ok s => k.check m s
  | .error e => refuse (.wrongLength m.length signature.length) e

end Ed25519
