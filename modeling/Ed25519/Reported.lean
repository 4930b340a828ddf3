import Ed25519.Signing
import Ed25519.Report

/-!
# Operations with reports

The operations as a caller sees them who does not know the signature scheme: failures are reports,
and a private key that cannot be used is refused when it is read.
-/

namespace Ed25519.Reported

open Operation

/-- Tell the failures of an operation by reports. -/
def reported {α : Type} (x : Operation Error α) : Operation Report α := x.mapError Error.toReport

/-- Generate a private key and its public key. -/
def keyPair : Operation Report KeyPair := do
  let k ← reported PrivateKey.generate
  return ⟨← reported k.publicKey, k⟩

/-- The key pair of a seed, given by any bytes. Their number is checked first. -/
def keyPairOfSeed (seed : Bytes) : Operation Report KeyPair :=
  match Octets.ofBytes? 32 seed with
  | some s => reported (KeyPair.ofSeed s)
  | none => ofExcept (.error ⟨"Ed25519 seed", .length 32 seed.length⟩)

/-- The public key of a private key. -/
def publicKey (k : PrivateKey) : Operation Report PublicKey := reported k.publicKey

/-- Sign a message. -/
def sign (m : Bytes) (k : PrivateKey) : Operation Report Signature := reported (k.sign m)

/-- Verify the signature of a message. -/
def verify (m : Bytes) (s : Signature) (k : PublicKey) : Operation Report Unit :=
  reported (k.verify m s)

/-- Read a public key. -/
def readPublicKey (b : Bytes) : Except Report PublicKey :=
  (PublicKey.ofBytes b).mapError Error.toReport

/-- Read a private key whose halves belong together. -/
def readPrivateKey (b : Bytes) : Except Report PrivateKey :=
  Except.mapError Error.toReport do
    let k ← PrivateKey.ofBytes b
    let _ ← k.usableSeed
    return k

/-- Read a signature. -/
def readSignature (b : Bytes) : Except Report Signature :=
  (Signature.ofBytes b).mapError Error.toReport

end Ed25519.Reported
