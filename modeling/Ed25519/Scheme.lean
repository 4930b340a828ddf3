import Ed25519.Curve.Encoding
import Ed25519.Curve.Scalar
import Ed25519.Hash.Sha512
import Ed25519.Signature

/-!
# The signature scheme

A seed of 32 bytes is hashed to a secret scalar and a nonce key; the public key is the encoding of
that multiple of the base point. Signing is deterministic. Verification is strict: beside the
equation of the scheme it asks that the response is reduced and that neither the public key nor the
commitment has small order, and it compares encodings, so that a commitment that is not canonically
encoded is refused.
-/

namespace Ed25519.Scheme

/-! ## Signing -/

/-- The secret scalar of a seed: the first half of its hash, clamped. -/
def secretScalar (seed : Octets 32) : Nat :=
  clamp ((Sha512.digest seed.toBytes).left 32 32).toNat

/-- The key of the nonces of a seed: the second half of its hash. -/
def nonceKey (seed : Octets 32) : Octets 32 :=
  (Sha512.digest seed.toBytes).right 32 32

/-- The public key of a seed. -/
def publicKey (seed : Octets 32) : Octets 32 := (Point.mul (secretScalar seed) Point.base).encode

/-- The nonce with which a seed signs a message. -/
def nonce (seed : Octets 32) (m : Bytes) : Nat :=
  (Sha512.digest ((nonceKey seed).toBytes ++ m)).toNat % groupOrder

/-- The challenge that binds a commitment, a public key and a message. -/
def challenge (commitment key : Octets 32) (m : Bytes) : Nat :=
  (Sha512.digest (commitment.toBytes ++ key.toBytes ++ m)).toNat % groupOrder

/-- The signature of a message by a seed. -/
def sign (seed : Octets 32) (m : Bytes) : Signature :=
  let r := nonce seed m
  let commitment := (Point.mul r Point.base).encode
  let k := challenge commitment (publicKey seed) m
  ⟨commitment, Octets.ofNat 32 ((r + k * secretScalar seed) % groupOrder)⟩

/-! ## Verification -/

/-- Why a signature is refused. -/
inductive Refusal where
  | invalidPublicKey
  | mismatch
  deriving DecidableEq

/-- The reason of a refusal. -/
def Refusal.message : Refusal → String
  | invalidPublicKey => "public key is not a valid curve point"
  | mismatch => "signature does not match message and public key"

/-- The commitment that a response answers for the point `A` of a public key `key`. -/
def recomputed (key : Octets 32) (A : Point) (m : Bytes) (s : Signature) : Octets 32 :=
  let k := challenge s.commitment key m
  (Point.mul s.response.toNat Point.base + Point.mul k (-A)).encode

/-- The checks on a signature once the point `A` of the public key `key` is known. -/
def accepts (key : Octets 32) (A : Point) (m : Bytes) (s : Signature) : Bool :=
  decide (s.response.toNat < groupOrder) &&
    match Point.decode? s.commitment with
    | none => false
    | some R => !R.isSmallOrder && !A.isSmallOrder && decide (recomputed key A m s = s.commitment)

/-- Whether `s` is a signature of `m` under the public key `key`. -/
def verify (key : Octets 32) (m : Bytes) (s : Signature) : Except Refusal Unit :=
  match Point.decode? key with
  | none => .error .invalidPublicKey
  | some A => if accepts key A m s then .ok () else .error .mismatch

end Ed25519.Scheme
