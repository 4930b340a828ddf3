import Ed25519.Bytes
import Ed25519.Curve.Projective

/-!
# Encodings of points

A point is encoded in 32 bytes: the 255 low bits hold `y`, and the top bit holds the parity of `x`.
Decoding takes `y` modulo the order of the field, so a `y` that is not reduced is accepted, and so
is the top bit where `x` is zero.
-/

namespace Ed25519.Point

/-- The encoding of a point. -/
def encode (P : Point) : Octets 32 := Octets.ofNat 32 (P.y.val + P.x.parity <<< 255)

/-- The point with second coordinate `y` on the curve whose `x` has the given parity, if there is a
point with that `y`. -/
def ofY? (y : FieldElement) (parity : Nat) : Option Point :=
  let y2 := y * y
  (FieldElement.sqrtRatio? (y2 - 1) (curveD * y2 + 1)).map fun r =>
    ⟨if r.parity = parity then r else -r, y⟩

/-- The point that a byte string encodes, if there is one. -/
def decode? (b : Octets 32) : Option Point :=
  ofY? (.ofNat (b.toNat % (1 <<< 255))) (b.toNat >>> 255)

end Ed25519.Point
