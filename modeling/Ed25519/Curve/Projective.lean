import Ed25519.Curve.Point

/-!
# Multiples of points

A projective point `(X : Y : Z)` with `Z ≠ 0` denotes the point `(X / Z, Y / Z)`. Its addition
needs no division, so that a multiple of a point (`Point.mul`) costs a single one. The formula is
the Edwards addition formula cleared of denominators: on the curve it denotes the sum of the
points denoted.
-/

namespace Ed25519

/-- Projective coordinates of a point. -/
structure Projective where
  X : FieldElement
  Y : FieldElement
  Z : FieldElement

namespace Projective

/-- A point, with denominator one. -/
def ofPoint (P : Point) : Projective := ⟨P.x, P.y, 1⟩

/-- The point denoted. -/
def toPoint (P : Projective) : Point :=
  let i := P.Z.inv
  ⟨P.X * i, P.Y * i⟩

/-- The neutral point. -/
def zero : Projective := ⟨0, 1, 1⟩

/-- The Edwards addition formula over a common denominator. -/
def add (P Q : Projective) : Projective :=
  let a := P.Z * Q.Z
  let b := a * a
  let c := P.X * Q.X
  let e := P.Y * Q.Y
  let t := curveD * c * e
  let f := b - t
  let g := b + t
  ⟨a * f * (P.X * Q.Y + Q.X * P.Y), a * g * (e + c), f * g⟩

end Projective

/-- The multiple `n P`, by doubling and adding in projective coordinates. -/
def Point.mul (n : Nat) (P : Point) : Point :=
  (ladder Projective.add Projective.zero (Projective.ofPoint P) n).toPoint

/-- A point whose order divides the cofactor `8` of the curve. -/
def Point.isSmallOrder (P : Point) : Bool := Point.mul 8 P = 0

end Ed25519
