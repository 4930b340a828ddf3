import Ed25519.Curve.Field

/-!
# Points of the curve

The curve is `-x² + y² = 1 + d x² y²` over the field of order `2 ^ 255 - 19`. Points are given by
their coordinates; the sum of two points is the Edwards addition formula, which has no exceptions
on the curve because `d` is not a square. `Point.nsmul n P` is the `n`-fold sum of `P`.
-/

namespace Ed25519

/-- The coefficient `d = -121665 / 121666` of the curve. -/
def curveD : FieldElement :=
  .ofNat 37095705934669439343138083508754565189542113879843219016388785533085940283555

/-- A pair of coordinates. -/
@[ext] structure Point where
  x : FieldElement
  y : FieldElement
  deriving DecidableEq

namespace Point

/-- The equation of the curve. -/
def OnCurve (P : Point) : Prop :=
  P.y * P.y - P.x * P.x = 1 + curveD * (P.x * P.x) * (P.y * P.y)

instance (P : Point) : Decidable P.OnCurve := inferInstanceAs (Decidable (_ = _))

/-- The neutral point. -/
def zero : Point := ⟨0, 1⟩

instance : Zero Point := ⟨zero⟩

/-- The Edwards addition formula. -/
def add (P Q : Point) : Point :=
  let t := curveD * (P.x * Q.x) * (P.y * Q.y)
  ⟨(P.x * Q.y + Q.x * P.y) / (1 + t), (P.y * Q.y + P.x * Q.x) / (1 - t)⟩

instance : Add Point := ⟨add⟩

/-- The opposite point. -/
def neg (P : Point) : Point := ⟨-P.x, P.y⟩

instance : Neg Point := ⟨neg⟩

/-- The `n`-fold sum `P + ⋯ + P`. -/
def nsmul : Nat → Point → Point
  | 0, _ => 0
  | n + 1, P => nsmul n P + P

/-- The base point: `y = 4 / 5` and `x` even. -/
def base : Point :=
  ⟨.ofNat 15112221349535400772501151409588531511454012693041857206046113283949847762202,
   .ofNat 46316835694926478169428394003475163141307993866256225615783033603165251855960⟩

theorem base_onCurve : base.OnCurve := by decide +kernel

theorem zero_onCurve : (0 : Point).OnCurve := by decide +kernel

end Point

end Ed25519
