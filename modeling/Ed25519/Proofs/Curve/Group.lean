import Ed25519.Curve.Projective
import Ed25519.Proofs.Curve.Addition

/-!
# The group of the curve

The points of the curve form a commutative group (`CurvePoint`). Its multiples are the `n`-fold sums
`Point.nsmul`, and doubling and adding in projective coordinates computes them: a projective point
denotes a point (`Projective.Denotes`), and its addition denotes the sum
(`CurvePoint.mul_toPoint`, `CurvePoint.mul_eq_nsmul`).
-/

namespace Ed25519

/-- A point of the curve. -/
@[ext] structure CurvePoint where
  toPoint : Point
  onCurve : toPoint.OnCurve

namespace CurvePoint

instance : Zero CurvePoint := ⟨⟨0, Point.zero_onCurve⟩⟩

instance : Add CurvePoint := ⟨fun P Q => ⟨P.toPoint + Q.toPoint, P.onCurve.add Q.onCurve⟩⟩

theorem neg_onCurve {P : Point} (h : P.OnCurve) : (-P).OnCurve := by
  show P.y * P.y - -P.x * -P.x = 1 + curveD * (-P.x * -P.x) * (P.y * P.y)
  rw [neg_mul_neg]
  exact h

instance : Neg CurvePoint := ⟨fun P => ⟨-P.toPoint, neg_onCurve P.onCurve⟩⟩

@[simp] theorem toPoint_zero : (0 : CurvePoint).toPoint = 0 := rfl

@[simp] theorem toPoint_add (P Q : CurvePoint) : (P + Q).toPoint = P.toPoint + Q.toPoint := rfl

@[simp] theorem toPoint_neg (P : CurvePoint) : (-P).toPoint = -P.toPoint := rfl

theorem zero_add_toPoint (P : Point) : 0 + P = P := by
  refine Point.ext ?_ ?_
  · show (0 * P.y + P.x * 1) / (1 + curveD * (0 * P.x) * (1 * P.y)) = P.x
    simp
  · show (1 * P.y + 0 * P.x) / (1 - curveD * (0 * P.x) * (1 * P.y)) = P.y
    simp

theorem neg_add_toPoint {P : Point} (h : P.OnCurve) : -P + P = 0 := by
  have hne := Point.one_sub_crossTerm_ne_zero (neg_onCurve h) h
  refine Point.ext ?_ ?_
  · show (-P.x * P.y + P.x * P.y) / _ = 0
    rw [neg_mul, neg_add_cancel, zero_div]
  · refine (div_eq_one_iff_eq hne).2 ?_
    show P.y * P.y + -P.x * P.x = 1 - curveD * (-P.x * P.x) * (P.y * P.y)
    rw [Point.OnCurve] at h
    linear_combination h

instance : AddCommGroup CurvePoint where
  add_assoc P Q R := CurvePoint.ext (P.onCurve.add_assoc Q.onCurve R.onCurve)
  zero_add P := CurvePoint.ext (zero_add_toPoint P.toPoint)
  add_zero P := CurvePoint.ext ((Point.add_comm _ _).trans (zero_add_toPoint P.toPoint))
  add_comm P Q := CurvePoint.ext (Point.add_comm P.toPoint Q.toPoint)
  neg_add_cancel P := CurvePoint.ext (neg_add_toPoint P.onCurve)
  nsmul := nsmulRec
  zsmul := zsmulRec

theorem toPoint_nsmul (n : ℕ) (P : CurvePoint) : (n • P).toPoint = Point.nsmul n P.toPoint := by
  induction n with
  | zero => rfl
  | succ n ih => rw [succ_nsmul, toPoint_add, ih]; rfl

theorem toPoint_injective : Function.Injective toPoint := fun _ _ h => CurvePoint.ext h

theorem toPoint_eq_zero_iff {P : CurvePoint} : P.toPoint = 0 ↔ P = 0 :=
  toPoint_injective.eq_iff (b := 0)

end CurvePoint

/-! ## Projective coordinates -/

namespace Projective

/-- The projective point stands for `P`. -/
structure Denotes (p : Projective) (P : Point) : Prop where
  Z_ne_zero : p.Z ≠ 0
  X_eq : p.X = P.x * p.Z
  Y_eq : p.Y = P.y * p.Z

variable {p q : Projective} {P Q : Point}

theorem Denotes.toPoint_eq (h : p.Denotes P) : p.toPoint = P := by
  refine Point.ext ?_ ?_
  · show p.X * p.Z⁻¹ = P.x
    rw [h.X_eq, mul_inv_cancel_right₀ h.Z_ne_zero]
  · show p.Y * p.Z⁻¹ = P.y
    rw [h.Y_eq, mul_inv_cancel_right₀ h.Z_ne_zero]

theorem denotes_zero : zero.Denotes 0 := ⟨by decide, by decide, by decide⟩

theorem denotes_ofPoint (P : Point) : (ofPoint P).Denotes P :=
  ⟨one_ne_zero, (mul_one P.x).symm, (mul_one P.y).symm⟩

/-- With `a` the product of the denominators, the denominator of the sum is
`a⁴ (1 - c) (1 + c)`. -/
theorem Denotes.add (hp : p.Denotes P) (hq : q.Denotes Q) (hP : P.OnCurve) (hQ : Q.OnCurve) :
    (p.add q).Denotes (P + Q) := by
  have hx := Point.add_x_mul hP hQ
  have hy := Point.add_y_mul hP hQ
  have hX : (p.add q).X = (p.Z * q.Z) ^ 4 * (1 - Point.crossTerm P Q) *
      (P.x * Q.y + Q.x * P.y) := by
    simp only [Projective.add, Point.crossTerm, hp.X_eq, hp.Y_eq, hq.X_eq, hq.Y_eq]
    ring
  have hY : (p.add q).Y = (p.Z * q.Z) ^ 4 * (1 + Point.crossTerm P Q) *
      (P.y * Q.y + P.x * Q.x) := by
    simp only [Projective.add, Point.crossTerm, hp.X_eq, hp.Y_eq, hq.X_eq, hq.Y_eq]
    ring
  have hZ : (p.add q).Z = (p.Z * q.Z) ^ 4 *
      ((1 - Point.crossTerm P Q) * (1 + Point.crossTerm P Q)) := by
    simp only [Projective.add, Point.crossTerm, hp.X_eq, hp.Y_eq, hq.X_eq, hq.Y_eq]
    ring
  refine ⟨?_, ?_, ?_⟩
  · rw [hZ]
    exact mul_ne_zero (pow_ne_zero 4 (mul_ne_zero hp.Z_ne_zero hq.Z_ne_zero))
      (mul_ne_zero (Point.one_sub_crossTerm_ne_zero hP hQ) (Point.one_add_crossTerm_ne_zero hP hQ))
  · rw [hX, hZ, ← hx]
    ring
  · rw [hY, hZ, ← hy]
    ring

end Projective

namespace CurvePoint

/-- **Doubling and adding computes multiples.** -/
theorem mul_toPoint (n : ℕ) (P : CurvePoint) : Point.mul n P.toPoint = (n • P).toPoint := by
  refine Projective.Denotes.toPoint_eq
    (ladder_induction (R := fun k (p : Projective) => p.Denotes (k • P).toPoint) ?_ ?_ ?_ n)
  · rw [zero_nsmul]
    exact Projective.denotes_zero
  · rw [one_nsmul]
    exact Projective.denotes_ofPoint P.toPoint
  · intro m n p q hp hq
    rw [add_nsmul]
    exact hp.add hq (m • P).onCurve (n • P).onCurve

theorem mul_eq_nsmul {P : Point} (h : P.OnCurve) (n : ℕ) : Point.mul n P = Point.nsmul n P :=
  (mul_toPoint n ⟨P, h⟩).trans (toPoint_nsmul n ⟨P, h⟩)

theorem isSmallOrder_iff (P : CurvePoint) : P.toPoint.isSmallOrder = true ↔ 8 • P = 0 := by
  rw [Point.isSmallOrder, decide_eq_true_iff, mul_toPoint, toPoint_eq_zero_iff]

end CurvePoint

end Ed25519
