import Ed25519.Curve.Point
import Ed25519.Proofs.Field.Square
import Mathlib.Tactic.FieldSimp

/-!
# The addition of the curve

On the curve the denominators of the addition formula do not vanish, because `d` is not a square
(`crossTerm_mul_self_ne_one`). The sum of two points of the curve is therefore on the curve
(`OnCurve.add`), and sums are associative (`OnCurve.add_assoc`). Both come down to identities
between polynomials modulo the equation of the curve, which are stated for any commutative ring.
-/

namespace Ed25519

/-! ## Polynomial identities -/

section Identities

variable {A : Type*} [CommRing A] {d x₁ y₁ x₂ y₂ x₃ y₃ : A}

/-- The equation of the curve for a sum, cleared of denominators. -/
theorem sum_onCurve_identity
    (h₁ : y₁ * y₁ - x₁ * x₁ = 1 + d * (x₁ * x₁) * (y₁ * y₁))
    (h₂ : y₂ * y₂ - x₂ * x₂ = 1 + d * (x₂ * x₂) * (y₂ * y₂)) :
    ((y₁ * y₂ + x₁ * x₂) * (1 + d * (x₁ * x₂) * (y₁ * y₂))) ^ 2 -
        ((x₁ * y₂ + x₂ * y₁) * (1 - d * (x₁ * x₂) * (y₁ * y₂))) ^ 2 =
      ((1 + d * (x₁ * x₂) * (y₁ * y₂)) * (1 - d * (x₁ * x₂) * (y₁ * y₂))) ^ 2 +
        d * ((x₁ * y₂ + x₂ * y₁) * (y₁ * y₂ + x₁ * x₂)) ^ 2 := by
  linear_combination
    ((1 + d * (x₁ * x₁) * (y₁ * y₁) * (d * (x₂ * x₂) * (y₂ * y₂))) * (y₂ * y₂ - x₂ * x₂) -
        d * (x₂ * x₂) * (y₂ * y₂) *
          (y₁ * y₁ - x₁ * x₁ + 1 + d * (x₁ * x₁) * (y₁ * y₁))) * h₁ +
      ((1 + d * (x₁ * x₁) * (y₁ * y₁) * (d * (x₂ * x₂) * (y₂ * y₂))) *
          (1 + d * (x₁ * x₁) * (y₁ * y₁)) -
        d * (x₁ * x₁) * (y₁ * y₁) *
          (y₂ * y₂ - x₂ * x₂ + 1 + d * (x₂ * x₂) * (y₂ * y₂))) * h₂

/-- The two ways to add three points have one first coordinate, cleared of denominators. -/
theorem sum_assoc_x_identity
    (h₁ : y₁ * y₁ - x₁ * x₁ = 1 + d * (x₁ * x₁) * (y₁ * y₁))
    (h₂ : y₂ * y₂ - x₂ * x₂ = 1 + d * (x₂ * x₂) * (y₂ * y₂))
    (h₃ : y₃ * y₃ - x₃ * x₃ = 1 + d * (x₃ * x₃) * (y₃ * y₃)) :
    ((x₁ * y₂ + x₂ * y₁) * (1 - d * (x₁ * x₂) * (y₁ * y₂)) * y₃ +
          x₃ * ((y₁ * y₂ + x₁ * x₂) * (1 + d * (x₁ * x₂) * (y₁ * y₂)))) *
        ((1 + d * (x₂ * x₃) * (y₂ * y₃)) * (1 - d * (x₂ * x₃) * (y₂ * y₃)) +
          d * (x₁ * y₁) * ((x₂ * y₃ + x₃ * y₂) * (y₂ * y₃ + x₂ * x₃))) =
      (x₁ * ((y₂ * y₃ + x₂ * x₃) * (1 + d * (x₂ * x₃) * (y₂ * y₃))) +
          (x₂ * y₃ + x₃ * y₂) * (1 - d * (x₂ * x₃) * (y₂ * y₃)) * y₁) *
        ((1 + d * (x₁ * x₂) * (y₁ * y₂)) * (1 - d * (x₁ * x₂) * (y₁ * y₂)) +
          d * (x₃ * y₃) * ((x₁ * y₂ + x₂ * y₁) * (y₁ * y₂ + x₁ * x₂))) := by
  linear_combination
    d * (x₂ * y₂) *
        ((x₁ * x₂ * x₃ + x₁ * y₂ * y₃ - y₁ * x₂ * y₃ - y₁ * y₂ * x₃) * (x₃ * y₃) *
            (y₂ ^ 2 - x₂ ^ 2 - d * (x₂ * y₂) ^ 2) +
          (x₁ * x₂ * x₃ + x₁ * y₂ * y₃ + y₁ * x₂ * y₃ + y₁ * y₂ * x₃) * (x₂ * y₂) *
            (y₃ ^ 2 - x₃ ^ 2 - 1)) * h₁ +
      d * (x₂ * y₂) *
        ((x₁ * x₂ * x₃ - x₁ * y₂ * y₃ - y₁ * x₂ * y₃ + y₁ * y₂ * x₃) * (x₁ * y₁) *
            (y₃ ^ 2 - x₃ ^ 2 - 1) -
          (x₁ * x₂ * x₃ + x₁ * y₂ * y₃ - y₁ * x₂ * y₃ - y₁ * y₂ * x₃) * (x₃ * y₃) *
            (y₁ ^ 2 - x₁ ^ 2 - 1)) * h₂ -
      d * (x₂ * y₂) *
        ((x₁ * x₂ * x₃ - x₁ * y₂ * y₃ - y₁ * x₂ * y₃ + y₁ * y₂ * x₃) * (x₁ * y₁) *
            (y₂ ^ 2 - x₂ ^ 2 - d * (x₂ * y₂) ^ 2) +
          (x₁ * x₂ * x₃ + x₁ * y₂ * y₃ + y₁ * x₂ * y₃ + y₁ * y₂ * x₃) * (x₂ * y₂) *
            (y₁ ^ 2 - x₁ ^ 2 - 1)) * h₃

/-- The two ways to add three points have one second coordinate, cleared of denominators. -/
theorem sum_assoc_y_identity
    (h₁ : y₁ * y₁ - x₁ * x₁ = 1 + d * (x₁ * x₁) * (y₁ * y₁))
    (h₂ : y₂ * y₂ - x₂ * x₂ = 1 + d * (x₂ * x₂) * (y₂ * y₂))
    (h₃ : y₃ * y₃ - x₃ * x₃ = 1 + d * (x₃ * x₃) * (y₃ * y₃)) :
    ((y₁ * y₂ + x₁ * x₂) * (1 + d * (x₁ * x₂) * (y₁ * y₂)) * y₃ +
          (x₁ * y₂ + x₂ * y₁) * (1 - d * (x₁ * x₂) * (y₁ * y₂)) * x₃) *
        ((1 + d * (x₂ * x₃) * (y₂ * y₃)) * (1 - d * (x₂ * x₃) * (y₂ * y₃)) -
          d * (x₁ * y₁) * ((x₂ * y₃ + x₃ * y₂) * (y₂ * y₃ + x₂ * x₃))) =
      (y₁ * ((y₂ * y₃ + x₂ * x₃) * (1 + d * (x₂ * x₃) * (y₂ * y₃))) +
          x₁ * ((x₂ * y₃ + x₃ * y₂) * (1 - d * (x₂ * x₃) * (y₂ * y₃)))) *
        ((1 + d * (x₁ * x₂) * (y₁ * y₂)) * (1 - d * (x₁ * x₂) * (y₁ * y₂)) -
          d * (x₃ * y₃) * ((x₁ * y₂ + x₂ * y₁) * (y₁ * y₂ + x₁ * x₂))) := by
  linear_combination
    d * (x₂ * y₂) *
        ((x₁ * x₂ * y₃ + x₁ * y₂ * x₃ - y₁ * x₂ * x₃ - y₁ * y₂ * y₃) * (-(x₃ * y₃)) *
            (y₂ ^ 2 - x₂ ^ 2 - d * (x₂ * y₂) ^ 2) +
          (x₁ * x₂ * y₃ + x₁ * y₂ * x₃ + y₁ * x₂ * x₃ + y₁ * y₂ * y₃) * (x₂ * y₂) *
            (y₃ ^ 2 - x₃ ^ 2 - 1)) * h₁ +
      d * (x₂ * y₂) *
        ((x₁ * x₂ * y₃ - x₁ * y₂ * x₃ - y₁ * x₂ * x₃ + y₁ * y₂ * y₃) * (x₁ * y₁) *
            (y₃ ^ 2 - x₃ ^ 2 - 1) -
          (x₁ * x₂ * y₃ + x₁ * y₂ * x₃ - y₁ * x₂ * x₃ - y₁ * y₂ * y₃) * (-(x₃ * y₃)) *
            (y₁ ^ 2 - x₁ ^ 2 - 1)) * h₂ -
      d * (x₂ * y₂) *
        ((x₁ * x₂ * y₃ - x₁ * y₂ * x₃ - y₁ * x₂ * x₃ + y₁ * y₂ * y₃) * (x₁ * y₁) *
            (y₂ ^ 2 - x₂ ^ 2 - d * (x₂ * y₂) ^ 2) +
          (x₁ * x₂ * y₃ + x₁ * y₂ * x₃ + y₁ * x₂ * x₃ + y₁ * y₂ * y₃) * (x₂ * y₂) *
            (y₁ ^ 2 - x₁ ^ 2 - 1)) * h₃

end Identities

/-! ## Denominators -/

theorem not_isSquare_curveD : ¬ IsSquare curveD :=
  FieldElement.not_isSquare_of_pow_eq (by decide +kernel)

theorem eq_zero_of_mul_self_eq_curveD_mul {a b : FieldElement} (h : a * a = curveD * (b * b)) :
    b = 0 := by
  by_contra hb
  refine not_isSquare_curveD ⟨a / b, ?_⟩
  rw [div_mul_div_comm, h, mul_div_cancel_right₀ _ (mul_ne_zero hb hb)]

namespace Point

variable {P Q R : Point}

/-- The product `d x₁ x₂ y₁ y₂` in the denominators of a sum. -/
def crossTerm (P Q : Point) : FieldElement := curveD * (P.x * Q.x) * (P.y * Q.y)

/-- If the square of `c = d x₁ x₂ y₁ y₂` were one, then `d` would be a quotient of squares: with `i`
a root of `-1`, `(y₁ + c i x₁)² = d (x₁ y₁ (y₂ + i x₂))²`, and likewise for `-i`. -/
theorem crossTerm_mul_self_ne_one (hP : P.OnCurve) (hQ : Q.OnCurve) :
    crossTerm P Q * crossTerm P Q ≠ 1 := by
  intro h
  simp only [OnCurve, crossTerm] at hP hQ h
  have root : ∀ i : FieldElement, i * i = -1 → P.x * P.y * (Q.y + i * Q.x) = 0 := by
    intro i hi
    refine eq_zero_of_mul_self_eq_curveD_mul
      (a := P.y + curveD * (P.x * Q.x) * (P.y * Q.y) * i * P.x) ?_
    linear_combination hP - curveD * (P.x * P.y) ^ 2 * hQ + P.x * P.x * (i * i) * h +
      (P.x * P.x - curveD * (P.x * P.y * Q.x) ^ 2) * hi - h
  have hi := FieldElement.sqrtMinusOne_mul_self
  have hp := root _ hi
  have hm := root (-FieldElement.sqrtMinusOne) (by rw [neg_mul_neg, hi])
  have four : (4 : FieldElement) = 0 := by
    linear_combination -4 * h +
      2 * curveD * (P.x * Q.x) * (P.y * Q.y) * curveD * Q.x * (hp + hm)
  exact absurd four (by decide)

theorem one_add_crossTerm_ne_zero (hP : P.OnCurve) (hQ : Q.OnCurve) : 1 + crossTerm P Q ≠ 0 := by
  intro h
  refine crossTerm_mul_self_ne_one hP hQ ?_
  linear_combination (crossTerm P Q - 1) * h

theorem one_sub_crossTerm_ne_zero (hP : P.OnCurve) (hQ : Q.OnCurve) : 1 - crossTerm P Q ≠ 0 := by
  intro h
  refine crossTerm_mul_self_ne_one hP hQ ?_
  linear_combination -(crossTerm P Q + 1) * h

/-! ## Sums -/

theorem add_x_mul (hP : P.OnCurve) (hQ : Q.OnCurve) :
    (P + Q).x * (1 + crossTerm P Q) = P.x * Q.y + Q.x * P.y :=
  div_mul_cancel₀ _ (one_add_crossTerm_ne_zero hP hQ)

theorem add_y_mul (hP : P.OnCurve) (hQ : Q.OnCurve) :
    (P + Q).y * (1 - crossTerm P Q) = P.y * Q.y + P.x * Q.x :=
  div_mul_cancel₀ _ (one_sub_crossTerm_ne_zero hP hQ)

theorem OnCurve.add (hP : P.OnCurve) (hQ : Q.OnCurve) : (P + Q).OnCurve := by
  have key := sum_onCurve_identity hP hQ
  have hx := add_x_mul hP hQ
  have hy := add_y_mul hP hQ
  have hne : (1 + crossTerm P Q) * (1 - crossTerm P Q) ≠ 0 :=
    mul_ne_zero (one_add_crossTerm_ne_zero hP hQ) (one_sub_crossTerm_ne_zero hP hQ)
  rw [← hx, ← hy] at key
  refine mul_right_cancel₀ (mul_ne_zero hne hne) ?_
  simp only [crossTerm] at key ⊢
  linear_combination key

protected theorem add_comm (P Q : Point) : P + Q = Q + P := by
  show Point.add P Q = Point.add Q P
  simp only [Point.add]
  congr 2 <;> ring

theorem OnCurve.add_assoc (hP : P.OnCurve) (hQ : Q.OnCurve) (hR : R.OnCurve) :
    P + Q + R = P + (Q + R) := by
  have hPQ := hP.add hQ
  have hQR := hQ.add hR
  have hx := add_x_mul hP hQ
  have hy := add_y_mul hP hQ
  have hx' := add_x_mul hQ hR
  have hy' := add_y_mul hQ hR
  have hne : (1 + crossTerm P Q) * (1 - crossTerm P Q) *
      ((1 + crossTerm Q R) * (1 - crossTerm Q R)) ≠ 0 :=
    mul_ne_zero
      (mul_ne_zero (one_add_crossTerm_ne_zero hP hQ) (one_sub_crossTerm_ne_zero hP hQ))
      (mul_ne_zero (one_add_crossTerm_ne_zero hQ hR) (one_sub_crossTerm_ne_zero hQ hR))
  refine Point.ext ?_ ?_
  · refine (div_eq_div_iff (one_add_crossTerm_ne_zero hPQ hR)
      (one_add_crossTerm_ne_zero hP hQR)).2 (mul_right_cancel₀ hne ?_)
    have key := sum_assoc_x_identity hP hQ hR
    rw [← hx, ← hy, ← hx', ← hy'] at key
    simp only [crossTerm] at key ⊢
    linear_combination key
  · refine (div_eq_div_iff (one_sub_crossTerm_ne_zero hPQ hR)
      (one_sub_crossTerm_ne_zero hP hQR)).2 (mul_right_cancel₀ hne ?_)
    have key := sum_assoc_y_identity hP hQ hR
    rw [← hx, ← hy, ← hx', ← hy'] at key
    simp only [crossTerm] at key ⊢
    linear_combination key

end Point

end Ed25519
