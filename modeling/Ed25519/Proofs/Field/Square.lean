import Ed25519.Proofs.Field.Algebra
import Mathlib.Tactic.Ring
import Mathlib.Tactic.LinearCombination

/-!
# Square roots and signs

* `mul_self_of_sqrtRatio?`, `exists_sqrtRatio?_eq_some`: `FieldElement.sqrtRatio?` gives a square
  root of a quotient, and gives one whenever there is one.
* `parity_neg`: of `x` and `-x`, not zero, one is even and one is odd. A square and a parity thus
  determine the root (`eq_of_mul_self_eq`).
* `not_isSquare_of_pow_eq`: Euler's criterion, in the direction that refutes squares.
-/

namespace Ed25519.FieldElement

/-! ## Euler's criterion -/

theorem pow_half_mul_self {a : FieldElement} (ha : a ≠ 0) :
    a ^ (fieldOrder / 2) * a ^ (fieldOrder / 2) = 1 := by
  rw [← pow_add, show fieldOrder / 2 + fieldOrder / 2 = fieldOrder - 1 by decide]
  exact pow_fieldOrder_sub_one ha

theorem zero_pow_half : (0 : FieldElement) ^ (fieldOrder / 2) = 0 := zero_pow (by decide)

theorem one_ne_neg_one : (1 : FieldElement) ≠ -1 := by decide

/-- A square to the power of half the order of the field is zero or one. -/
theorem not_isSquare_of_pow_eq {a : FieldElement} (h : a ^ (fieldOrder / 2) = -1) :
    ¬ IsSquare a := by
  rintro ⟨r, rfl⟩
  have hr : r ≠ 0 := by
    rintro rfl
    exact absurd h (by decide +kernel)
  rw [mul_pow, pow_half_mul_self hr] at h
  exact one_ne_neg_one h

/-! ## Roots of quotients -/

theorem sqrtMinusOne_mul_self : sqrtMinusOne * sqrtMinusOne = -1 := by decide +kernel

/-- The candidate root of `x²` over `v`: its square is `x²` up to the sign of `v⁴ x` among the
squares. -/
theorem mul_candidate_mul_self (v x : FieldElement) (n : ℕ) :
    v * ((v * (x * x) * (v * v * v) *
        (v * (x * x) * (v * v * v) * (v * v * v) * v) ^ n) *
      (v * (x * x) * (v * v * v) *
        (v * (x * x) * (v * v * v) * (v * v * v) * v) ^ n)) =
    v * (x * x) * (v ^ 4 * x) ^ (4 * n + 2) := by
  have hbase : v * (x * x) * (v * v * v) * (v * v * v) * v = (v ^ 4 * x) ^ 2 := by ring
  rw [hbase, ← pow_mul]
  ring

theorem mul_self_of_sqrtRatio? {u v r : FieldElement} (h : sqrtRatio? u v = some r) :
    v * (r * r) = u := by
  simp only [sqrtRatio?] at h
  split at h
  next hw =>
    cases h
    exact hw
  next =>
    split at h
    next hw =>
      cases h
      linear_combination sqrtMinusOne * sqrtMinusOne * hw - u * sqrtMinusOne_mul_self
    next => cases h

theorem exists_sqrtRatio?_eq_some (v x : FieldElement) :
    ∃ r, sqrtRatio? (v * (x * x)) v = some r := by
  have key := mul_candidate_mul_self v x ((fieldOrder - 5) / 8)
  rw [show 4 * ((fieldOrder - 5) / 8) + 2 = fieldOrder / 2 by decide] at key
  have hsign : v * (x * x) * (v ^ 4 * x) ^ (fieldOrder / 2) = v * (x * x) ∨
      v * (x * x) * (v ^ 4 * x) ^ (fieldOrder / 2) = -(v * (x * x)) := by
    by_cases hc : v ^ 4 * x = 0
    · left
      rw [hc, zero_pow_half, mul_zero]
      rcases mul_eq_zero.1 hc with hv | hx
      · rw [pow_eq_zero_iff (by decide)] at hv
        rw [hv, zero_mul]
      · rw [hx, mul_zero, mul_zero]
    · refine (mul_self_eq_one_iff.1 (pow_half_mul_self hc)).imp ?_ ?_ <;> intro h <;> rw [h]
      · rw [mul_one]
      · rw [mul_neg, mul_one]
  simp only [sqrtRatio?, key]
  split_ifs with h₁ h₂
  · exact ⟨_, rfl⟩
  · exact ⟨_, rfl⟩
  · exact absurd hsign (not_or.2 ⟨h₁, h₂⟩)

/-! ## Signs -/

theorem val_ne_zero {a : FieldElement} (ha : a ≠ 0) : a.val ≠ 0 := fun h => ha (ext h)

theorem parity_lt_two (a : FieldElement) : a.parity < 2 := Nat.mod_lt _ Nat.two_pos

theorem parity_neg {a : FieldElement} (ha : a ≠ 0) : (-a).parity = 1 - a.parity := by
  have hpos := Nat.pos_of_ne_zero (val_ne_zero ha)
  have hlt := a.isLt
  have hodd : fieldOrder % 2 = 1 := by decide
  have hval : (-a).val = fieldOrder - a.val := Nat.mod_eq_of_lt (by omega)
  simp only [parity, hval]
  omega

/-- A root is determined by its square and its parity. -/
theorem eq_of_mul_self_eq {a b : FieldElement} (h : a * a = b * b) (hp : a.parity = b.parity) :
    a = b := by
  rcases mul_self_eq_mul_self_iff.1 h with h | h
  · exact h
  · by_cases hb : b = 0
    · rw [h, hb, neg_zero]
    · rw [h, parity_neg hb] at hp
      have := b.parity_lt_two
      omega

/-- One of the two roots of a square has the wanted parity, unless the square is zero. -/
theorem parity_ite_neg {a : FieldElement} (ha : a ≠ 0) {s : ℕ} (hs : s < 2) :
    (if a.parity = s then a else -a).parity = s := by
  split
  next h => exact h
  next h =>
    rw [parity_neg ha]
    have := a.parity_lt_two
    omega

end Ed25519.FieldElement
