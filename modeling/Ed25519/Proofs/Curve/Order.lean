import Ed25519.Curve.Scalar
import Ed25519.Proofs.Curve.Encoding
import Mathlib.GroupTheory.OrderOfElement

/-!
# The order of the group

The base point has order `groupOrder` (`CurvePoint.addOrderOf_base`), and the group has
`8 * groupOrder` elements (`CurvePoint.natCard_eq`): it has an element of order `8`, so that
`8 * groupOrder` divides its order, and no more elements than there are encodings, which are fewer
than `16 * groupOrder`. The order of a point is therefore a multiple of `groupOrder` unless it
divides `8`, so that `k • A` determines `k` modulo `groupOrder` (`CurvePoint.modEq_of_nsmul_eq`).
-/

namespace Ed25519.CurvePoint

/-! ## The base point -/

/-- The base point. -/
def base : CurvePoint := ⟨Point.base, Point.base_onCurve⟩

@[simp] theorem toPoint_base : base.toPoint = Point.base := rfl

theorem addOrderOf_base : addOrderOf base = groupOrder := by
  have : Fact groupOrder.Prime := ⟨prime_groupOrder⟩
  refine addOrderOf_eq_prime ?_ ?_
  · rw [← toPoint_eq_zero_iff, ← mul_toPoint]
    decide +kernel
  · rw [ne_eq, ← toPoint_eq_zero_iff]
    decide

theorem nsmul_base_eq_zero_iff {n : ℕ} : n • base = 0 ↔ groupOrder ∣ n := by
  rw [← addOrderOf_base, addOrderOf_dvd_iff_nsmul_eq_zero]

theorem nsmul_base_eq_iff {m n : ℕ} : m • base = n • base ↔ m ≡ n [MOD groupOrder] := by
  rw [nsmul_eq_nsmul_iff_modEq, addOrderOf_base]

theorem nsmul_base_mod (n : ℕ) : (n % groupOrder) • base = n • base :=
  nsmul_base_eq_iff.2 (Nat.mod_modEq n groupOrder)

/-- The order of the base point is prime to the cofactor. -/
theorem eight_nsmul_base_eq_zero_iff {n : ℕ} : 8 • (n • base) = 0 ↔ groupOrder ∣ n := by
  rw [smul_smul, nsmul_base_eq_zero_iff]
  exact ⟨Nat.Coprime.dvd_of_dvd_mul_left (by decide), fun h => h.mul_left 8⟩

/-! ## The number of points -/

/-- A point of order `8`. -/
def torsion : CurvePoint :=
  ⟨⟨.ofNat 14399317868200118260347934320527232580618823971194345261214217575416788799818,
      .ofNat 2707385501144840649318225287225658788936804267575313519463743609750303402022⟩,
    by decide +kernel⟩

theorem addOrderOf_torsion : addOrderOf torsion = 8 := by
  have : Fact (Nat.Prime 2) := ⟨Nat.prime_two⟩
  refine addOrderOf_eq_prime_pow (p := 2) (n := 2) ?_ ?_
  · rw [← toPoint_eq_zero_iff, ← mul_toPoint]
    decide +kernel
  · rw [← toPoint_eq_zero_iff, ← mul_toPoint]
    decide +kernel

/-- The number that the encoding of a point is. -/
def encodeNat (P : CurvePoint) : Fin (256 ^ 32) := ⟨P.toPoint.encode.toNat, Octets.toNat_lt _⟩

theorem encodeNat_injective : Function.Injective encodeNat := fun _ _ h =>
  encode_injective (Octets.toNat_injective (Fin.mk.inj h))

instance : Finite CurvePoint := Finite.of_injective encodeNat encodeNat_injective

theorem natCard_le : Nat.card CurvePoint ≤ 256 ^ 32 := by
  have h := Nat.card_le_card_of_injective encodeNat encodeNat_injective
  rwa [Nat.card_fin] at h

theorem natCard_eq : Nat.card CurvePoint = 8 * groupOrder := by
  have h8 : 8 ∣ Nat.card CurvePoint := addOrderOf_torsion ▸ addOrderOf_dvd_natCard torsion
  have hL : groupOrder ∣ Nat.card CurvePoint := addOrderOf_base ▸ addOrderOf_dvd_natCard base
  obtain ⟨c, hc⟩ := Nat.Coprime.mul_dvd_of_dvd_of_dvd (by decide) h8 hL
  have hpos : 0 < Nat.card CurvePoint := Nat.card_pos
  have hlt : Nat.card CurvePoint < 8 * groupOrder * 2 := natCard_le.trans_lt (by decide)
  rw [hc] at hpos hlt
  have h1 : c = 1 := by
    have := Nat.pos_of_mul_pos_left hpos
    have := Nat.lt_of_mul_lt_mul_left hlt
    omega
  rw [hc, h1, mul_one]

/-- **Every point of the curve is killed by `8 * groupOrder`.** -/
theorem eight_mul_groupOrder_nsmul (P : CurvePoint) : (8 * groupOrder) • P = 0 := by
  rw [← natCard_eq]
  exact card_nsmul_eq_zero'

/-! ## Multiples of a point -/

theorem groupOrder_dvd_addOrderOf {A : CurvePoint} (hA : 8 • A ≠ 0) :
    groupOrder ∣ addOrderOf A := by
  rcases Nat.coprime_or_dvd_of_prime prime_groupOrder (addOrderOf A) with h | h
  · refine absurd (addOrderOf_dvd_iff_nsmul_eq_zero.1 (h.symm.dvd_of_dvd_mul_right ?_)) hA
    exact addOrderOf_dvd_iff_nsmul_eq_zero.2 (eight_mul_groupOrder_nsmul A)
  · exact h

/-- A multiple of a point that is not of small order determines the factor modulo `groupOrder`. -/
theorem modEq_of_nsmul_eq {A : CurvePoint} (hA : 8 • A ≠ 0) {k l : ℕ} (h : k • A = l • A) :
    k ≡ l [MOD groupOrder] :=
  (nsmul_eq_nsmul_iff_modEq.1 h).of_dvd (groupOrder_dvd_addOrderOf hA)

end Ed25519.CurvePoint
