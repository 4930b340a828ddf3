import Ed25519.Curve.Encoding
import Ed25519.Proofs.Bytes
import Ed25519.Proofs.Curve.Group

/-!
# Encoded points

* `Point.Encodes`: what it means that 32 bytes encode a point. `Point.decode?` finds that point
  (`Point.decode?_eq_some_iff`), so bytes encode at most one.
* `Point.encodes_encode`: the encoding of a point of the curve encodes it, so that different points
  have different encodings (`CurvePoint.encode_injective`).
-/

namespace Ed25519

namespace Point

/-- The bytes `b` encode the point `P`: their 255 low bits are a number of the class of `y`, and
their top bit is the parity of `x`, unless `x` is zero. -/
structure Encodes (b : Octets 32) (P : Point) : Prop where
  onCurve : P.OnCurve
  y_eq : P.y = .ofNat (b.toNat % 2 ^ 255)
  sign : P.x = 0 ∨ P.x.parity = b.toNat / 2 ^ 255

/-! ## Decoding -/

theorem onCurve_iff {P : Point} :
    P.OnCurve ↔ (curveD * (P.y * P.y) + 1) * (P.x * P.x) = P.y * P.y - 1 := by
  rw [OnCurve]
  constructor <;> intro h <;> linear_combination -h

/-- The denominator of `x²` does not vanish: `-1` is a square, and `d` is not. -/
theorem denominator_ne_zero (y : FieldElement) : curveD * (y * y) + 1 ≠ 0 := by
  intro h
  have hy : y = 0 := by
    refine eq_zero_of_mul_self_eq_curveD_mul (a := FieldElement.sqrtMinusOne) ?_
    rw [FieldElement.sqrtMinusOne_mul_self]
    linear_combination -h
  rw [hy, mul_zero, mul_zero, zero_add] at h
  exact one_ne_zero h

theorem mul_self_ite_neg (r : FieldElement) (c : Prop) [Decidable c] :
    (if c then r else -r) * (if c then r else -r) = r * r := by
  split
  · rfl
  · exact neg_mul_neg r r

theorem ofY?_eq_some_iff {y : FieldElement} {s : ℕ} (hs : s < 2) {P : Point} :
    ofY? y s = some P ↔ P.OnCurve ∧ P.y = y ∧ (P.x = 0 ∨ P.x.parity = s) := by
  simp only [ofY?, Option.map_eq_some_iff]
  constructor
  · rintro ⟨r, hr, rfl⟩
    refine ⟨onCurve_iff.2 ?_, rfl, ?_⟩
    · show (curveD * (y * y) + 1) * ((if r.parity = s then r else -r) * _) = y * y - 1
      rw [mul_self_ite_neg]
      exact FieldElement.mul_self_of_sqrtRatio? hr
    · by_cases h0 : r = 0
      · left
        show (if r.parity = s then r else -r) = 0
        rw [h0, neg_zero, ite_self]
      · exact Or.inr (FieldElement.parity_ite_neg h0 hs)
  · rintro ⟨hP, rfl, hsign⟩
    have hx := onCurve_iff.1 hP
    obtain ⟨r, hr⟩ := FieldElement.exists_sqrtRatio?_eq_some (curveD * (P.y * P.y) + 1) P.x
    rw [hx] at hr
    refine ⟨r, hr, Point.ext ?_ rfl⟩
    have hsq : r * r = P.x * P.x :=
      mul_left_cancel₀ (denominator_ne_zero P.y)
        ((FieldElement.mul_self_of_sqrtRatio? hr).trans hx.symm)
    show (if r.parity = s then r else -r) = P.x
    by_cases h0 : r = 0
    · rw [h0, mul_zero, eq_comm, mul_self_eq_zero] at hsq
      rw [h0, neg_zero, ite_self, hsq]
    · have hx0 : P.x ≠ 0 := fun h => h0 (mul_self_eq_zero.1 (by rw [hsq, h, mul_zero]))
      refine FieldElement.eq_of_mul_self_eq ((mul_self_ite_neg r _).trans hsq) ?_
      rw [FieldElement.parity_ite_neg h0 hs, hsign.resolve_left hx0]

/-- The top bit of an encoding is a parity. -/
theorem toNat_div_lt_two (b : Octets 32) : b.toNat / 2 ^ 255 < 2 := by
  have := b.toNat_lt
  omega

/-- **Decoding finds the point that bytes encode.** -/
theorem decode?_eq_some_iff {b : Octets 32} {P : Point} : decode? b = some P ↔ Encodes b P := by
  rw [decode?, Nat.one_shiftLeft, Nat.shiftRight_eq_div_pow, ofY?_eq_some_iff (toNat_div_lt_two b)]
  exact ⟨fun ⟨h₁, h₂, h₃⟩ => ⟨h₁, h₂, h₃⟩, fun h => ⟨h.onCurve, h.y_eq, h.sign⟩⟩

theorem decode?_eq_none_iff {b : Octets 32} : decode? b = none ↔ ∀ P, ¬ Encodes b P := by
  simp only [Option.eq_none_iff_forall_ne_some, ne_eq, decode?_eq_some_iff]

theorem Encodes.unique {b : Octets 32} {P Q : Point} (hP : Encodes b P) (hQ : Encodes b Q) :
    P = Q :=
  Option.some.inj ((decode?_eq_some_iff.2 hP).symm.trans (decode?_eq_some_iff.2 hQ))

/-! ## Encoding -/

theorem fieldOrder_lt : fieldOrder < 2 ^ 255 := by decide

theorem toNat_encode (P : Point) : P.encode.toNat = P.y.val + 2 ^ 255 * P.x.parity := by
  have hy := P.y.isLt
  have hp := P.x.parity_lt_two
  have hlt := fieldOrder_lt
  rw [encode, Octets.toNat_ofNat, Nat.shiftLeft_eq, Nat.mul_comm]
  exact Nat.mod_eq_of_lt (by omega)

theorem encodes_encode {P : Point} (h : P.OnCurve) : Encodes P.encode P := by
  have hy := P.y.isLt.trans fieldOrder_lt
  refine ⟨h, ?_, Or.inr ?_⟩
  · rw [toNat_encode, Nat.add_mul_mod_self_left, Nat.mod_eq_of_lt hy, FieldElement.ofNat_val]
  · rw [toNat_encode, Nat.add_mul_div_left _ _ (Nat.two_pow_pos 255), Nat.div_eq_of_lt hy, zero_add]

theorem decode?_encode {P : Point} (h : P.OnCurve) : decode? P.encode = some P :=
  decode?_eq_some_iff.2 (encodes_encode h)

/-- The encoding of a point holds the least representative of `y`. -/
theorem toNat_encode_mod_lt (P : Point) : P.encode.toNat % 2 ^ 255 < fieldOrder := by
  rw [toNat_encode, Nat.add_mul_mod_self_left, Nat.mod_eq_of_lt (P.y.isLt.trans fieldOrder_lt)]
  exact P.y.isLt

end Point

namespace CurvePoint

theorem encode_injective : Function.Injective fun P : CurvePoint => P.toPoint.encode := by
  intro P Q h
  have hP := Point.encodes_encode P.onCurve
  have hQ := Point.encodes_encode Q.onCurve
  rw [show P.toPoint.encode = Q.toPoint.encode from h] at hP
  exact CurvePoint.ext (hP.unique hQ)

theorem encode_inj {P Q : CurvePoint} : P.toPoint.encode = Q.toPoint.encode ↔ P = Q :=
  encode_injective.eq_iff

end CurvePoint

end Ed25519
