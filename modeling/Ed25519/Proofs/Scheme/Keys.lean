import Ed25519.Proofs.Scheme.Completeness

/-!
# Public keys of seeds

The public key of a seed is the encoding of a point whose order is that of the base point
(`Scheme.exists_publicKey_eq_encode`). Bytes that are no such encoding (`Scheme.Unfit`) are therefore
the public key of no seed (`Scheme.not_unfit_publicKey`). Two seeds have one public key when their
secret scalars are the same number, and not only when these are congruent modulo the order of the
base point (`clamp_modEq_iff`, `Scheme.publicKey_eq_iff`).
-/

namespace Ed25519

/-- Clamped scalars are told apart by their residues: they are multiples of `8`, and all of them are
below `8 * groupOrder`. -/
theorem clamp_modEq_iff {m n : ℕ} : clamp m ≡ clamp n [MOD groupOrder] ↔ clamp m = clamp n := by
  refine ⟨fun h => ?_, fun h => h ▸ Nat.ModEq.refl _⟩
  have h8 : clamp m ≡ clamp n [MOD 8] := (clamp_mod_eight m).trans (clamp_mod_eight n).symm
  have hmul : clamp m ≡ clamp n [MOD 8 * groupOrder] :=
    (Nat.modEq_and_modEq_iff_modEq_mul (by decide)).1 ⟨h8, h⟩
  have hlt : ∀ k, clamp k < 8 * groupOrder := fun k => (clamp_lt k).trans (by decide)
  exact hmul.eq_of_lt_of_lt (hlt m) (hlt n)

namespace Scheme

open CurvePoint

theorem publicKey_eq_iff {a b : Octets 32} :
    publicKey a = publicKey b ↔ secretScalar a = secretScalar b := by
  rw [publicKey_eq, publicKey_eq, encode_inj, nsmul_base_eq_iff]
  exact clamp_modEq_iff

theorem addOrderOf_secretScalar_nsmul (seed : Octets 32) :
    addOrderOf (secretScalar seed • base) = groupOrder := by
  have : Fact groupOrder.Prime := ⟨prime_groupOrder⟩
  refine addOrderOf_eq_prime ?_ ?_
  · rw [smul_smul, nsmul_base_eq_zero_iff]
    exact dvd_mul_right _ _
  · rw [ne_eq, nsmul_base_eq_zero_iff]
    exact not_dvd_clamp _

theorem exists_publicKey_eq_encode (seed : Octets 32) :
    ∃ P : CurvePoint, addOrderOf P = groupOrder ∧ publicKey seed = P.toPoint.encode :=
  ⟨_, addOrderOf_secretScalar_nsmul seed, publicKey_eq seed⟩

/-- The bytes encode no point of the curve, or one otherwise than in the canonical way, or one of
small order. -/
inductive Unfit (b : Octets 32) : Prop where
  | offCurve (h : ∀ P, ¬ Point.Encodes b P)
  | nonCanonical (P : Point) (h : Point.Encodes b P) (hb : b ≠ P.encode)
  | smallOrder (P : CurvePoint) (h : Point.Encodes b P.toPoint) (h8 : 8 • P = 0)

/-- **No public key of a seed is unfit.** -/
theorem not_unfit_publicKey (seed : Octets 32) : ¬ Unfit (publicKey seed) := by
  have henc := encodes_publicKey seed
  intro h
  cases h with
  | offCurve h => exact h _ henc
  | nonCanonical P h hb =>
    rw [h.unique henc] at hb
    exact hb (publicKey_eq seed)
  | smallOrder P h h8 =>
    rw [CurvePoint.ext (h.unique henc)] at h8
    exact eight_nsmul_secretScalar_ne_zero seed h8

/-- The point with `y = 0` has order `4`. -/
theorem unfit_zero : Unfit (Octets.zero 32) := by
  have h : (Point.decode? (Octets.zero 32)).map Point.isSmallOrder = some true := by
    decide +kernel
  obtain ⟨P, hP, h8⟩ := Option.map_eq_some_iff.1 h
  have henc := Point.decode?_eq_some_iff.1 hP
  exact .smallOrder ⟨P, henc.onCurve⟩ henc ((isSmallOrder_iff ⟨P, henc.onCurve⟩).1 h8)

end Scheme

end Ed25519
