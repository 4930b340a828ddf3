import Ed25519.Proofs.Scheme.Verification

/-!
# Signatures that are made

The signature of `m` by the seed `a` is a strict signature of `m'` under the public key of the seed
`b` exactly when its nonce is not zero and the two products of challenge and secret scalar agree
modulo the order of the base point (`Scheme.verify_sign_eq_ok_iff`). With one seed and one message
the products are equal, so the nonce alone decides (`Scheme.verify_sign_self_eq_ok_iff`). The public
key of a seed is never of small order, because clamped scalars are too small to be multiples of
eight times that order (`not_dvd_clamp`).
-/

namespace Ed25519

/-- A clamped scalar is a multiple of `8`, but not of `8 * groupOrder`. -/
theorem not_dvd_clamp (n : ℕ) : ¬ groupOrder ∣ clamp n := by
  intro h
  have hdvd : 8 * groupOrder ∣ clamp n :=
    Nat.Coprime.mul_dvd_of_dvd_of_dvd (by decide) (Nat.dvd_of_mod_eq_zero (clamp_mod_eight n)) h
  have hpos : 0 < clamp n := lt_of_lt_of_le (by decide) (le_clamp n)
  have hle := Nat.le_of_dvd hpos hdvd
  exact absurd (hle.trans_lt (clamp_lt n)) (by decide)

namespace Scheme

open CurvePoint

/-! ## Keys and nonces -/

theorem publicKey_eq (seed : Octets 32) :
    publicKey seed = (secretScalar seed • base).toPoint.encode := by
  rw [← mul_toPoint, toPoint_base]
  rfl

theorem encodes_publicKey (seed : Octets 32) :
    Point.Encodes (publicKey seed) (secretScalar seed • base).toPoint := by
  rw [publicKey_eq]
  exact Point.encodes_encode (secretScalar seed • base).onCurve

theorem eight_nsmul_secretScalar_ne_zero (seed : Octets 32) :
    8 • (secretScalar seed • base) ≠ 0 := by
  rw [ne_eq, eight_nsmul_base_eq_zero_iff]
  exact not_dvd_clamp _

theorem nonce_lt (seed : Octets 32) (m : Bytes) : nonce seed m < groupOrder :=
  Nat.mod_lt _ prime_groupOrder.pos

theorem eight_nsmul_nonce_eq_zero_iff (seed : Octets 32) (m : Bytes) :
    8 • (nonce seed m • base) = 0 ↔ nonce seed m = 0 := by
  rw [eight_nsmul_base_eq_zero_iff]
  exact ⟨fun h => Nat.eq_zero_of_dvd_of_lt h (nonce_lt seed m), fun h => h ▸ dvd_zero _⟩

/-! ## The parts of a signature -/

variable (a b : Octets 32) (m m' : Bytes)

theorem sign_commitment : (sign a m).commitment = (nonce a m • base).toPoint.encode := by
  rw [← mul_toPoint, toPoint_base]
  rfl

theorem sign_response_toNat : (sign a m).response.toNat =
    (nonce a m + challenge (sign a m).commitment (publicKey a) m * secretScalar a) %
      groupOrder := by
  have hlt : groupOrder ≤ 256 ^ 32 := by decide
  have h := Octets.toNat_ofNat 32
    ((nonce a m + challenge (sign a m).commitment (publicKey a) m * secretScalar a) % groupOrder)
  rwa [Nat.mod_eq_of_lt ((Nat.mod_lt _ prime_groupOrder.pos).trans_le hlt)] at h

theorem sign_response_nsmul : (sign a m).response.toNat • base = nonce a m • base +
    (challenge (sign a m).commitment (publicKey a) m * secretScalar a) • base := by
  rw [sign_response_toNat, nsmul_base_mod, add_nsmul]

/-! ## Verification of signatures that are made -/

/-- A congruence of products of challenges is one of products of hashes. -/
theorem challenge_mul_modEq_iff {c c' key key' : Octets 32} {x x' : ℕ} :
    challenge c key m * x ≡ challenge c' key' m' * x' [MOD groupOrder] ↔
      (Sha512.digest (c.toBytes ++ key.toBytes ++ m)).toNat * x ≡
        (Sha512.digest (c'.toBytes ++ key'.toBytes ++ m')).toNat * x' [MOD groupOrder] := by
  have h := (Nat.mod_modEq (Sha512.digest (c.toBytes ++ key.toBytes ++ m)).toNat
    groupOrder).mul_right x
  have h' := (Nat.mod_modEq (Sha512.digest (c'.toBytes ++ key'.toBytes ++ m')).toNat
    groupOrder).mul_right x'
  exact ⟨fun heq => h.symm.trans (heq.trans h'), fun heq => h.trans (heq.trans h'.symm)⟩

/-- **Whose signature a signature is.** -/
theorem verify_sign_eq_ok_iff : verify (publicKey b) m' (sign a m) = .ok () ↔ nonce a m ≠ 0 ∧
    challenge (sign a m).commitment (publicKey b) m' * secretScalar b ≡
      challenge (sign a m).commitment (publicKey a) m * secretScalar a [MOD groupOrder] := by
  rw [verify_eq_ok_iff, ← nsmul_base_eq_iff]
  constructor
  · rintro ⟨A, R, h⟩
    have hA : A = secretScalar b • base :=
      CurvePoint.ext (h.key_encodes.unique (encodes_publicKey b))
    have hR : R = nonce a m • base :=
      encode_inj.1 (h.commitment_eq.symm.trans (sign_commitment a m))
    have heq := h.equation
    rw [sign_response_nsmul, hA, hR, smul_smul] at heq
    have hR8 := h.commitment_order
    rw [hR, ne_eq, eight_nsmul_nonce_eq_zero_iff] at hR8
    exact ⟨hR8, (add_left_cancel heq).symm⟩
  · rintro ⟨hr, heq⟩
    refine ⟨secretScalar b • base, nonce a m • base, encodes_publicKey b, sign_commitment a m, ?_,
      eight_nsmul_secretScalar_ne_zero b, mt (eight_nsmul_nonce_eq_zero_iff a m).1 hr, ?_⟩
    · rw [sign_response_toNat]
      exact Nat.mod_lt _ prime_groupOrder.pos
    · rw [sign_response_nsmul, smul_smul, heq]

/-- A signature that is made is one of its message unless its nonce is zero. -/
theorem verify_sign_self_eq_ok_iff :
    verify (publicKey a) m (sign a m) = .ok () ↔ nonce a m ≠ 0 := by
  rw [verify_sign_eq_ok_iff]
  exact and_iff_left (Nat.ModEq.refl _)

end Scheme

end Ed25519
