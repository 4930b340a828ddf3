import Ed25519.Proofs.Scheme.Verification

/-!
# What a strict signature determines

Under one key, the commitment of a strict signature and its message determine the response
(`Scheme.Strict.signature_eq`): the response is reduced modulo the order of the base point. The
signature determines the challenge of its message (`Scheme.Strict.verify_eq_ok_iff`): the key is not
of small order, and challenges are reduced as well.
-/

namespace Ed25519.Scheme

open CurvePoint

variable {key : Octets 32} {m : Bytes} {s s' : Signature} {A A' R R' : CurvePoint}

theorem Strict.key_unique {m' : Bytes} (h : Strict key m s A R) (h' : Strict key m' s' A' R') :
    A = A' :=
  CurvePoint.ext (h.key_encodes.unique h'.key_encodes)

theorem Strict.decode?_commitment (h : Strict key m s A R) :
    Point.decode? s.commitment = some R.toPoint := by
  rw [h.commitment_eq]
  exact Point.decode?_encode R.onCurve

/-- **Strict signatures are not malleable.** -/
theorem Strict.signature_eq (h : Strict key m s A R) (h' : Strict key m s' A' R')
    (hR : Point.decode? s.commitment = Point.decode? s'.commitment) : s = s' := by
  rw [h.decode?_commitment, h'.decode?_commitment, Option.some.injEq] at hR
  have hc : s.commitment = s'.commitment := by
    rw [h.commitment_eq, h'.commitment_eq, hR]
  have heq : s.response.toNat • base = s'.response.toNat • base := by
    rw [h.equation, h'.equation, hc, h.key_unique h', CurvePoint.ext hR]
  have hr : s.response.toNat = s'.response.toNat :=
    (nsmul_base_eq_iff.1 heq).eq_of_lt_of_lt h.response_lt h'.response_lt
  cases s
  cases s'
  cases hc
  cases Octets.toNat_injective hr
  rfl

/-- **A strict signature covers the messages with its challenge.** -/
theorem Strict.verify_eq_ok_iff (h : Strict key m s A R) (m' : Bytes) :
    verify key m' s = .ok () ↔ challenge s.commitment key m = challenge s.commitment key m' := by
  rw [Scheme.verify_eq_ok_iff]
  constructor
  · rintro ⟨A', R', h'⟩
    have hA := h.key_unique h'
    have hR : R = R' := encode_inj.1 (h.commitment_eq.symm.trans h'.commitment_eq)
    have heq := h.equation.symm.trans h'.equation
    rw [← hA, ← hR] at heq
    exact (modEq_of_nsmul_eq h.key_order (add_left_cancel heq)).eq_of_lt_of_lt
      (challenge_lt _ _ _) (challenge_lt _ _ _)
  · intro hk
    exact ⟨A, R, h.key_encodes, h.commitment_eq, h.response_lt, h.key_order, h.commitment_order,
      hk ▸ h.equation⟩

end Ed25519.Scheme
