import Ed25519.Scheme
import Ed25519.Proofs.Curve.Order

/-!
# Strict verification

Verification compares encodings: it encodes `s B - k A` and asks for the bytes of the commitment.
Because points are told apart by their encodings, this is the equation `s B = R + k A` between
points, for the one point `R` whose encoding the commitment is (`Scheme.verify_eq_ok_iff`).
-/

namespace Ed25519.Scheme

open CurvePoint

/-- What strict verification asks of a signature `s` of `m` under `key`: the key encodes `A`, the
commitment is the encoding of `R`, neither has small order, the response is reduced, and the
equation of the scheme holds. -/
structure Strict (key : Octets 32) (m : Bytes) (s : Signature) (A R : CurvePoint) : Prop where
  key_encodes : Point.Encodes key A.toPoint
  commitment_eq : s.commitment = R.toPoint.encode
  response_lt : s.response.toNat < groupOrder
  key_order : 8 • A ≠ 0
  commitment_order : 8 • R ≠ 0
  equation : s.response.toNat • base = R + challenge s.commitment key m • A

variable {key : Octets 32} {m : Bytes} {s : Signature}

/-- The commitment of a strict signature is canonical. -/
theorem Strict.commitment_mod_lt {A R : CurvePoint} (h : Strict key m s A R) :
    s.commitment.toNat % 2 ^ 255 < fieldOrder := by
  rw [h.commitment_eq]
  exact Point.toNat_encode_mod_lt R.toPoint

theorem challenge_lt (c key : Octets 32) (m : Bytes) : challenge c key m < groupOrder :=
  Nat.mod_lt _ prime_groupOrder.pos

theorem recomputed_eq (key : Octets 32) (A : CurvePoint) (m : Bytes) (s : Signature) :
    recomputed key A.toPoint m s =
      (s.response.toNat • base - challenge s.commitment key m • A).toPoint.encode := by
  rw [sub_eq_add_neg, ← smul_neg, toPoint_add, ← mul_toPoint, ← mul_toPoint, toPoint_base,
    toPoint_neg]
  rfl

theorem not_isSmallOrder_iff {P : CurvePoint} : (!P.toPoint.isSmallOrder) = true ↔ 8 • P ≠ 0 := by
  rw [Bool.not_eq_true', ← Bool.not_eq_true, isSmallOrder_iff]

/-- The checks on a commitment that encodes `R` leave the encoding of `R` as the only candidate. -/
theorem accepts_eq_true_iff (A : CurvePoint) :
    accepts key A.toPoint m s = true ↔ s.response.toNat < groupOrder ∧ 8 • A ≠ 0 ∧
      ∃ R : CurvePoint, s.commitment = R.toPoint.encode ∧ 8 • R ≠ 0 ∧
        s.response.toNat • base = R + challenge s.commitment key m • A := by
  rw [accepts, Bool.and_eq_true, decide_eq_true_iff]
  constructor
  · rintro ⟨hs, h⟩
    split at h
    next => cases h
    next R hR =>
      rw [Bool.and_eq_true, Bool.and_eq_true, decide_eq_true_iff, recomputed_eq] at h
      obtain ⟨⟨hR8, hA8⟩, heq⟩ := h
      have hdec := Point.decode?_eq_some_iff.1 hR
      have henc := Point.encodes_encode (s.response.toNat • base -
        challenge s.commitment key m • A).onCurve
      rw [heq] at henc
      rw [hdec.unique henc] at hR8
      exact ⟨hs, not_isSmallOrder_iff.1 hA8, _, heq.symm, not_isSmallOrder_iff.1 hR8,
        (sub_add_cancel _ _).symm⟩
  · rintro ⟨hs, hA8, R, hR, hR8, heq⟩
    refine ⟨hs, ?_⟩
    have hdec : Point.decode? s.commitment = some R.toPoint := by
      rw [hR]
      exact Point.decode?_encode R.onCurve
    simp only [hdec]
    rw [Bool.and_eq_true, Bool.and_eq_true, decide_eq_true_iff, recomputed_eq, heq,
      add_sub_cancel_right]
    exact ⟨⟨not_isSmallOrder_iff.2 hR8, not_isSmallOrder_iff.2 hA8⟩, hR.symm⟩

/-- Verification as an equation between functions: opened at a key that is not known, it would make
the kernel decode that key. -/
theorem verify_def : verify = fun key m s =>
    match Point.decode? key with
    | none => .error .invalidPublicKey
    | some A => if accepts key A m s then .ok () else .error .mismatch := rfl

theorem verify_of_decode?_eq_none (h : Point.decode? key = none) :
    verify key m s = .error .invalidPublicKey := by
  rw [verify_def]
  simp only [h]

theorem verify_of_encodes {P : Point} (h : Point.Encodes key P) :
    verify key m s = if accepts key P m s then .ok () else .error .mismatch := by
  rw [verify_def]
  simp only [Point.decode?_eq_some_iff.2 h]

/-- **Verification accepts exactly the strict signatures.** -/
theorem verify_eq_ok_iff : verify key m s = .ok () ↔ ∃ A R, Strict key m s A R := by
  constructor
  · intro h
    cases hkey : Point.decode? key with
    | none =>
      rw [verify_of_decode?_eq_none hkey] at h
      cases h
    | some P =>
      have henc := Point.decode?_eq_some_iff.1 hkey
      rw [verify_of_encodes henc] at h
      split at h
      next hacc =>
        obtain ⟨hs, hA8, R, hR, hR8, heq⟩ := (accepts_eq_true_iff ⟨P, henc.onCurve⟩).1 hacc
        exact ⟨⟨P, henc.onCurve⟩, R, henc, hR, hs, hA8, hR8, heq⟩
      next => cases h
  · rintro ⟨A, R, h⟩
    rw [verify_of_encodes h.key_encodes, if_pos]
    exact (accepts_eq_true_iff A).2
      ⟨h.response_lt, h.key_order, R, h.commitment_eq, h.commitment_order, h.equation⟩

/-- A signature under a key that encodes a point is accepted or a mismatch. -/
theorem verify_eq_mismatch {P : Point} (hkey : Point.Encodes key P)
    (h : verify key m s ≠ .ok ()) : verify key m s = .error .mismatch := by
  rw [verify_of_encodes hkey] at h ⊢
  split at h
  next => exact absurd rfl h
  next hacc => rw [if_neg hacc]

end Ed25519.Scheme
