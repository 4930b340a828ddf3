import Ed25519.Proofs.Answer

/-!
# Public keys that are points

A public key fixes a `y`, and it is a point when the equation of the curve has a solution with that
`y` in the integers modulo `2 ^ 255 - 19` (`Point.exists_encodes_iff`). A verification refuses a key
as no point in exactly the other cases; otherwise it is done with the solution that the top bit of
the key selects (`PublicKey.verifyBytes_point`).

The equation is stated of classes of integers, so that nothing is taken from the arithmetic by which
points are decoded.
-/

namespace Ed25519

/-! ## The equation -/

/-- The equation of the curve, in the integers modulo `2 ^ 255 - 19`. -/
def CurveEquation (x y : ZMod fieldOrder) : Prop :=
  -x ^ 2 + y ^ 2 = 1 + -121665 / 121666 * x ^ 2 * y ^ 2

theorem toZMod_curveD : curveD.toZMod = -121665 / 121666 := by
  have hmul : curveD * .ofNat 121666 = -.ofNat 121665 := by decide +kernel
  have hne : FieldElement.ofNat 121666 ≠ 0 := by decide
  have h := congrArg FieldElement.toZMod hmul
  rw [FieldElement.toZMod_mul, FieldElement.toZMod_neg, FieldElement.toZMod_ofNat,
    FieldElement.toZMod_ofNat] at h
  rw [ne_eq, ← FieldElement.toZMod_eq_zero_iff, FieldElement.toZMod_ofNat] at hne
  exact (eq_div_iff hne).2 h

theorem FieldElement.toZMod_ofNat_val (x : ZMod fieldOrder) : (ofNat x.val).toZMod = x :=
  (toZMod_ofNat x.val).trans (ZMod.natCast_zmod_val x)

namespace Point

theorem onCurve_iff_curveEquation {P : Point} :
    P.OnCurve ↔ CurveEquation P.x.toZMod P.y.toZMod := by
  rw [OnCurve, ← FieldElement.toZMod_injective.eq_iff, CurveEquation, ← toZMod_curveD]
  simp only [FieldElement.toZMod_sub, FieldElement.toZMod_mul, FieldElement.toZMod_add,
    FieldElement.toZMod_one]
  constructor <;> intro h <;> linear_combination h

/-- Points of the curve with one `y` have one `x`, up to its sign. -/
theorem OnCurve.mul_self_eq {P Q : Point} (hP : P.OnCurve) (hQ : Q.OnCurve) (hy : P.y = Q.y) :
    P.x * P.x = Q.x * Q.x := by
  rw [onCurve_iff] at hP hQ
  rw [← hy] at hQ
  exact mul_left_cancel₀ (denominator_ne_zero P.y) (hP.trans hQ.symm)

/-- Of the points with the `y` of a point, one has the wanted parity, unless `x` is zero. -/
theorem OnCurve.exists_parity {P : Point} (hP : P.OnCurve) {s : ℕ} (hs : s < 2) :
    ∃ Q : Point, Q.OnCurve ∧ Q.y = P.y ∧ (Q.x = 0 ∨ Q.x.parity = s) := by
  by_cases hx : P.x = 0
  · exact ⟨P, hP, rfl, Or.inl hx⟩
  · refine ⟨⟨if P.x.parity = s then P.x else -P.x, P.y⟩, ?_, rfl,
      Or.inr (FieldElement.parity_ite_neg hx hs)⟩
    rw [onCurve_iff] at hP ⊢
    show (curveD * (P.y * P.y) + 1) * ((if P.x.parity = s then P.x else -P.x) * _) = P.y * P.y - 1
    rw [mul_self_ite_neg, hP]

/-! ## The points of a `y` -/

/-- The class of the number that the 255 low bits of an encoding hold. -/
def ordinate (b : Octets 32) : ZMod fieldOrder := (b.toNat % 2 ^ 255 : ℕ)

theorem Encodes.toZMod_y {b : Octets 32} {P : Point} (h : Encodes b P) :
    P.y.toZMod = ordinate b := by
  rw [h.y_eq, FieldElement.toZMod_ofNat, ordinate]

theorem Encodes.curveEquation {b : Octets 32} {P : Point} (h : Encodes b P) :
    CurveEquation P.x.toZMod (ordinate b) :=
  h.toZMod_y ▸ onCurve_iff_curveEquation.1 h.onCurve

/-- **Bytes encode a point when their `y` is that of a solution.** -/
theorem exists_encodes_iff (b : Octets 32) :
    (∃ P, Encodes b P) ↔ ∃ x, CurveEquation x (ordinate b) := by
  constructor
  · rintro ⟨P, hP⟩
    exact ⟨P.x.toZMod, hP.curveEquation⟩
  · rintro ⟨x, hx⟩
    have hcurve : (⟨.ofNat x.val, .ofNat (b.toNat % 2 ^ 255)⟩ : Point).OnCurve := by
      rw [onCurve_iff_curveEquation]
      show CurveEquation (FieldElement.ofNat x.val).toZMod (FieldElement.ofNat _).toZMod
      rwa [FieldElement.toZMod_ofNat_val, FieldElement.toZMod_ofNat]
    obtain ⟨Q, hQ, hy, hsign⟩ := hcurve.exists_parity (toNat_div_lt_two b)
    exact ⟨Q, hQ, hy, hsign⟩

/-- The point that bytes encode has the `x` of every solution, up to its sign. -/
theorem Encodes.toZMod_x_eq_or_eq_neg {b : Octets 32} {P : Point} (h : Encodes b P)
    {x : ZMod fieldOrder} (hx : CurveEquation x (ordinate b)) :
    P.x.toZMod = x ∨ P.x.toZMod = -x := by
  let Q : Point := ⟨.ofNat x.val, P.y⟩
  have hQx : Q.x.toZMod = x := FieldElement.toZMod_ofNat_val x
  have hQ : Q.OnCurve := by
    rw [onCurve_iff_curveEquation, hQx]
    rwa [← h.toZMod_y] at hx
  have hsq := congrArg FieldElement.toZMod (h.onCurve.mul_self_eq hQ rfl)
  rw [FieldElement.toZMod_mul, FieldElement.toZMod_mul, hQx] at hsq
  exact mul_self_eq_mul_self_iff.1 hsq

end Point

/-! ## Verification -/

namespace PublicKey

variable {e : Environment}

/-- Under a key that encodes a point, a verification is done with that point. -/
theorem verdict_of_encodes {k : PublicKey} {P : Point} (h : Point.Encodes k.toOctets P) (m : Bytes)
    (s : Signature) : k.verdict m s = if Scheme.accepts k.toOctets P m s then .ok () else
      .error (.verification "Ed25519" "signature does not match message and public key") := by
  rw [verdict, Scheme.verify_of_encodes h]
  split <;> rfl

/-- **A public key is refused as no point when the curve has none with its `y`.** Otherwise the
point of a verification has that `y`, and an `x` of the parity that the top bit of the key says, or
zero. -/
theorem verifyBytes_point (he : e.Usable) (k : PublicKey) (m b : Bytes) (hb : b.length = 64) :
    ((k.verifyBytes m b e).result =
        .error (.verification "Ed25519" "public key is not a valid curve point") ↔
      ¬ ∃ x, CurveEquation x (Point.ordinate k.toOctets)) ∧
    ∀ x, CurveEquation x (Point.ordinate k.toOctets) →
      ∃ (P : Point) (s : Signature), Point.decode? k.toOctets = some P ∧ b = s.toBytes ∧
        (k.verifyBytes m b e).result = (if Scheme.accepts k.toOctets P m s then .ok () else
          .error (.verification "Ed25519" "signature does not match message and public key")) ∧
        CurveEquation P.x.toZMod P.y.toZMod ∧ P.y.toZMod = Point.ordinate k.toOctets ∧
        (P.x.toZMod = x ∨ P.x.toZMod = -x) ∧
        (P.x = 0 ∨ P.x.val % 2 = k.toOctets.toNat / 2 ^ 255) ∧ (x = 0 → P.x = 0) := by
  constructor
  · rw [← Point.exists_encodes_iff, not_exists]
    exact (answer_verifyBytes he k m b).eq_noPoint_iff hb
  · intro x hx
    obtain ⟨P, hP⟩ := (Point.exists_encodes_iff k.toOctets).2 ⟨x, hx⟩
    obtain ⟨s, rfl⟩ := Signature.exists_of_length hb
    have hroot := hP.toZMod_x_eq_or_eq_neg hx
    refine ⟨P, s, Point.decode?_eq_some_iff.2 hP, rfl, ?_,
      Point.onCurve_iff_curveEquation.1 hP.onCurve, hP.toZMod_y, hroot, hP.sign, ?_⟩
    · rw [result_verifyBytes_toBytes he, verdict_of_encodes hP]
    · rintro rfl
      rw [neg_zero, or_self] at hroot
      exact FieldElement.toZMod_eq_zero_iff.1 hroot

/-- No point has `y = 2`; the point with `y = 1` has `x = 0`, also where the top bit is set. -/
theorem verifyBytes_two_and_signed_zero :
    (verifyBytes ⟨.ofNat 32 2⟩ [] (Octets.zero 64).toBytes (.fresh (.script [] ""))).result =
        .error (.verification "Ed25519" "public key is not a valid curve point") ∧
      ∃ P, Point.decode? (.ofNat 32 (2 ^ 255 + 1)) = some P ∧ P.x = 0 := by
  have hno : Point.decode? (.ofNat 32 2) = none := by decide +kernel
  have hone : Point.ordinate (.ofNat 32 (2 ^ 255 + 1)) = 1 := by
    rw [Point.ordinate, show (Octets.ofNat 32 (2 ^ 255 + 1)).toNat % 2 ^ 255 = 1 by decide,
      Nat.cast_one]
  have hzero : CurveEquation 0 (Point.ordinate (.ofNat 32 (2 ^ 255 + 1))) := by
    rw [hone, CurveEquation]
    ring
  have he := Environment.usable_fresh (.script [] "")
  constructor
  · refine (verifyBytes_point he ⟨.ofNat 32 2⟩ [] _ (Octets.zero 64).length_eq).1.2 ?_
    rw [← Point.exists_encodes_iff]
    exact not_exists.2 (Point.decode?_eq_none_iff.1 hno)
  · obtain ⟨P, -, hP, -, -, -, -, -, -, hx⟩ :=
      (verifyBytes_point he ⟨.ofNat 32 (2 ^ 255 + 1)⟩ [] _ (Octets.zero 64).length_eq).2 0 hzero
    exact ⟨P, hP, hx rfl⟩

end PublicKey

end Ed25519
