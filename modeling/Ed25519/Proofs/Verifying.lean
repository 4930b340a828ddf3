import Ed25519.Proofs.Answer
import Ed25519.Proofs.Bits
import Ed25519.Proofs.Scheme.Completeness
import Ed25519.Proofs.Scheme.Uniqueness

/-!
# What a verification says

Bytes are accepted when they are those of a strict signature
(`PublicKey.result_verifyBytes_eq_ok_iff`). What a strict signature determines is then what
acceptance determines: there is one accepted response to a commitment, so that no bit of it can be
inverted, and a signature covers one message up to a collision of hashes (`PublicKey.Collide`).
-/

namespace Ed25519

open CurvePoint

/-! ## The bytes of a signature -/

namespace Signature

@[simp] theorem take_toBytes (s : Signature) : s.toBytes.take 32 = s.commitment.toBytes :=
  congrArg Octets.toBytes (Octets.left_append s.commitment s.response)

@[simp] theorem drop_toBytes (s : Signature) : s.toBytes.drop 32 = s.response.toBytes :=
  congrArg Octets.toBytes (Octets.right_append s.commitment s.response)

/-- To invert a bit of the second half of a signature changes its response. -/
theorem exists_toBytes_invertBit (s : Signature) {i : ℕ} (hi : 256 ≤ i) (hi' : i < 512) :
    ∃ s' : Signature, s.toBytes.invertBit i = s'.toBytes ∧ s'.commitment = s.commitment ∧
      s' ≠ s := by
  obtain ⟨s', hs'⟩ := exists_of_length (b := s.toBytes.invertBit i) (by simp)
  refine ⟨s', hs', Octets.ext ?_, ?_⟩
  · rw [← take_toBytes, ← take_toBytes, ← hs']
    refine Bytes.take_invertBit ?_
    rw [length_toBytes]
    omega
  · rintro rfl
    exact Bytes.invertBit_ne_self (List.ne_nil_of_length_pos (by simp)) i hs'

end Signature

namespace PublicKey

variable {e : Environment} {k : PublicKey} {m : Bytes} {s : Signature}

/-! ## Accepted bytes -/

/-- The signature of the self-test is accepted. -/
theorem result_verifyBytes_test (source : Source) :
    (verifyBytes ⟨Scheme.publicKey Startup.testSeed⟩ Startup.testMessage
      (Scheme.sign Startup.testSeed Startup.testMessage).toBytes (.fresh source)).result =
      .ok () := by
  rw [result_verifyBytes_toBytes (Environment.usable_fresh source), verdict_eq_ok_iff]
  exact (Scheme.verify_sign_self_eq_ok_iff _ _).2 (by decide +kernel)

/-- The bytes of a commitment that is not canonical. -/
def nonCanonical : Octets 32 := .ofNat 32 (fieldOrder + 3)

theorem exists_decode?_nonCanonical :
    ∃ R : CurvePoint, Point.decode? nonCanonical = some R.toPoint ∧ 8 • R ≠ 0 := by
  have h : ((Point.decode? nonCanonical).map Point.isSmallOrder) = some false := by decide +kernel
  obtain ⟨P, hP, hP8⟩ := Option.map_eq_some_iff.1 h
  refine ⟨⟨P, (Point.decode?_eq_some_iff.1 hP).onCurve⟩, hP, ?_⟩
  rw [ne_eq, ← isSmallOrder_iff, hP8]
  exact Bool.false_ne_true

/-- **The bytes that a public key accepts.** The key may be encoded in any way, but the commitment
is canonical: other encodings of a point are refused, though they decode. -/
theorem verifyBytes_eq_ok_iff (he : e.Usable) (k : PublicKey) (m b : Bytes) :
    ((k.verifyBytes m b e).result = .ok () ↔
      b.length = 64 ∧ ∃ A R : CurvePoint,
        Point.Encodes k.toOctets A.toPoint ∧ b.take 32 = R.toPoint.encode.toBytes ∧
        Bytes.toNatLE (b.drop 32) < groupOrder ∧ 8 • A ≠ 0 ∧ 8 • R ≠ 0 ∧
        Bytes.toNatLE (b.drop 32) • base =
          R + ((Sha512.digest (b.take 32 ++ k.toBytes ++ m)).toNat % groupOrder) • A) ∧
    (fieldOrder ≤ Bytes.toNatLE (b.take 32) % 2 ^ 255 → (k.verifyBytes m b e).result ≠ .ok ()) ∧
    ∃ c : Octets 32, fieldOrder ≤ c.toNat % 2 ^ 255 ∧
      ∃ R : CurvePoint, Point.decode? c = some R.toPoint ∧ 8 • R ≠ 0 := by
  rw [result_verifyBytes_eq_ok_iff he]
  refine ⟨⟨?_, ?_⟩, ?_, nonCanonical, by decide, exists_decode?_nonCanonical⟩
  · rintro ⟨s, A, R, rfl, hs⟩
    rw [s.take_toBytes, s.drop_toBytes]
    exact ⟨s.length_toBytes, A, R, hs.key_encodes, congrArg Octets.toBytes hs.commitment_eq,
      hs.response_lt, hs.key_order, hs.commitment_order, hs.equation⟩
  · rintro ⟨hb, A, R, hA, hR, hlt, hA8, hR8, heq⟩
    obtain ⟨s, rfl⟩ := Signature.exists_of_length hb
    rw [s.take_toBytes] at hR heq
    rw [s.drop_toBytes] at hlt heq
    exact ⟨s, A, R, rfl, hA, Octets.ext hR, hlt, hA8, hR8, heq⟩
  · intro hcan h
    obtain ⟨s, A, R, rfl, hs⟩ := (result_verifyBytes_eq_ok_iff he).1 h
    rw [s.take_toBytes] at hcan
    exact absurd hs.commitment_mod_lt (not_lt.2 hcan)

theorem not_verifyBytes_nonCanonical : (verifyBytes ⟨Scheme.publicKey Startup.testSeed⟩
    Startup.testMessage (nonCanonical.toBytes ++ List.replicate 32 0)
      (.fresh (.script [] ""))).result ≠ .ok () :=
  (verifyBytes_eq_ok_iff (Environment.usable_fresh _) _ _ _).2.1 (by decide +kernel)

/-! ## Other signatures of a message -/

/-- Under one key, a message has no two accepted signatures with commitments of one point. -/
theorem eq_of_result_eq_ok (he : e.Usable) {s' : Signature}
    (h : (k.verifyBytes m s.toBytes e).result = .ok ())
    (h' : (k.verifyBytes m s'.toBytes e).result = .ok ())
    (hR : Point.decode? s.commitment = Point.decode? s'.commitment) : s = s' := by
  obtain ⟨A, R, hs⟩ := (result_verifyBytes_toBytes_eq_ok_iff he).1 h
  obtain ⟨A', R', hs'⟩ := (result_verifyBytes_toBytes_eq_ok_iff he).1 h'
  exact hs.signature_eq hs' hR

/-- Bytes that are not accepted fail as a verification does, and can be tried again. -/
theorem exists_error_of_result_ne_ok (he : e.Usable) {b : Bytes}
    (h : (k.verifyBytes m b e).result ≠ .ok ()) :
    ∃ err, (k.verifyBytes m b e).result = .error err ∧
      err.isVerificationFailure = true ∧ err.isFatal = false := by
  obtain ⟨err, herr⟩ := Result.eq_error_of_ne_ok h
  have hanswer := answer_verifyBytes he k m b
  rw [herr] at hanswer
  exact ⟨err, herr, hanswer.isVerificationFailure⟩

/-- **Signatures are not malleable.** One commitment has one accepted response, so a signature with
an inverted bit in its response is refused. -/
theorem accepted_unique (he : e.Usable) (k : PublicKey) (m : Bytes) :
    (∀ s s' : Signature, (k.verifyBytes m s.toBytes e).result = .ok () →
      (k.verifyBytes m s'.toBytes e).result = .ok () →
      Point.decode? s.commitment = Point.decode? s'.commitment → s.toBytes = s'.toBytes) ∧
    ∀ (s : Signature) (i : ℕ), (k.verifyBytes m s.toBytes e).result = .ok () → 256 ≤ i → i < 512 →
      ∃ err, (k.verifyBytes m (s.toBytes.invertBit i) e).result = .error err ∧
        err.isVerificationFailure = true ∧ err.isFatal = false := by
  constructor
  · intro s s' h h' hR
    rw [eq_of_result_eq_ok he h h' hR]
  · intro s i h hi hi'
    obtain ⟨s', hs', hc, hne⟩ := s.exists_toBytes_invertBit hi hi'
    rw [hs']
    refine exists_error_of_result_ne_ok he fun h' => hne ?_
    exact eq_of_result_eq_ok he h' h (by rw [hc])

theorem refused_invertBit_test : ∃ err, (verifyBytes ⟨Scheme.publicKey Startup.testSeed⟩
    Startup.testMessage
      ((Scheme.sign Startup.testSeed Startup.testMessage).toBytes.invertBit 256)
      (.fresh (.script [] ""))).result = .error err ∧
        err.isVerificationFailure = true ∧ err.isFatal = false :=
  (accepted_unique (Environment.usable_fresh _) _ _).2 _ 256 (result_verifyBytes_test _)
    (by decide) (by decide)

/-! ## Other messages of a signature -/

/-- The hashes that make the challenges of two messages agree modulo the order of the base point. -/
def Collide (k : PublicKey) (c : Octets 32) (m m' : Bytes) : Prop :=
  (Sha512.digest (c.toBytes ++ k.toBytes ++ m)).toNat ≡
    (Sha512.digest (c.toBytes ++ k.toBytes ++ m')).toNat [MOD groupOrder]

instance (k : PublicKey) (c : Octets 32) (m m' : Bytes) : Decidable (k.Collide c m m') :=
  inferInstanceAs (Decidable (_ ≡ _ [MOD _]))

/-- An accepted signature covers the messages whose hash collides with that of its own. -/
theorem result_eq_ok_iff_collide (he : e.Usable)
    (h : (k.verifyBytes m s.toBytes e).result = .ok ()) (m' : Bytes) :
    (k.verifyBytes m' s.toBytes e).result = .ok () ↔ k.Collide s.commitment m m' := by
  obtain ⟨A, R, hs⟩ := (result_verifyBytes_toBytes_eq_ok_iff he).1 h
  rw [result_verifyBytes_toBytes he, verdict_eq_ok_iff, hs.verify_eq_ok_iff]
  exact Iff.rfl

/-- An accepted signature is a mismatch with the messages that it does not cover. -/
theorem result_eq_mismatch (he : e.Usable) (h : (k.verifyBytes m s.toBytes e).result = .ok ())
    {m' : Bytes} (h' : (k.verifyBytes m' s.toBytes e).result ≠ .ok ()) :
    (k.verifyBytes m' s.toBytes e).result = .error Scheme.Refusal.mismatch.toError := by
  obtain ⟨A, R, hs⟩ := (result_verifyBytes_toBytes_eq_ok_iff he).1 h
  rw [result_verifyBytes_toBytes he] at h' ⊢
  exact verdict_eq_mismatch hs.key_encodes h'

/-- **A signature is bound to its message.** It covers the messages whose hash collides with that of
its own, and is a mismatch with all others. -/
theorem accepted_binds (he : e.Usable)
    (h : (k.verifyBytes m s.toBytes e).result = .ok ()) :
    (∀ m', ((k.verifyBytes m' s.toBytes e).result = .ok () ↔ k.Collide s.commitment m m') ∧
      (¬ k.Collide s.commitment m m' → (k.verifyBytes m' s.toBytes e).result =
        .error (.verification "Ed25519" "signature does not match message and public key"))) ∧
    (m ≠ [] → ∀ i, m.invertBit i ≠ m ∧
      ((k.verifyBytes (m.invertBit i) s.toBytes e).result = .ok () →
        k.Collide s.commitment m (m.invertBit i))) := by
  constructor
  · intro m'
    refine ⟨result_eq_ok_iff_collide he h m', fun hm => ?_⟩
    rw [← result_eq_ok_iff_collide he h] at hm
    exact result_eq_mismatch he h hm
  · intro hm i
    exact ⟨Bytes.invertBit_ne_self hm i, (result_eq_ok_iff_collide he h _).1⟩

theorem refused_empty_test : (verifyBytes ⟨Scheme.publicKey Startup.testSeed⟩ []
    (Scheme.sign Startup.testSeed Startup.testMessage).toBytes (.fresh (.script [] ""))).result =
      .error (.verification "Ed25519" "signature does not match message and public key") :=
  ((accepted_binds (Environment.usable_fresh _) (result_verifyBytes_test _)).1 []).2
    (by decide +kernel)

end PublicKey

end Ed25519
