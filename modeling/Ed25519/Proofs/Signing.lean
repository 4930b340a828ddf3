import Ed25519.Proofs.Verifying

/-!
# What a signer can count on

The key of a seed always has a public key and always signs. Its signatures are accepted unless their
nonce is zero (`PrivateKey.verdict_sign_eq_ok_iff`), and its public key encodes a point, so that a
signature it does not accept is a mismatch (`PublicKey.verdict_publicKey_eq_mismatch`). Under the key
of another seed they are accepted when the products of hash and secret scalar are congruent
(`PrivateKey.verdict_sign_eq_ok_iff_modEq`).
-/

namespace Ed25519

variable {e : Environment}

theorem PublicKey.verdict_publicKey_eq_mismatch {seed : Octets 32} {m : Bytes} {s : Signature}
    (h : PublicKey.verdict ⟨Scheme.publicKey seed⟩ m s ≠ .ok ()) :
    PublicKey.verdict ⟨Scheme.publicKey seed⟩ m s = .error Scheme.Refusal.mismatch.toError :=
  PublicKey.verdict_eq_mismatch (Scheme.encodes_publicKey seed) h

namespace PrivateKey

theorem result_publicKey_ofSeed (he : e.Usable) (seed : Octets 32) :
    ((ofSeed seed).publicKey e).result = .ok ⟨Scheme.publicKey seed⟩ := by
  rw [result_publicKey he, usableSeed_ofSeed]
  rfl

theorem result_sign_ofSeed (he : e.Usable) (seed : Octets 32) (m : Bytes) :
    ((ofSeed seed).sign m e).result = .ok (Scheme.sign seed m) := by
  rw [result_sign he, usableSeed_ofSeed]
  rfl

theorem verdict_sign_eq_ok_iff (seed : Octets 32) (m : Bytes) :
    PublicKey.verdict ⟨Scheme.publicKey seed⟩ m (Scheme.sign seed m) = .ok () ↔
      Scheme.nonce seed m ≠ 0 := by
  rw [PublicKey.verdict_eq_ok_iff, Scheme.verify_sign_self_eq_ok_iff]

/-- With the nonce zero, the commitment is the identity. -/
theorem decode?_sign_commitment_of_nonce_eq_zero {seed : Octets 32} {m : Bytes}
    (h : Scheme.nonce seed m = 0) :
    Point.decode? (Scheme.sign seed m).commitment = some 0 := by
  rw [Scheme.sign_commitment, Point.decode?_encode (CurvePoint.onCurve _), h, zero_nsmul,
    CurvePoint.toPoint_zero]

/-- **What is signed verifies**, unless the nonce is zero: the hash of the second half of the seed's
hash and the message, reduced by the order of the group. -/
theorem exists_sign_verifyBytes_iff (seed : Octets 32) (m : Bytes) :
    let r := (Sha512.digest (((Sha512.digest seed.toBytes).right 32 32).toBytes ++ m)).toNat %
      groupOrder
    ∃ (pk : PublicKey) (s : Signature), ∀ e : Environment, e.Usable →
      ((ofSeed seed).publicKey e).result = .ok pk ∧ ((ofSeed seed).sign m e).result = .ok s ∧
      ((pk.verifyBytes m s.toBytes e).result = .ok () ↔ r ≠ 0) ∧
      (r = 0 → Point.decode? s.commitment = some 0 ∧
        (pk.verifyBytes m s.toBytes e).result =
          .error (.verification "Ed25519" "signature does not match message and public key")) := by
  intro r
  refine ⟨⟨Scheme.publicKey seed⟩, Scheme.sign seed m, fun e he => ?_⟩
  rw [PublicKey.result_verifyBytes_toBytes he]
  refine ⟨result_publicKey_ofSeed he seed, result_sign_ofSeed he seed m,
    verdict_sign_eq_ok_iff seed m, fun hr => ⟨decode?_sign_commitment_of_nonce_eq_zero hr, ?_⟩⟩
  refine PublicKey.verdict_publicKey_eq_mismatch fun h => ?_
  exact (verdict_sign_eq_ok_iff seed m).1 h hr

/-- The empty message is signed and verified after no key could be generated. -/
theorem exists_sign_verifyBytes_empty :
    let e := [Call.generate].foldl Call.environment (.fresh (.script [] "drained"))
    e.Usable ∧ ∃ (pk : PublicKey) (s : Signature),
      ((ofSeed Startup.testSeed).publicKey e).result = .ok pk ∧
      ((ofSeed Startup.testSeed).sign [] e).result = .ok s ∧
      (pk.verifyBytes [] s.toBytes e).result = .ok () := by
  have he := Call.usable_run (.script [] "drained") [.generate]
  obtain ⟨pk, s, h⟩ := exists_sign_verifyBytes_iff Startup.testSeed []
  obtain ⟨hpk, hs, hok, -⟩ := h _ he
  exact ⟨he, pk, s, hpk, hs, hok.2 (by decide +kernel)⟩

/-! ## Signatures under other keys -/

/-- Whose signature a signature is, by hashes. -/
theorem verdict_sign_eq_ok_iff_modEq (a b : Octets 32) (m m' : Bytes) :
    PublicKey.verdict ⟨Scheme.publicKey b⟩ m' (Scheme.sign a m) = .ok () ↔
      Scheme.nonce a m ≠ 0 ∧
      (Sha512.digest ((Scheme.sign a m).commitment.toBytes ++ (Scheme.publicKey b).toBytes ++
          m')).toNat * Scheme.secretScalar b ≡
        (Sha512.digest ((Scheme.sign a m).commitment.toBytes ++ (Scheme.publicKey a).toBytes ++
          m)).toNat * Scheme.secretScalar a [MOD groupOrder] := by
  rw [PublicKey.verdict_eq_ok_iff, Scheme.verify_sign_eq_ok_iff, Scheme.challenge_mul_modEq_iff]

/-- **A signature is bound to its signer.** The key of another seed accepts it for a message when the
products of hash and secret scalar are congruent, and else it is a mismatch. The secret scalar of a
seed is the first half of its hash, clamped. -/
theorem exists_sign_verifyBytes_modEq (a b : Octets 32) (m m' : Bytes) :
    let r := (Sha512.digest (((Sha512.digest a.toBytes).right 32 32).toBytes ++ m)).toNat %
      groupOrder
    let xa := clamp ((Sha512.digest a.toBytes).left 32 32).toNat
    let xb := clamp ((Sha512.digest b.toBytes).left 32 32).toNat
    ∃ (pka pkb : PublicKey) (s : Signature), ∀ e : Environment, e.Usable →
      ((ofSeed a).publicKey e).result = .ok pka ∧ ((ofSeed b).publicKey e).result = .ok pkb ∧
      ((ofSeed a).sign m e).result = .ok s ∧
      ((pkb.verifyBytes m' s.toBytes e).result = .ok () ↔
        r ≠ 0 ∧
        (Sha512.digest (s.commitment.toBytes ++ pkb.toBytes ++ m')).toNat * xb ≡
          (Sha512.digest (s.commitment.toBytes ++ pka.toBytes ++ m)).toNat * xa
            [MOD groupOrder]) ∧
      ((pkb.verifyBytes m' s.toBytes e).result ≠ .ok () →
        (pkb.verifyBytes m' s.toBytes e).result =
          .error (.verification "Ed25519" "signature does not match message and public key")) := by
  intro r xa xb
  refine ⟨⟨Scheme.publicKey a⟩, ⟨Scheme.publicKey b⟩, Scheme.sign a m, fun e he => ?_⟩
  rw [PublicKey.result_verifyBytes_toBytes he]
  exact ⟨result_publicKey_ofSeed he a, result_publicKey_ofSeed he b, result_sign_ofSeed he a m,
    verdict_sign_eq_ok_iff_modEq a b m m', PublicKey.verdict_publicKey_eq_mismatch⟩

/-- The key of the seed of zeros does not accept the signature of the self-test. -/
theorem exists_sign_verifyBytes_other :
    let e : Environment := .fresh (.script [] "")
    e.Usable ∧ ∃ (pkb : PublicKey) (s : Signature),
      ((ofSeed (Octets.zero 32)).publicKey e).result = .ok pkb ∧
      ((ofSeed Startup.testSeed).sign Startup.testMessage e).result = .ok s ∧
      (pkb.verifyBytes Startup.testMessage s.toBytes e).result =
        .error (.verification "Ed25519" "signature does not match message and public key") := by
  have he := Environment.usable_fresh (.script [] "")
  obtain ⟨pka, pkb, s, h⟩ := exists_sign_verifyBytes_modEq Startup.testSeed (Octets.zero 32)
    Startup.testMessage Startup.testMessage
  obtain ⟨ha, hb, hs, hok, hne⟩ := h _ he
  obtain rfl := Except.ok.inj (ha.symm.trans (result_publicKey_ofSeed he _))
  obtain rfl := Except.ok.inj (hb.symm.trans (result_publicKey_ofSeed he _))
  obtain rfl := Except.ok.inj (hs.symm.trans (result_sign_ofSeed he _ _))
  refine ⟨he, _, _, hb, hs, hne fun hv => ?_⟩
  exact absurd (hok.1 hv).2 (by decide +kernel)

end PrivateKey

end Ed25519
