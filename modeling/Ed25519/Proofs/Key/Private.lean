import Ed25519.Proofs.ConstantTime
import Ed25519.Proofs.Reported
import Ed25519.Proofs.Scheme.Keys
import Ed25519.Proofs.Signing
import Mathlib.Tactic.TFAE

/-!
# Private keys that can be used

Any 64 bytes can be taken for a private key. The key of a seed is put to every use
(`PrivateKey.accepted_ofSeed`), and every other key is refused everywhere, for every message and with
one error (`PrivateKey.refused_of_ne_ofSeed`). So whether one use succeeds says whether all of them
do, and no key is accepted whose second half is unfit for the public key of a seed
(`PrivateKey.refused_of_unfit`).

The keys of two seeds are compared at the end: they are equal when the seeds are, and have one
public key when the secret scalars of the seeds are one number.
-/

namespace Ed25519

variable {e : Environment}

theorem KeyPair.result_ofSeed (he : e.Usable) (seed : Octets 32) :
    (KeyPair.ofSeed seed e).result = .ok ⟨⟨Scheme.publicKey seed⟩, .ofSeed seed⟩ := by
  have h := Operation.result_bind_pure (PrivateKey.ofSeed seed).publicKey
    (fun pk => KeyPair.mk pk (.ofSeed seed)) e
  rw [PrivateKey.result_publicKey_ofSeed he] at h
  exact h

namespace PrivateKey

variable {k : PrivateKey}

/-! ## Keys of seeds, and all others -/

/-- The error of a private key whose halves do not belong together. -/
def corrupted : Error :=
  .invalidKey "private key is corrupted: public half does not match seed"

/-- The key is put to every use. Its second half, which is its public key, encodes a point of the
order of the base point. -/
structure Accepted (k : PrivateKey) (e : Environment) : Prop where
  publicKey : (k.publicKey e).result = .ok ⟨k.publicHalf⟩
  sign (m : Bytes) : ∃ s, (k.sign m e).result = .ok s ∧ (Reported.sign m k e).result = .ok s
  reportedPublicKey : (Reported.publicKey k e).result = .ok ⟨k.publicHalf⟩
  read : Reported.readPrivateKey k.toBytes = .ok k
  encodes : ∃ P : CurvePoint, addOrderOf P = groupOrder ∧ k.publicHalf = P.toPoint.encode

/-- The key is put to no use: everything that is tried with it fails with one error. -/
structure Refused (k : PrivateKey) (e : Environment) : Prop where
  publicKey : (k.publicKey e).result = .error corrupted
  sign (m : Bytes) : (k.sign m e).result = .error corrupted
  reportedPublicKey : (Reported.publicKey k e).result = .error corrupted.toReport
  reportedSign (m : Bytes) : (Reported.sign m k e).result = .error corrupted.toReport
  read : Reported.readPrivateKey k.toBytes = .error corrupted.toReport

theorem accepted_ofSeed (he : e.Usable) (seed : Octets 32) : (ofSeed seed).Accepted e where
  publicKey := result_publicKey_ofSeed he seed
  sign m := by
    refine ⟨Scheme.sign seed m, result_sign_ofSeed he seed m, ?_⟩
    rw [Reported.result_sign, result_sign_ofSeed he]
    rfl
  reportedPublicKey := by
    rw [Reported.result_publicKey, result_publicKey_ofSeed he]
    rfl
  read := by
    rw [Reported.readPrivateKey_toBytes, usableSeed_ofSeed]
    rfl
  encodes := Scheme.exists_publicKey_eq_encode seed

theorem usableSeed_of_ne_ofSeed (h : k ≠ ofSeed k.seed) : k.usableSeed = .error corrupted :=
  if_neg (mt (isConsistent_iff k).1 h)

theorem refused_of_ne_ofSeed (he : e.Usable) (h : k ≠ ofSeed k.seed) : k.Refused e := by
  have hseed := usableSeed_of_ne_ofSeed h
  have hpub : (k.publicKey e).result = .error corrupted := by
    rw [result_publicKey he, hseed]
    rfl
  have hsign : ∀ m, (k.sign m e).result = .error corrupted := by
    intro m
    rw [result_sign he, hseed]
    rfl
  refine ⟨hpub, hsign, ?_, fun m => ?_, ?_⟩
  · rw [Reported.result_publicKey, hpub]
    rfl
  · rw [Reported.result_sign, hsign]
    rfl
  · rw [Reported.readPrivateKey_toBytes, hseed]
    rfl

theorem refused_of_unfit (he : e.Usable) (h : Scheme.Unfit k.publicHalf) : k.Refused e := by
  refine refused_of_ne_ofSeed he fun hk => ?_
  rw [hk] at h
  exact Scheme.not_unfit_publicKey _ h

/-- One use of a key that succeeds is as good as all. -/
theorem tfae_ofSeed (he : e.Usable) (k : PrivateKey) :
    [∃ pk, (k.publicKey e).result = .ok pk,
      ∃ m s, (k.sign m e).result = .ok s,
      ∀ m, ∃ s, (k.sign m e).result = .ok s,
      ∃ k', Reported.readPrivateKey k.toBytes = .ok k',
      k = ofSeed k.seed].TFAE := by
  have haccepted : k = ofSeed k.seed → k.Accepted e := fun h => h ▸ accepted_ofSeed he _
  have hrefused : k ≠ ofSeed k.seed → k.Refused e := refused_of_ne_ofSeed he
  tfae_have 1 → 5 := by
    rintro ⟨pk, hpk⟩
    by_contra h
    rw [(hrefused h).publicKey] at hpk
    cases hpk
  tfae_have 2 → 5 := by
    rintro ⟨m, s, hs⟩
    by_contra h
    rw [(hrefused h).sign] at hs
    cases hs
  tfae_have 4 → 5 := by
    rintro ⟨k', hk'⟩
    by_contra h
    rw [(hrefused h).read] at hk'
    cases hk'
  tfae_have 3 → 2 := fun h => ⟨[], h []⟩
  tfae_have 5 → 1 := fun h => ⟨_, (haccepted h).publicKey⟩
  tfae_have 5 → 3 := fun h m => ((haccepted h).sign m).imp fun _ => And.left
  tfae_have 5 → 4 := fun h => ⟨k, (haccepted h).read⟩
  tfae_finish

/-- **The gate of private keys.** Any 64 bytes are taken for a key, which is put to every use if they
are the bytes of the key of a seed, and to none if they are not. So a wiped key is put to none, and
neither is one whose second half is unfit for a public key. A key pair comes from every seed. -/
theorem accepted_tfae (he : e.Usable) :
    (∀ b : Octets 64, ∃ k, ofBytes b.toBytes = .ok k ∧ k.toBytes = b.toBytes ∧
      k.publicHalf = b.right 32 32 ∧
      [∃ pk, (k.publicKey e).result = .ok pk,
        ∃ m s, (k.sign m e).result = .ok s,
        ∀ m, ∃ s, (k.sign m e).result = .ok s,
        ∃ k', Reported.readPrivateKey b.toBytes = .ok k',
        b.toBytes = (ofSeed (b.left 32 32)).toBytes].TFAE ∧
      (b.toBytes = (ofSeed (b.left 32 32)).toBytes → k.Accepted e) ∧
      (b.toBytes ≠ (ofSeed (b.left 32 32)).toBytes → k.Refused e) ∧
      (Scheme.Unfit (b.right 32 32) → k.Refused e)) ∧
    wiped.Refused e ∧
    ∀ seed, (KeyPair.ofSeed seed e).result = .ok ⟨⟨Scheme.publicKey seed⟩, ofSeed seed⟩ := by
  refine ⟨fun b => ?_, refused_of_unfit he Scheme.unfit_zero, KeyPair.result_ofSeed he⟩
  obtain ⟨k, rfl⟩ : ∃ k : PrivateKey, b = k.toOctets := ⟨ofOctets b, (toOctets_ofOctets b).symm⟩
  have hleft : k.toOctets.left 32 32 = k.seed := Octets.left_append _ _
  have hright : k.toOctets.right 32 32 = k.publicHalf := Octets.right_append _ _
  have hseed : k.toOctets.toBytes = (ofSeed k.seed).toBytes ↔ k = ofSeed k.seed :=
    toBytes_injective.eq_iff
  rw [hleft, hright, ne_eq, hseed]
  exact ⟨k, ofBytes_toBytes k, rfl, rfl, tfae_ofSeed he k, fun h => h ▸ accepted_ofSeed he _,
    refused_of_ne_ofSeed he, refused_of_unfit he⟩

/-- One inverted bit in the second half of a key is noticed. -/
theorem refused_invertBit_testSeed :
    ∃ k, ofBytes ((ofSeed Startup.testSeed).toOctets.invertBit 504).toBytes = .ok k ∧
      k.Refused (.fresh (.script [] "")) := by
  obtain ⟨k, hk, -, -, -, -, hrefused, -⟩ :=
    (accepted_tfae (Environment.usable_fresh (.script [] ""))).1
      ((ofSeed Startup.testSeed).toOctets.invertBit 504)
  exact ⟨k, hk, hrefused (by decide +kernel)⟩

/-! ## Keys of two seeds -/

theorem ofSeed_injective : Function.Injective ofSeed := fun _ _ h => congrArg seed h

/-- **Two seeds have one public key when their secret scalars are the same number.** -/
theorem publicKey_eq_iff_clamp_eq (he : e.Usable) (a b : Octets 32) :
    (∃ pka pkb, ((ofSeed a).publicKey e).result = .ok pka ∧
      ((ofSeed b).publicKey e).result = .ok pkb ∧
      (pka = pkb ↔ clamp ((Sha512.digest a.toBytes).left 32 32).toNat =
        clamp ((Sha512.digest b.toBytes).left 32 32).toNat)) ∧
    ((ofSeed a == ofSeed b) = true ↔ a = b) := by
  constructor
  · refine ⟨⟨Scheme.publicKey a⟩, ⟨Scheme.publicKey b⟩, result_publicKey_ofSeed he a,
      result_publicKey_ofSeed he b, ?_⟩
    rw [PublicKey.mk.injEq]
    exact Scheme.publicKey_eq_iff
  · rw [beq_iff_eq]
    exact ofSeed_injective.eq_iff

/-- The seed of the self-test and the seed of zeros have different public keys. -/
theorem publicKey_ne_testSeed :
    let e : Environment := .fresh (.script [] "")
    e.Usable ∧ ((ofSeed Startup.testSeed).publicKey e).result ≠
      ((ofSeed (Octets.zero 32)).publicKey e).result := by
  have he := Environment.usable_fresh (.script [] "")
  obtain ⟨⟨pka, pkb, ha, hb, hiff⟩, -⟩ :=
    publicKey_eq_iff_clamp_eq he Startup.testSeed (Octets.zero 32)
  refine ⟨he, fun h => ?_⟩
  rw [ha, hb, Except.ok.injEq, hiff] at h
  exact absurd h (by decide +kernel)

end PrivateKey

end Ed25519
