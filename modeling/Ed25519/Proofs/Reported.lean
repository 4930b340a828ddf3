import Ed25519.Proofs.Answer
import Ed25519.Reported

/-!
# Results behind the neutral interface

The operations with reports answer what the operations behind them answer, with every failure told
as a report (`Reported.result_verify` and its like). A report says that a signature is not valid
when the error it tells says so (`Error.isInvalidSignature_toReport`). So a verification has the same
verdict on every way to it: from bytes, from a signature that was read, and from one that was read
behind the neutral interface.
-/

namespace Ed25519

open Operation

variable {e : Environment}

/-- A report says that a signature is not valid when its error does. -/
@[simp] theorem Error.isInvalidSignature_toReport (err : Error) :
    err.toReport.isInvalidSignature = err.isVerificationFailure := by
  cases err <;> rfl

namespace Reported

theorem result_publicKey (k : PrivateKey) (e : Environment) :
    (publicKey k e).result = (k.publicKey e).result.mapError Error.toReport := rfl

theorem result_sign (k : PrivateKey) (m : Bytes) (e : Environment) :
    (sign m k e).result = (k.sign m e).result.mapError Error.toReport := rfl

theorem result_verify (k : PublicKey) (m : Bytes) (s : Signature) (e : Environment) :
    (verify m s k e).result = (k.verify m s e).result.mapError Error.toReport := rfl

/-- A private key is read when it can be used. -/
theorem readPrivateKey_toBytes (k : PrivateKey) :
    readPrivateKey k.toBytes = (k.usableSeed.map fun _ => k).mapError Error.toReport := by
  rw [readPrivateKey, PrivateKey.ofBytes_toBytes, Result.ok_bind]
  cases k.usableSeed <;> rfl

theorem result_readSignature_verify (he : e.Usable) (k : PublicKey) (m b : Bytes) :
    ((ofExcept (readSignature b) >>= fun s => verify m s k) e).result =
      (k.verifyBytes m b e).result.mapError Error.toReport := by
  rw [← PublicKey.result_ofBytes_verify he, result_ofExcept_bind, result_ofExcept_bind,
    Result.mapError_bind]
  rfl

end Reported

/-! ## Verdicts -/

namespace PublicKey

/-- **The verdicts of verification**, in order and on every way. -/
theorem verifyBytes_verdicts (he : e.Usable) (k : PublicKey) (m b : Bytes) :
    let r := (k.verifyBytes m b e).result
    let reported :=
      ((ofExcept (Reported.readSignature b) >>= fun s => Reported.verify m s k) e).result
    (r = .error (.invalidSignatureSize 64 b.length) ↔ b.length ≠ 64) ∧
    (b.length = 64 →
      (r = .error (.verification "Ed25519" "public key is not a valid curve point") ↔
        ∀ P, ¬ Point.Encodes k.toOctets P)) ∧
    (b.length = 64 → ∀ P, Point.Encodes k.toOctets P →
      r = .ok () ∨
        r = .error (.verification "Ed25519" "signature does not match message and public key")) ∧
    (∀ err, r = .error err → err.isVerificationFailure = true ∧ err.isFatal = false) ∧
    ((ofExcept (Signature.ofBytes b) >>= k.verify m) e).result = r ∧
    reported = r.mapError Error.toReport ∧ (reported = .ok () ↔ r = .ok ()) ∧
    ∀ d, reported = .error d → d.isInvalidSignature = true := by
  intro r reported
  have hr : k.Answer m b r := answer_verifyBytes he k m b
  have hreported : reported = r.mapError Error.toReport :=
    Reported.result_readSignature_verify he k m b
  refine ⟨hr.eq_wrongLength_iff, hr.eq_noPoint_iff, fun hb P hk => hr.eq_ok_or_eq_mismatch hb hk,
    fun err herr => ?_, result_ofBytes_verify he k m b, hreported, ?_, fun d hd => ?_⟩
  · rw [herr] at hr
    exact hr.isVerificationFailure
  · rw [hreported, Result.mapError_eq_ok_iff]
  · rw [hreported] at hd
    obtain ⟨err, herr, rfl⟩ := Result.mapError_eq_error_iff.1 hd
    rw [herr] at hr
    rw [Error.isInvalidSignature_toReport]
    exact hr.isVerificationFailure.1

/-- Under a key that is no point, a signature of one byte has the wrong length, and one of the right
length is refused because of the key. -/
theorem verifyBytes_verdicts_noPoint :
    let e : Environment := .fresh (.script [] "")
    (verifyBytes ⟨.ofNat 32 2⟩ [] [0] e).result = .error (.invalidSignatureSize 64 1) ∧
    (verifyBytes ⟨.ofNat 32 2⟩ [] (List.replicate 64 0) e).result =
      .error (.verification "Ed25519" "public key is not a valid curve point") := by
  have he := Environment.usable_fresh (.script [] "")
  have hkey : ∀ P, ¬ Point.Encodes (Octets.ofNat 32 2) P :=
    Point.decode?_eq_none_iff.1 (by decide +kernel)
  exact ⟨(verifyBytes_verdicts he _ _ _).1.2 (by decide),
    ((verifyBytes_verdicts he _ _ _).2.1 (by decide)).2 hkey⟩

end PublicKey

end Ed25519
