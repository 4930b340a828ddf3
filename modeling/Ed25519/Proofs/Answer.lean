import Ed25519.Proofs.Operation
import Ed25519.Proofs.Scheme.Verification

/-!
# The answers of a verification

A verification asks three questions in order: has the signature the right length, does the public
key encode a point, and is the signature one of the message. `PublicKey.Answer` lists the answers,
each with what was found out before it, and a verification gives no others
(`PublicKey.answer_verifyBytes`). In particular bytes are accepted when they are those of a strict
signature (`PublicKey.result_verifyBytes_eq_ok_iff`). To read the signature first and to verify it
then gives the same answer (`PublicKey.result_ofBytes_verify`).
-/

namespace Ed25519

namespace PublicKey

variable {e : Environment} {k : PublicKey} {m b : Bytes} {s : Signature}

/-! ## Accepted bytes -/

theorem verdict_eq_ok_iff : k.verdict m s = .ok () ↔ Scheme.verify k.toOctets m s = .ok () :=
  Result.mapError_eq_ok_iff

/-- Under a key that encodes a point, a signature is accepted or a mismatch. -/
theorem verdict_eq_mismatch {P : Point} (hkey : Point.Encodes k.toOctets P)
    (h : k.verdict m s ≠ .ok ()) : k.verdict m s = .error Scheme.Refusal.mismatch.toError := by
  rw [verdict, Scheme.verify_eq_mismatch hkey (mt verdict_eq_ok_iff.2 h)]
  rfl

theorem result_verifyBytes_toBytes (he : e.Usable) (k : PublicKey) (m : Bytes) (s : Signature) :
    (k.verifyBytes m s.toBytes e).result = k.verdict m s := by
  rw [result_verifyBytes he, Signature.ofBytes_toBytes, Result.ok_bind]

/-- Bytes are accepted when they are a signature that is. -/
theorem result_verifyBytes_eq_ok_iff (he : e.Usable) :
    (k.verifyBytes m b e).result = .ok () ↔
      ∃ s A R, b = s.toBytes ∧ Scheme.Strict k.toOctets m s A R := by
  rw [result_verifyBytes he]
  constructor
  · intro h
    cases hb : Signature.ofBytes b with
    | error err =>
      rw [hb, Result.error_bind] at h
      cases h
    | ok s =>
      rw [hb, Result.ok_bind, verdict_eq_ok_iff, Scheme.verify_eq_ok_iff] at h
      obtain ⟨A, R, hs⟩ := h
      exact ⟨s, A, R, Signature.ofBytes_eq_ok_iff.1 hb, hs⟩
  · rintro ⟨s, A, R, rfl, hs⟩
    rw [Signature.ofBytes_toBytes, Result.ok_bind, verdict_eq_ok_iff, Scheme.verify_eq_ok_iff]
    exact ⟨A, R, hs⟩

theorem result_verifyBytes_toBytes_eq_ok_iff (he : e.Usable) :
    (k.verifyBytes m s.toBytes e).result = .ok () ↔ ∃ A R, Scheme.Strict k.toOctets m s A R := by
  rw [result_verifyBytes_toBytes he, verdict_eq_ok_iff, Scheme.verify_eq_ok_iff]

/-! ## Answers -/

/-- The answers to the question whether the bytes `b` are a signature of `m`. -/
inductive Answer (k : PublicKey) (m b : Bytes) : Except Error Unit → Prop where
  | wrongLength (hb : b.length ≠ 64) : Answer k m b (.error (.invalidSignatureSize 64 b.length))
  | noPoint (hb : b.length = 64) (hk : ∀ P, ¬ Point.Encodes k.toOctets P) :
      Answer k m b (.error Scheme.Refusal.invalidPublicKey.toError)
  | mismatch (hb : b.length = 64) (P : Point) (hk : Point.Encodes k.toOctets P)
      (hs : ∀ s A R, b = s.toBytes → ¬ Scheme.Strict k.toOctets m s A R) :
      Answer k m b (.error Scheme.Refusal.mismatch.toError)
  | accepted (s : Signature) (A R : CurvePoint) (hb : b = s.toBytes)
      (hs : Scheme.Strict k.toOctets m s A R) : Answer k m b (.ok ())

/-- **A verification gives one of the answers.** -/
theorem answer_verifyBytes (he : e.Usable) (k : PublicKey) (m b : Bytes) :
    k.Answer m b (k.verifyBytes m b e).result := by
  by_cases hb : b.length = 64
  · obtain ⟨s, rfl⟩ := Signature.exists_of_length hb
    by_cases hok : (k.verifyBytes m s.toBytes e).result = .ok ()
    · obtain ⟨s', A, R, hs', hs⟩ := (result_verifyBytes_eq_ok_iff he).1 hok
      rw [hok]
      exact .accepted s' A R hs' hs
    · rw [result_verifyBytes_toBytes he] at hok ⊢
      cases hk : Point.decode? k.toOctets with
      | none =>
        rw [verdict, Scheme.verify_of_decode?_eq_none hk]
        exact .noPoint hb (Point.decode?_eq_none_iff.1 hk)
      | some P =>
        have hkey := Point.decode?_eq_some_iff.1 hk
        rw [verdict_eq_mismatch hkey hok]
        refine .mismatch hb P hkey fun s' A R hs' hs => hok ?_
        rw [← result_verifyBytes_toBytes he, result_verifyBytes_eq_ok_iff he]
        exact ⟨s', A, R, hs', hs⟩
  · rw [result_verifyBytes he, Signature.ofBytes_of_length_ne hb, Result.error_bind]
    exact .wrongLength hb

/-! ## What an answer tells -/

theorem Answer.eq_wrongLength_iff {r : Except Error Unit} (h : k.Answer m b r) :
    r = .error (.invalidSignatureSize 64 b.length) ↔ b.length ≠ 64 := by
  cases h with
  | wrongLength hb => exact iff_of_true rfl hb
  | noPoint hb | mismatch hb => exact iff_of_false nofun (not_not_intro hb)
  | accepted s A R hb => exact iff_of_false nofun (not_not_intro (hb ▸ s.length_toBytes))

theorem Answer.eq_noPoint_iff {r : Except Error Unit} (h : k.Answer m b r)
    (hb : b.length = 64) :
    r = .error Scheme.Refusal.invalidPublicKey.toError ↔ ∀ P, ¬ Point.Encodes k.toOctets P := by
  cases h with
  | wrongLength hb' => exact absurd hb hb'
  | noPoint _ hk => exact iff_of_true rfl hk
  | mismatch _ P hk => exact iff_of_false nofun fun h => h P hk
  | accepted s A R _ hs => exact iff_of_false nofun fun h => h A.toPoint hs.key_encodes

theorem Answer.eq_ok_or_eq_mismatch {r : Except Error Unit} (h : k.Answer m b r)
    (hb : b.length = 64) {P : Point} (hkey : Point.Encodes k.toOctets P) :
    r = .ok () ∨ r = .error Scheme.Refusal.mismatch.toError := by
  cases h with
  | wrongLength hb' => exact absurd hb hb'
  | noPoint _ hk => exact absurd hkey (hk P)
  | mismatch => exact Or.inr rfl
  | accepted => exact Or.inl rfl

/-- Every refusal is the failure of a verification, and no malfunction. -/
theorem Answer.isVerificationFailure {err : Error} (h : k.Answer m b (.error err)) :
    err.isVerificationFailure = true ∧ err.isFatal = false := by
  cases h with
  | wrongLength | noPoint | mismatch => exact ⟨rfl, rfl⟩

/-! ## Reading the signature first -/

open Operation in
/-- To read the signature first is to verify its bytes. -/
theorem result_ofBytes_verify (he : e.Usable) (k : PublicKey) (m b : Bytes) :
    ((ofExcept (Signature.ofBytes b) >>= k.verify m) e).result = (k.verifyBytes m b e).result := by
  rw [result_ofExcept_bind, result_verifyBytes he]
  exact congrArg _ (funext fun s => result_verify he k m s)

end PublicKey

end Ed25519
