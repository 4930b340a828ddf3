import Ed25519.Interchange
import Ed25519.Proofs.Generation

/-!
# What the events tell

Once the library has started up, the events of a call depend on no key, no message and no signature,
but for their lengths and for the reason of a failure:

* to use or to read a key or a signature emits nothing (`SilentCall.events_eq_nil`);
* a generation emits an event when its source fails, with the cause that the source gives
  (`Generation.events_eq`);
* a verification emits an event when it fails, with the failure and the lengths of what it was given
  (`Verification.tells`).

So calls that look alike to the caller look alike in the events (`events_eq_of_alike`), and the
failures of a private key do not tell the key either (`events_discreet`).
-/

namespace Ed25519

open Operation

/-- The library has started up. -/
def Environment.Started (e : Environment) : Prop := e.startup.outcome = some (.ok .standard)

theorem Environment.Started.usable {e : Environment} (he : e.Started) : e.Usable :=
  usable_of_outcome he

variable {e : Environment}

/-! ## Silent operations -/

namespace Operation

variable {ε α β : Type}

theorem ready_bind_apply (he : e.Started) (x : Operation Error α) :
    (ready >>= fun _ => x) e = x e := by
  rw [bind_of_ok (ready_of_outcome he), List.nil_append]

/-- Once the library has started up, the operation emits nothing, and leaves it so. -/
def Silent (x : Operation ε α) : Prop :=
  ∀ e : Environment, e.Started → (x e).events = [] ∧ (x e).environment.Started

theorem silent_pure (a : α) : Silent (Pure.pure a : Operation ε α) := fun _ he => ⟨rfl, he⟩

theorem silent_ofExcept (x : Except ε α) : (ofExcept x).Silent := fun _ he => ⟨rfl, he⟩

theorem silent_ready : ready.Silent := by
  intro e he
  rw [ready_of_outcome he]
  exact ⟨rfl, he⟩

/-- A silent end adds no event. -/
theorem events_bind {x : Operation ε α} {f : α → Operation ε β} (hf : ∀ a, (f a).Silent)
    (hx : (x e).environment.Started) :
    ((x >>= f) e).events = (x e).events ∧ ((x >>= f) e).environment.Started := by
  cases hxe : x e with
  | mk r e' es =>
    rw [hxe] at hx
    cases r with
    | ok a =>
      obtain ⟨hnil, hstarted⟩ := hf a e' hx
      rw [bind_of_ok hxe, hnil, List.append_nil]
      exact ⟨rfl, hstarted⟩
    | error err =>
      rw [bind_of_error hxe]
      exact ⟨rfl, hx⟩

theorem Silent.bind {x : Operation ε α} {f : α → Operation ε β} (hx : x.Silent)
    (hf : ∀ a, (f a).Silent) : (x >>= f).Silent := by
  intro e he
  obtain ⟨hnil, hstarted⟩ := hx e he
  obtain ⟨hevents, hstarted'⟩ := events_bind hf hstarted
  exact ⟨hevents.trans hnil, hstarted'⟩

theorem Silent.reported {x : Operation Error α} (hx : x.Silent) : (Reported.reported x).Silent := hx

end Operation

namespace PrivateKey

theorem silent_publicKey (k : PrivateKey) : k.publicKey.Silent :=
  silent_ready.bind fun _ => (silent_ofExcept _).bind fun _ => silent_pure _

theorem silent_sign (k : PrivateKey) (m : Bytes) : (k.sign m).Silent :=
  silent_ready.bind fun _ => (silent_ofExcept _).bind fun _ => silent_pure _

end PrivateKey

theorem KeyPair.silent_ofSeed (seed : Octets 32) : (KeyPair.ofSeed seed).Silent :=
  (PrivateKey.silent_publicKey _).bind fun _ => silent_pure _

theorem Reported.silent_keyPairOfSeed (seed : Bytes) : (keyPairOfSeed seed).Silent := by
  rw [keyPairOfSeed]
  cases Octets.ofBytes? 32 seed with
  | some s => exact (KeyPair.silent_ofSeed s).reported
  | none => exact silent_ofExcept _

/-! ## Calls that use or read -/

/-- What is read, in one of its forms. -/
inductive Import where
  | privateKey (b : Bytes)
  | publicKey (b : Bytes)
  | signature (b : Bytes)
  | reportedPrivateKey (b : Bytes)
  | reportedPublicKey (b : Bytes)
  | reportedSignature (b : Bytes)
  | publicKeyHex (t : String)
  | publicKeyJson (v : Json.Value)
  | publicKeyJsonText (t : String)
  | signatureJson (v : Json.Value)
  | signatureJsonText (t : String)

/-- The events of reading. -/
def Import.events (e : Environment) : Import → List Event
  | privateKey b => (ofExcept (PrivateKey.ofBytes b) e).events
  | publicKey b => (ofExcept (PublicKey.ofBytes b) e).events
  | signature b => (ofExcept (Signature.ofBytes b) e).events
  | reportedPrivateKey b => (ofExcept (Reported.readPrivateKey b) e).events
  | reportedPublicKey b => (ofExcept (Reported.readPublicKey b) e).events
  | reportedSignature b => (ofExcept (Reported.readSignature b) e).events
  | publicKeyHex t => (ofExcept (PublicKey.ofHex t) e).events
  | publicKeyJson v => (ofExcept (PublicKey.ofJson v) e).events
  | publicKeyJsonText t => (ofExcept (PublicKey.ofJsonText t) e).events
  | signatureJson v => (ofExcept (Signature.ofJson v) e).events
  | signatureJsonText t => (ofExcept (Signature.ofJsonText t) e).events

/-- A call that uses a seed or a private key, or reads something. -/
inductive SilentCall where
  | ofSeed (seed : Octets 32)
  | keyPair (seed : Octets 32)
  | reportedKeyPair (seed : Bytes)
  | publicKey (k : PrivateKey)
  | reportedPublicKey (k : PrivateKey)
  | sign (k : PrivateKey) (m : Bytes)
  | reportedSign (m : Bytes) (k : PrivateKey)
  | read (i : Import)

namespace SilentCall

/-- The events of a call. -/
def events (e : Environment) : SilentCall → List Event
  | ofSeed seed => ((Pure.pure (.ofSeed seed) : Operation Error PrivateKey) e).events
  | keyPair seed => (KeyPair.ofSeed seed e).events
  | reportedKeyPair seed => (Reported.keyPairOfSeed seed e).events
  | publicKey k => (k.publicKey e).events
  | reportedPublicKey k => (Reported.publicKey k e).events
  | sign k m => (k.sign m e).events
  | reportedSign m k => (Reported.sign m k e).events
  | read i => i.events e

/-- **To use or to read emits nothing**, whether it succeeds or fails. -/
theorem events_eq_nil (he : e.Started) (c : SilentCall) : c.events e = [] := by
  cases c with
  | ofSeed seed => rfl
  | keyPair seed => exact (KeyPair.silent_ofSeed seed e he).1
  | reportedKeyPair seed => exact (Reported.silent_keyPairOfSeed seed e he).1
  | publicKey k => exact (k.silent_publicKey e he).1
  | reportedPublicKey k => exact (k.silent_publicKey.reported e he).1
  | sign k m => exact (k.silent_sign m e he).1
  | reportedSign m k => exact ((k.silent_sign m).reported e he).1
  | read i => cases i <;> rfl

end SilentCall

/-! ## Generations -/

/-- The events of a generation whose source answers `d`. -/
def Event.ofDraw : Except String (Octets 32) → List Event
  | .ok _ => []
  | .error cause => [.sourceFailed cause]

theorem PrivateKey.generate_apply_of_started (he : e.Started) :
    generate e = ⟨ofDraw (e.source.draw 32).1,
      { e with source := (e.source.draw 32).2, requests := e.requests ++ [32] },
      Event.ofDraw (e.source.draw 32).1⟩ := by
  rw [generate, ready_bind_apply he, bind_of_ok (draw_apply 32 e)]
  cases (e.source.draw 32).1 with
  | ok seed => rfl
  | error cause => rfl

namespace Generation

/-- The events of a generation. -/
def events (e : Environment) : Generation → List Event
  | privateKey => (PrivateKey.generate e).events
  | keyPair => (Reported.keyPair e).events

/-- **A generation tells the failure of its source.** -/
theorem events_eq (he : e.Started) (g : Generation) :
    g.events e = Event.ofDraw (e.source.draw 32).1 := by
  have hgenerate := PrivateKey.generate_apply_of_started he
  cases g with
  | privateKey => rw [events, hgenerate]
  | keyPair =>
    have hreported := Reported.reported_apply hgenerate
    have hstarted : (Reported.reported PrivateKey.generate e).environment.Started := by
      rw [hreported]
      exact he
    have hrest : ∀ k : PrivateKey,
        (Reported.reported k.publicKey >>= fun pk => Pure.pure (KeyPair.mk pk k)).Silent :=
      fun k => k.silent_publicKey.reported.bind fun _ => silent_pure _
    have h := (events_bind hrest hstarted).1
    rw [hreported] at h
    exact h

end Generation

/-! ## Verifications -/

theorem Scheme.Refusal.toReport_injective :
    Function.Injective fun r : Scheme.Refusal => r.toError.toReport := by
  intro r r' h
  have hmessage : r.message = r'.message := (Content.text.inj (Report.mk.inj h).2).2
  cases r with
  | invalidPublicKey =>
    cases r' with
    | invalidPublicKey => rfl
    | mismatch => exact absurd hmessage (by decide)
  | mismatch =>
    cases r' with
    | invalidPublicKey => exact absurd hmessage (by decide)
    | mismatch => rfl

/-- A verification, by one of the ways to it. -/
inductive Verification where
  | signature (k : PublicKey) (m : Bytes) (s : Signature)
  | bytes (k : PublicKey) (m b : Bytes)
  | reported (m : Bytes) (s : Signature) (k : PublicKey)

namespace Verification

/-- The number of bytes of the message. -/
def messageLength : Verification → ℕ
  | signature _ m _ | bytes _ m _ | reported m _ _ => m.length

/-- The number of bytes given for a signature. -/
def signatureLength : Verification → ℕ
  | signature _ _ s | reported _ s _ => s.toBytes.length
  | bytes _ _ b => b.length

/-- The result of a verification, its failure told by a report. -/
def result (e : Environment) : Verification → Except Report Unit
  | signature k m s => (k.verify m s e).result.mapError Error.toReport
  | bytes k m b => (k.verifyBytes m b e).result.mapError Error.toReport
  | reported m s k => (Reported.verify m s k e).result

/-- The events of a verification. -/
def events (e : Environment) : Verification → List Event
  | signature k m s => (k.verify m s e).events
  | bytes k m b => (k.verifyBytes m b e).events
  | reported m s k => (Reported.verify m s k e).events

/-- What a verification with a message and a signature of given lengths tells in events, beside its
result. -/
inductive Tells (m s : ℕ) : Except Report Unit → List Event → Prop where
  | accepted : Tells m s (.ok ()) []
  | wrongLength (hs : s ≠ 64) :
      Tells m s (.error (Error.invalidSignatureSize 64 s).toReport) [.wrongLength m s]
  | refused (hs : s = 64) (reason : Scheme.Refusal) :
      Tells m s (.error reason.toError.toReport) [.refused m reason]

/-- The lengths and the result determine the events. -/
theorem Tells.unique {m s : ℕ} {r : Except Report Unit} {es es' : List Event} (h : Tells m s r es)
    (h' : Tells m s r es') : es = es' := by
  generalize hr : r = r' at h'
  cases h with
  | accepted =>
    cases h' with
    | accepted => rfl
    | wrongLength | refused => cases hr
  | wrongLength hs =>
    cases h' with
    | accepted => cases hr
    | wrongLength => rfl
    | refused hs' => exact absurd hs' hs
  | refused hs reason =>
    cases h' with
    | accepted => cases hr
    | wrongLength hs' => exact absurd hs hs'
    | refused _ reason' =>
      rw [Scheme.Refusal.toReport_injective (Except.error.inj hr)]

theorem tells_check (k : PublicKey) (m : Bytes) (s : Signature) (e : Environment) :
    Tells m.length s.toBytes.length ((k.check m s e).result.mapError Error.toReport)
      (k.check m s e).events := by
  rw [PublicKey.check_def]
  cases hv : Scheme.verify k.toOctets m s with
  | ok =>
    simp only [hv]
    exact .accepted
  | error reason =>
    simp only [hv]
    exact .refused s.length_toBytes reason

theorem tells_verify (he : e.Started) (k : PublicKey) (m : Bytes) (s : Signature) :
    Tells m.length s.toBytes.length ((k.verify m s e).result.mapError Error.toReport)
      (k.verify m s e).events := by
  rw [PublicKey.verify, ready_bind_apply he]
  exact tells_check k m s e

theorem tells_verifyBytes (he : e.Started) (k : PublicKey) (m b : Bytes) :
    Tells m.length b.length ((k.verifyBytes m b e).result.mapError Error.toReport)
      (k.verifyBytes m b e).events := by
  rw [PublicKey.verifyBytes, ready_bind_apply he]
  by_cases hb : b.length = 64
  · obtain ⟨s, rfl⟩ := Signature.exists_of_length hb
    rw [Signature.ofBytes_toBytes]
    exact tells_check k m s e
  · rw [Signature.ofBytes_of_length_ne hb]
    exact .wrongLength hb

/-- **A verification tells its failure**, and of what it was given the lengths. -/
theorem tells (he : e.Started) (v : Verification) :
    Tells v.messageLength v.signatureLength (v.result e) (v.events e) := by
  cases v with
  | signature k m s | reported m s k => exact tells_verify he k m s
  | bytes k m b => exact tells_verifyBytes he k m b

end Verification

/-! ## Refused private keys -/

namespace PrivateKey

theorem accepted_or_refused (he : e.Usable) (k : PrivateKey) : k.Accepted e ∨ k.Refused e := by
  by_cases hk : k = ofSeed k.seed
  · rw [hk]
    exact Or.inl (accepted_ofSeed he k.seed)
  · exact Or.inr (refused_of_ne_ofSeed he hk)

variable {k : PrivateKey}

theorem eq_corrupted_of_publicKey (he : e.Usable) {err : Error}
    (h : (k.publicKey e).result = .error err) : err = corrupted := by
  rcases accepted_or_refused he k with hk | hk
  · cases h.symm.trans hk.publicKey
  · exact Except.error.inj (h.symm.trans hk.publicKey)

theorem eq_corrupted_of_sign (he : e.Usable) {m : Bytes} {err : Error}
    (h : (k.sign m e).result = .error err) : err = corrupted := by
  rcases accepted_or_refused he k with hk | hk
  · obtain ⟨s, hs, -⟩ := hk.sign m
    cases h.symm.trans hs
  · exact Except.error.inj (h.symm.trans (hk.sign m))

theorem eq_corrupted_of_reportedPublicKey (he : e.Usable) {r : Report}
    (h : (Reported.publicKey k e).result = .error r) : r = corrupted.toReport := by
  rw [Reported.result_publicKey, Result.mapError_eq_error_iff] at h
  obtain ⟨err, herr, rfl⟩ := h
  rw [eq_corrupted_of_publicKey he herr]

theorem eq_corrupted_of_reportedSign (he : e.Usable) {m : Bytes} {r : Report}
    (h : (Reported.sign m k e).result = .error r) : r = corrupted.toReport := by
  rw [Reported.result_sign, Result.mapError_eq_error_iff] at h
  obtain ⟨err, herr, rfl⟩ := h
  rw [eq_corrupted_of_sign he herr]

theorem eq_corrupted_of_read {r : Report} (h : Reported.readPrivateKey k.toBytes = .error r) :
    r = corrupted.toReport := by
  have he := Environment.usable_fresh (.script [] "")
  rcases accepted_or_refused he k with hk | hk
  · cases h.symm.trans hk.read
  · exact Except.error.inj (h.symm.trans hk.read)

end PrivateKey

/-! ## Discretion -/

/-- Calls with one cause of failure, or with lengths and a result in common, have the same events,
in whatever environments they are made. -/
theorem events_eq_of_alike (he : e.Started) {e' : Environment} (he' : e'.Started) :
    (∀ (g : Generation) (cause : String), (e.source.draw 32).1 = .error cause →
      (e'.source.draw 32).1 = .error cause → g.events e = g.events e') ∧
    ∀ v v' : Verification, v.messageLength = v'.messageLength →
      v.signatureLength = v'.signatureLength → v.result e = v'.result e' →
      v.events e = v'.events e' := by
  constructor
  · intro g cause h h'
    rw [g.events_eq he, g.events_eq he', h, h']
  · intro v v' hm hs hr
    have htells := v.tells he
    rw [hm, hs, hr] at htells
    exact htells.unique (v'.tells he')

/-- **Neither events nor errors tell a secret.** Once the library has started up, only generations
and verifications emit an event, when they fail: the former the cause that the source gives, and the
latter the reason and the lengths of what they were given. Private keys have one text, and their
failures one error. -/
theorem events_discreet (he : e.Started) :
    (∀ c : SilentCall, c.events e = []) ∧
    (∀ g : Generation,
      (∀ seed, (e.source.draw 32).1 = .ok seed → g.events e = []) ∧
      ∀ cause, (e.source.draw 32).1 = .error cause →
        g.events e = [.sourceFailed cause] ∧ (Event.sourceFailed cause).level = .error) ∧
    (∀ v : Verification,
      (v.result e = .ok () → v.events e = []) ∧
      ∀ r, v.result e = .error r → ∃ event, v.events e = [event] ∧ event.level = .trace ∧
        (v.signatureLength ≠ 64 ∧ r = (Error.invalidSignatureSize 64 v.signatureLength).toReport ∧
            event = .wrongLength v.messageLength v.signatureLength ∨
          v.signatureLength = 64 ∧ ∃ reason : Scheme.Refusal, r = reason.toError.toReport ∧
            event = .refused v.messageLength reason)) ∧
    (∀ e' : Environment, e'.Started →
      (∀ (g : Generation) (cause : String), (e.source.draw 32).1 = .error cause →
        (e'.source.draw 32).1 = .error cause → g.events e = g.events e') ∧
      ∀ v v' : Verification, v.messageLength = v'.messageLength →
        v.signatureLength = v'.signatureLength → v.result e = v'.result e' →
        v.events e = v'.events e') ∧
    (∀ k k' : PrivateKey, k.redacted = k'.redacted) ∧
    ∀ k : PrivateKey,
      (∀ err, (k.publicKey e).result = .error err → err = PrivateKey.corrupted) ∧
      (∀ m err, (k.sign m e).result = .error err → err = PrivateKey.corrupted) ∧
      (∀ r, (Reported.publicKey k e).result = .error r → r = PrivateKey.corrupted.toReport) ∧
      (∀ m r, (Reported.sign m k e).result = .error r → r = PrivateKey.corrupted.toReport) ∧
      ∀ r, Reported.readPrivateKey k.toBytes = .error r → r = PrivateKey.corrupted.toReport := by
  refine ⟨SilentCall.events_eq_nil he, fun g => ⟨fun seed h => ?_, fun cause h => ⟨?_, rfl⟩⟩,
    fun v => ⟨fun h => ?_, fun r h => ?_⟩, fun e' he' => events_eq_of_alike he he',
    fun _ _ => rfl, fun k => ⟨fun _ => PrivateKey.eq_corrupted_of_publicKey he.usable,
      fun _ _ => PrivateKey.eq_corrupted_of_sign he.usable,
      fun _ => PrivateKey.eq_corrupted_of_reportedPublicKey he.usable,
      fun _ _ => PrivateKey.eq_corrupted_of_reportedSign he.usable,
      fun _ => PrivateKey.eq_corrupted_of_read⟩⟩
  · rw [g.events_eq he, h]
    rfl
  · rw [g.events_eq he, h]
    rfl
  · have htells := v.tells he
    rw [h] at htells
    exact htells.unique .accepted
  · have htells := v.tells he
    rw [h] at htells
    generalize v.events e = es at htells ⊢
    cases htells with
    | wrongLength hs => exact ⟨_, rfl, rfl, Or.inl ⟨hs, rfl, rfl⟩⟩
    | refused hs reason => exact ⟨_, rfl, rfl, Or.inr ⟨hs, reason, rfl, rfl⟩⟩

/-- A drained source, and a signature of one byte. -/
theorem events_discreet_drained :
    let e : Environment := ⟨⟨some (.ok .standard)⟩, .script [] "drained", []⟩
    e.Started ∧ Generation.keyPair.events e = [.sourceFailed "drained"] ∧
      (Verification.bytes ⟨.ofNat 32 2⟩ [] [0]).events e = [.wrongLength 0 1] := by
  intro e
  have he : e.Started := rfl
  refine ⟨he, ?_, ?_⟩
  · exact (((events_discreet he).2.1 .keyPair).2 "drained" rfl).1
  · have hr : (Verification.bytes ⟨.ofNat 32 2⟩ [] [0]).result e =
        .error (Error.invalidSignatureSize 64 1).toReport := by
      rw [Verification.result, PublicKey.result_verifyBytes he.usable]
      rfl
    obtain ⟨event, hevent, -, ⟨-, -, rfl⟩ | ⟨hs, -⟩⟩ := ((events_discreet he).2.2.1 _).2 _ hr
    · exact hevent
    · exact absurd hs (by decide)

end Ed25519
