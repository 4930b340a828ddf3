import Ed25519.Proofs.Key.Private
import Ed25519.Proofs.Random.Stream

/-!
# Generating keys

To generate a key, alone or with its public key, makes one request of 32 bytes to the random source,
whether a key comes of it or not (`PrivateKey.generate_apply`, `Reported.keyPair_apply`). So after
any sequence of generations the source has answered one request for each of them
(`Generation.foldl_environment`), and the next key is that of the next 32 bytes. A source that has
too few of them gives no key: the generation fails with its cause, and so do all that follow
(`Generation.generated_in_order`).
-/

namespace Ed25519

open Operation

variable {e : Environment}

/-! ## One generation -/

theorem Operation.draw_apply {ε : Type} (n : ℕ) (e : Environment) :
    (draw n : Operation ε (Except String (Octets n))) e =
      ⟨.ok (e.source.draw n).1,
        { e with source := (e.source.draw n).2, requests := e.requests ++ [n] }, []⟩ := rfl

/-- The environment `e'` is that of `e` after starting up and one request of 32 bytes. -/
structure Environment.AfterRequest (e e' : Environment) : Prop where
  outcome : e'.startup.outcome = some (.ok .standard)
  source : e'.source = (e.source.draw 32).2
  requests : e'.requests = e.requests ++ [32]

namespace PrivateKey

/-- The error that tells why no key could be generated. -/
def notGenerated (cause : String) : Error :=
  .keyGeneration algorithmName ("entropy source failed: " ++ cause)

/-- The key that the answer to a request gives. -/
def ofDraw (d : Except String (Octets 32)) : Except Error PrivateKey :=
  (d.map ofSeed).mapError notGenerated

/-- The key and the environment that a generation leaves behind. -/
theorem generate_apply (he : e.Usable) :
    ∃ e' es, generate e = ⟨ofDraw (e.source.draw 32).1, e', es⟩ ∧ e.AfterRequest e' := by
  obtain ⟨e₁, es, h, ho⟩ := ready_of_usable he
  have hsource : e.source = e₁.source := congrArg (fun o => o.environment.source) h
  have hrequests : e.requests = e₁.requests := congrArg (fun o => o.environment.requests) h
  have hafter : e.AfterRequest
      { e₁ with source := (e₁.source.draw 32).2, requests := e₁.requests ++ [32] } :=
    ⟨ho, by rw [hsource], by rw [hrequests]⟩
  rw [generate, bind_of_ok h, bind_of_ok (draw_apply 32 e₁), hsource]
  cases (e₁.source.draw 32).1 with
  | ok seed => exact ⟨_, _, rfl, hafter⟩
  | error cause => exact ⟨_, _, rfl, hafter⟩

/-- Once started up, the public key of a seed is given without any further effect. -/
theorem publicKey_ofSeed_apply (ho : e.startup.outcome = some (.ok .standard)) (seed : Octets 32) :
    (ofSeed seed).publicKey e = ⟨.ok ⟨Scheme.publicKey seed⟩, e, []⟩ := by
  rw [publicKey, bind_of_ok (ready_of_outcome ho), usableSeed_ofSeed]
  rfl

end PrivateKey

/-- A private key and its second half. -/
def KeyPair.ofPrivateKey (k : PrivateKey) : KeyPair := ⟨⟨k.publicHalf⟩, k⟩

namespace Reported

theorem reported_apply {α : Type} {x : Operation Error α} {r : Except Error α} {e' : Environment}
    {es : List Event} (h : x e = ⟨r, e', es⟩) :
    reported x e = ⟨r.mapError Error.toReport, e', es⟩ := by
  simp only [reported, Operation.mapError, h]

/-- A key pair is generated as a private key is. -/
theorem keyPair_apply (he : e.Usable) :
    ∃ e' es, keyPair e = ⟨((PrivateKey.ofDraw (e.source.draw 32).1).map
        KeyPair.ofPrivateKey).mapError Error.toReport, e', es⟩ ∧
      e.AfterRequest e' := by
  obtain ⟨e₁, es, h, hafter⟩ := PrivateKey.generate_apply he
  have hgen := reported_apply h
  rw [keyPair]
  cases hd : (e.source.draw 32).1 with
  | ok seed =>
    rw [hd] at hgen
    have hpub := reported_apply (PrivateKey.publicKey_ofSeed_apply hafter.outcome seed)
    refine ⟨e₁, es, ?_, hafter⟩
    rw [bind_of_ok hgen, bind_of_ok hpub, pure_apply, List.append_nil, List.append_nil]
    rfl
  | error cause =>
    rw [hd] at hgen
    exact ⟨e₁, es, bind_of_error hgen, hafter⟩

end Reported

/-! ## Sequences of generations -/

/-- The ways to have a key generated: alone, or with its public key. -/
inductive Generation where
  | privateKey
  | keyPair

namespace Generation

/-- The environment that a generation leaves behind. -/
def environment (e : Environment) : Generation → Environment
  | privateKey => (PrivateKey.generate e).environment
  | keyPair => (Reported.keyPair e).environment

/-- A generation makes one request. -/
theorem environment_spec (he : e.Usable) (g : Generation) : e.AfterRequest (g.environment e) := by
  cases g with
  | privateKey =>
    obtain ⟨e', es, h, hafter⟩ := PrivateKey.generate_apply he
    rw [environment, h]
    exact hafter
  | keyPair =>
    obtain ⟨e', es, h, hafter⟩ := Reported.keyPair_apply he
    rw [environment, h]
    exact hafter

/-- A sequence of generations makes one request for each of them. -/
theorem foldl_environment (he : e.Usable) (gs : List Generation) :
    (gs.foldl environment e).Usable ∧
      (gs.foldl environment e).requests = e.requests ++ List.replicate gs.length 32 ∧
      (gs.foldl environment e).source = (fun s : Source => (s.draw 32).2)^[gs.length] e.source := by
  induction gs generalizing e with
  | nil => exact ⟨he, (List.append_nil _).symm, rfl⟩
  | cons g gs ih =>
    have hafter := environment_spec he g
    obtain ⟨hu, hr, hs⟩ := ih (Environment.usable_of_outcome hafter.outcome)
    refine ⟨hu, ?_, ?_⟩
    · rw [List.foldl_cons, hr, hafter.requests, List.length_cons, List.replicate_succ,
        List.append_assoc, List.singleton_append]
    · rw [List.foldl_cons, hs, hafter.source, List.length_cons, Function.iterate_succ_apply]

/-- The key of the seed is generated, and its public key with it, which is its second half. The same
pair comes from the seed itself. -/
structure Delivers (e : Environment) (seed : Octets 32) : Prop where
  privateKey : (PrivateKey.generate e).result = .ok (.ofSeed seed)
  keyPair : (Reported.keyPair e).result =
    .ok ⟨⟨(PrivateKey.ofSeed seed).publicHalf⟩, .ofSeed seed⟩
  keyPairOfSeed : (Reported.keyPairOfSeed seed.toBytes e).result = (Reported.keyPair e).result
  ofSeed : (KeyPair.ofSeed seed e).result =
    .ok ⟨⟨(PrivateKey.ofSeed seed).publicHalf⟩, .ofSeed seed⟩

/-- No key is generated, and the cause is told by a fatal error. -/
structure Fails (e : Environment) (cause : String) : Prop where
  privateKey : ∃ err, (PrivateKey.generate e).result = .error err ∧
    err = .keyGeneration "Ed25519" ("entropy source failed: " ++ cause) ∧
    err.isFatal = true ∧ err.isVerificationFailure = false
  keyPair : (Reported.keyPair e).result = .error ⟨"Ed25519",
    .text .randomGeneration ("Key generation failed: entropy source failed: " ++ cause)⟩

theorem delivers_of_draw (he : e.Usable) {seed : Octets 32}
    (h : (e.source.draw 32).1 = .ok seed) : Delivers e seed := by
  obtain ⟨e₁, es₁, h₁, -⟩ := PrivateKey.generate_apply he
  obtain ⟨e₂, es₂, h₂, -⟩ := Reported.keyPair_apply he
  rw [h] at h₁ h₂
  have hseed := KeyPair.result_ofSeed he seed
  refine ⟨by rw [h₁]; rfl, by rw [h₂]; rfl, ?_, hseed⟩
  rw [h₂, Reported.keyPairOfSeed, Octets.ofBytes?_toBytes]
  exact congrArg (Except.mapError Error.toReport) hseed

theorem fails_of_draw (he : e.Usable) {cause : String}
    (h : (e.source.draw 32).1 = .error cause) : Fails e cause := by
  obtain ⟨e₁, es₁, h₁, -⟩ := PrivateKey.generate_apply he
  obtain ⟨e₂, es₂, h₂, -⟩ := Reported.keyPair_apply he
  rw [h] at h₁ h₂
  have htext : "Key generation failed: entropy source failed: " ++ cause =
      "Key generation failed: " ++ ("entropy source failed: " ++ cause) := by
    rw [← String.append_assoc]
    rfl
  refine ⟨⟨_, by rw [h₁]; rfl, rfl, rfl, rfl⟩, ?_⟩
  rw [h₂, htext]
  rfl

/-- **Generations read their source in order, and fail closed.** The generations `gs` made one request
of 32 bytes each, and no other. After them the next one gives the key of the next 32 bytes: of a
script as long as 32 bytes are left, and of a keystream always. Two keys in a row from the start of a
keystream are those of the halves of one block. -/
theorem generated_in_order (he : e.Usable) (gs : List Generation) :
    let e' := gs.foldl environment e
    e'.requests = e.requests ++ List.replicate gs.length 32 ∧
    e'.source = (fun s : Source => (s.draw 32).2)^[gs.length] e.source ∧
    (∀ bytes cause, e.source = .script bytes cause →
      (gs.length < bytes.length / 32 → ∃ seed : Octets 32,
        seed.toBytes = (bytes.drop (32 * gs.length)).take 32 ∧ Delivers e' seed) ∧
      (bytes.length / 32 ≤ gs.length → Fails e' cause)) ∧
    (∀ key position, e.source = .keystream key position → ∃ seed : Octets 32,
      seed.toBytes =
        (List.range' (position + 32 * gs.length) 32).map (ChaCha20.byteAt key) ∧
      Delivers e' seed) ∧
    ∀ key, e.source = .keystream key 0 → Delivers e'
      (if gs.length % 2 = 0 then (ChaCha20.block key (gs.length / 2)).left 32 32
      else (ChaCha20.block key (gs.length / 2)).right 32 32) := by
  intro e'
  obtain ⟨he', hr, hs⟩ := foldl_environment he gs
  have hadvance : e'.source = e.source.advance (32 * gs.length) := by
    rw [hs, Source.iterate_draw]
  refine ⟨hr, hs, fun bytes cause h => ⟨fun hlt => ?_, fun hle => ?_⟩, fun key position h => ?_,
    fun key h => ?_⟩
  · have hlen : 32 ≤ (bytes.drop (32 * gs.length)).length := by
      rw [List.length_drop]
      omega
    obtain ⟨seed, hdraw, hseed⟩ := Source.exists_draw_script hlen cause
    rw [h] at hadvance
    exact ⟨seed, hseed, delivers_of_draw he' (hadvance ▸ hdraw)⟩
  · have hlen : (bytes.drop (32 * gs.length)).length < 32 := by
      rw [List.length_drop]
      omega
    rw [h] at hadvance
    exact fails_of_draw he' (hadvance ▸ Source.draw_script_of_lt hlen cause)
  · rw [h] at hadvance
    exact ⟨_, ChaCha20.toBytes_keystream _ _ _, delivers_of_draw he' (by rw [hadvance]; rfl)⟩
  · rw [h] at hadvance
    rw [← ChaCha20.keystream_half]
    refine delivers_of_draw he' ?_
    rw [hadvance, Source.advance, Nat.zero_add]
    rfl

/-- Of a script of 70 bytes there are two keys, and then none: the six bytes behind them are used
up by the third generation, which makes its request as the others do. -/
theorem generated_in_order_drained :
    let e : Environment := .fresh (.script ((List.range 70).map UInt8.ofNat) "drained")
    e.Usable ∧
    (∃ seed : Octets 32, seed.toBytes = (List.range' 32 32).map UInt8.ofNat ∧
      Delivers ([privateKey].foldl environment e) seed) ∧
    Fails ([privateKey, keyPair].foldl environment e) "drained" ∧
    Fails ([privateKey, keyPair, privateKey].foldl environment e) "drained" ∧
    ([privateKey, keyPair, privateKey].foldl environment e).requests = [32, 32, 32] := by
  intro e
  have he : e.Usable := Environment.usable_fresh _
  obtain ⟨seed, hseed, hdelivers⟩ :=
    ((generated_in_order he [privateKey]).2.2.1 _ _ rfl).1 (by decide)
  refine ⟨he, ⟨seed, hseed.trans (by decide), hdelivers⟩, ?_, ?_, ?_⟩
  · exact ((generated_in_order he [privateKey, keyPair]).2.2.1 _ _ rfl).2 (by decide)
  · exact ((generated_in_order he [privateKey, keyPair, privateKey]).2.2.1 _ _ rfl).2 (by decide)
  · exact (generated_in_order he [privateKey, keyPair, privateKey]).1

end Generation

end Ed25519
