import Ed25519.Envelope
import Ed25519.Proofs.Interchange
import Ed25519.Proofs.Key.Private

/-!
# What an envelope tells

An object holds an envelope when three of its fields do, in any order and among any others
(`Envelope.Holds`), and it holds no more than one. It is opened when the signature in it is one of
the payload in it (`Envelope.result_openJson_eq_ok_iff`). What comes of that is in
`Envelope.openJson_object`: whoever signs a text can have it opened, and whoever changes the text
has to find a collision of hashes.
-/

namespace Ed25519

open Operation

variable {e : Environment}

namespace Envelope

/-! ## Reading envelopes -/

theorem field?_eq_some_iff {α : Type} {fields : List (String × Json.Value)} {name : String}
    {read : Json.Value → Except DecodeError α} {a : α} :
    field? fields name read = .ok (some a) ↔
      ∃ v, Json.lookup fields name = some v ∧ read v = .ok a := by
  rw [field?]
  cases Json.lookup fields name with
  | none => simp
  | some v => simp [Result.map_eq_ok_iff]

theorem required_eq_ok_iff {α : Type} {name : String} {o : Option α} {a : α} :
    required name o = .ok a ↔ o = some a := by
  cases o <;> simp [required]

/-- The fields of an object hold the parts of an envelope, wherever they stand and whatever other
fields there are. -/
structure Holds (fields : List (String × Json.Value)) (env : Envelope) : Prop where
  signer : ∃ t, Json.lookup fields "signer" = some (.string t) ∧
    Base64.IsText env.signer.toBytes t
  payload : Json.lookup fields "payload" = some (.string env.payload)
  signature : ∃ t, Json.lookup fields "signature" = some (.string t) ∧
    Base64.IsText env.signature.toBytes t

variable {fields : List (String × Json.Value)} {env : Envelope}

/-- There is one base64 text for the key and one for the signature. -/
theorem holds_iff :
    Holds fields env ↔
      Json.lookup fields "signer" = some env.signer.toJson ∧
      Json.lookup fields "payload" = some (.string env.payload) ∧
      Json.lookup fields "signature" = some env.signature.toJson := by
  constructor
  · rintro ⟨⟨_, hk, htk⟩, hp, _, hs, hts⟩
    obtain rfl := Base64.isText_iff.1 htk
    obtain rfl := Base64.isText_iff.1 hts
    exact ⟨hk, hp, hs⟩
  · rintro ⟨hk, hp, hs⟩
    exact ⟨⟨_, hk, Base64.isText_iff.2 rfl⟩, hp, _, hs, Base64.isText_iff.2 rfl⟩

/-- **An envelope is read from the objects that hold it**, and from no others. -/
theorem ofFields_eq_ok_iff : ofFields fields = .ok env ↔ Holds fields env := by
  rw [holds_iff]
  simp only [ofFields, Result.bind_eq_ok_iff, required_eq_ok_iff]
  constructor
  · -- The fields are read in the order of their names, and then asked for in that of the record.
    rintro ⟨_, hp, _, hs, _, hk, k, rfl, p, rfl, s, rfl, h⟩
    cases h
    rw [field?_eq_some_iff] at hp hs hk
    simp only [Json.Value.asString_eq_ok_iff, PublicKey.ofJson_eq_ok_iff,
      Signature.ofJson_eq_ok_iff, exists_eq_right] at hp hs hk
    exact ⟨hk, hp, hs⟩
  · rintro ⟨hk, hp, hs⟩
    refine ⟨_, field?_eq_some_iff.2 ⟨_, hp, Json.Value.asString_eq_ok_iff.2 rfl⟩,
      _, field?_eq_some_iff.2 ⟨_, hs, Signature.ofJson_eq_ok_iff.2 rfl⟩,
      _, field?_eq_some_iff.2 ⟨_, hk, PublicKey.ofJson_eq_ok_iff.2 rfl⟩,
      _, rfl, _, rfl, _, rfl, rfl⟩

/-- The JSON form of an envelope holds it. -/
theorem exists_toJson_eq (env : Envelope) : ∃ fields, env.toJson = .object fields ∧
    Holds fields env :=
  ⟨_, rfl, holds_iff.2 ⟨rfl, rfl, rfl⟩⟩

theorem Holds.unique {env' : Envelope} (h : Holds fields env) (h' : Holds fields env') :
    env = env' :=
  Except.ok.inj ((ofFields_eq_ok_iff.2 h).symm.trans (ofFields_eq_ok_iff.2 h'))

/-! ## Opening envelopes -/

theorem result_openPayload (he : e.Usable) (env : Envelope) :
    (env.openPayload e).result =
      (env.signer.verdict (Bytes.ofString env.payload) env.signature).map fun _ => env.payload := by
  have h := result_bind_pure (env.signer.verify (Bytes.ofString env.payload) env.signature)
    (fun _ => env.payload) e
  rw [PublicKey.result_verify he] at h
  exact h

/-- An envelope is opened to its payload, if that is verified. -/
theorem result_mapError_openPayload_eq_ok_iff (he : e.Usable) {text : String} :
    ((env.openPayload.mapError .refused : Operation OpenError String) e).result = .ok text ↔
      env.payload = text ∧ (env.signer.verifyBytes (Bytes.ofString env.payload)
        env.signature.toBytes e).result = .ok () := by
  show (env.openPayload e).result.mapError OpenError.refused = .ok text ↔ _
  rw [Result.mapError_eq_ok_iff, result_openPayload he, Result.map_eq_ok_iff,
    PublicKey.result_verifyBytes_toBytes he]
  constructor
  · rintro ⟨⟨⟩, h, htext⟩
    exact ⟨htext, h⟩
  · rintro ⟨htext, h⟩
    exact ⟨(), h, htext⟩

/-- **An object is opened when it holds an envelope whose payload is verified.** -/
theorem result_openJson_eq_ok_iff (he : e.Usable) {text : String} :
    (openJson (.object fields) e).result = .ok text ↔
      ∃ env, Holds fields env ∧ env.payload = text ∧
        (env.signer.verifyBytes (Bytes.ofString text) env.signature.toBytes e).result = .ok () := by
  rw [openJson, result_ofExcept_bind, Result.bind_eq_ok_iff]
  simp only [Result.mapError_eq_ok_iff, result_mapError_openPayload_eq_ok_iff he, ofJson,
    ofFields_eq_ok_iff]
  constructor
  · rintro ⟨env, henv, rfl, h⟩
    exact ⟨env, henv, rfl, h⟩
  · rintro ⟨env, henv, rfl, h⟩
    exact ⟨env, henv, rfl, h⟩

/-- When it is known which envelope an object holds, only the verification is left. -/
theorem Holds.result_openJson_eq_ok_iff (henv : Holds fields env) (he : e.Usable) :
    (openJson (.object fields) e).result = .ok env.payload ↔
      (env.signer.verifyBytes (Bytes.ofString env.payload) env.signature.toBytes e).result =
        .ok () := by
  rw [Envelope.result_openJson_eq_ok_iff he]
  constructor
  · rintro ⟨env', henv', -, h⟩
    obtain rfl := henv.unique henv'
    exact h
  · intro h
    exact ⟨env, henv, rfl, h⟩

/-! ## Signing and opening -/

theorem result_sign_ofSeed (he : e.Usable) (seed : Octets 32) (payload : String) :
    (sign (.ofSeed seed) payload e).result =
      .ok ⟨⟨Scheme.publicKey seed⟩, payload, Scheme.sign seed (Bytes.ofString payload)⟩ := by
  rw [sign, result_bind_of_ok (PrivateKey.result_publicKey_ofSeed he seed), result_bind_pure,
    PrivateKey.result_sign_ofSeed (PrivateKey.keeps_publicKey _ e he)]
  rfl

/-- A key that has a public key signs every text, and what it signs can be opened anywhere, unless
the nonce of the text is zero. -/
theorem exists_sign_openJson_iff (he : e.Usable) {k : PrivateKey} {pk : PublicKey}
    (hk : (k.publicKey e).result = .ok pk) (payload : String) :
    ∃ env, (sign k payload e).result = .ok env ∧ env.signer = pk ∧ env.payload = payload ∧
      ∀ e' : Environment, e'.Usable → ((openJson env.toJson e').result = .ok payload ↔
        Scheme.nonce k.seed (Bytes.ofString payload) ≠ 0) := by
  -- Only the keys of seeds have a public key, and of these it is known what they answer.
  have hseed : k = .ofSeed k.seed := ((PrivateKey.tfae_ofSeed he k).out 0 4).1 (Exists.intro pk hk)
  generalize k.seed = seed at hseed ⊢
  subst hseed
  rw [PrivateKey.result_publicKey_ofSeed he] at hk
  obtain rfl := Except.ok.inj hk
  refine ⟨_, result_sign_ofSeed he seed payload, rfl, rfl, fun e' he' => ?_⟩
  obtain ⟨fields, hfields, hholds⟩ := exists_toJson_eq
    ⟨⟨Scheme.publicKey seed⟩, payload, Scheme.sign seed (Bytes.ofString payload)⟩
  rw [hfields, hholds.result_openJson_eq_ok_iff he', PublicKey.result_verifyBytes_toBytes he',
    PrivateKey.verdict_sign_eq_ok_iff]

/-- **Signed envelopes.** An object is opened when it holds an envelope whose signature is one of
its payload. So what is signed can be opened, unless its nonce is zero: the hash of the second half of
the seed's hash and the payload, reduced by the order of the group. Another payload can take the place
of the one that was opened when their hashes collide. -/
theorem openJson_object (he : e.Usable) :
    (∀ fields text, (openJson (.object fields) e).result = .ok text ↔
      ∃ env, Holds fields env ∧ env.payload = text ∧
        (env.signer.verifyBytes (Bytes.ofString text) env.signature.toBytes e).result = .ok ()) ∧
    (∀ (k : PrivateKey) (pk : PublicKey), (k.publicKey e).result = .ok pk → ∀ payload,
      ∃ env, (sign k payload e).result = .ok env ∧ env.signer = pk ∧ env.payload = payload ∧
        ∀ e' : Environment, e'.Usable → ((openJson env.toJson e').result = .ok payload ↔
          (Sha512.digest (((Sha512.digest k.seed.toBytes).right 32 32).toBytes ++
            Bytes.ofString payload)).toNat % groupOrder ≠ 0)) ∧
    ∀ fields env, Holds fields env → (openJson (.object fields) e).result = .ok env.payload →
      ∀ fields' payload', Holds fields' { env with payload := payload' } →
        ((openJson (.object fields') e).result = .ok payload' ↔
          env.signer.Collide env.signature.commitment (Bytes.ofString env.payload)
            (Bytes.ofString payload')) := by
  refine ⟨fun fields text => result_openJson_eq_ok_iff he, fun k pk => exists_sign_openJson_iff he,
    fun fields env henv hopen fields' payload' henv' => ?_⟩
  rw [henv.result_openJson_eq_ok_iff he] at hopen
  exact (henv'.result_openJson_eq_ok_iff he).trans (PublicKey.result_eq_ok_iff_collide he hopen _)

/-- A text with a quote, a line break and a letter beyond ASCII is signed and opened. The empty text
cannot take its place. -/
theorem openJson_object_quoted :
    let e : Environment := .fresh (.script [] "")
    let payload := "\"ä\"\n"
    e.Usable ∧ ∃ env, (sign (.ofSeed Startup.testSeed) payload e).result = .ok env ∧
      (openJson env.toJson e).result = .ok payload ∧
      (openJson { env with payload := "" }.toJson e).result ≠ .ok "" := by
  intro e payload
  have he : e.Usable := Environment.usable_fresh _
  obtain ⟨-, hsign, hreplace⟩ := openJson_object he
  obtain ⟨env, henv, -, -, hopen⟩ :=
    hsign _ _ (PrivateKey.result_publicKey_ofSeed he Startup.testSeed) payload
  obtain rfl := Except.ok.inj (henv.symm.trans (result_sign_ofSeed he _ _))
  have hok := (hopen e he).2 (by decide +kernel)
  refine ⟨he, _, henv, hok, fun hempty => ?_⟩
  obtain ⟨fields, hfields, hholds⟩ := exists_toJson_eq
    ⟨⟨Scheme.publicKey Startup.testSeed⟩, payload, Scheme.sign _ (Bytes.ofString payload)⟩
  obtain ⟨fields', hfields', hholds'⟩ := exists_toJson_eq
    ⟨⟨Scheme.publicKey Startup.testSeed⟩, "", Scheme.sign _ (Bytes.ofString payload)⟩
  rw [hfields] at hok
  rw [hfields'] at hempty
  have hcollide := (hreplace fields _ hholds hok fields' "" hholds').1 hempty
  exact absurd hcollide (by decide +kernel)

end Envelope

end Ed25519
