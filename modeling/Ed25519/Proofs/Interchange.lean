import Ed25519.Interchange
import Ed25519.Proofs.Base64
import Ed25519.Proofs.Json.Text

/-!
# Canonical JSON forms

A public key and a signature have one JSON string each, the base64 text of their bytes
(`Interchange.canonical`). A string is read as a value when it is the string of that value, and
every other string is refused: as the text of bytes of the wrong number, or as no base64 text at
all. To read from a JSON text is to read from the value that it holds.
-/

namespace Ed25519

theorem bytesOfBase64_eq_ok_iff {t : String} {b : Bytes} :
    bytesOfBase64 t = .ok b ↔ t = Base64.encode b := by
  rw [bytesOfBase64, Result.mapError_eq_ok_iff, Base64.decode_ofString_eq_ok_iff]

theorem Json.Value.asString_eq_ok_iff {v : Json.Value} {t : String} :
    v.asString = .ok t ↔ v = .string t := by
  cases v with
  | string s => simp [Json.Value.asString]
  | null | boolean | number | array | object => simp [Json.Value.asString]

namespace Interchange

variable {α : Type}

/-- The JSON form of values that are byte strings of length `size` is canonical. Strings are read by
`ofJson`, texts by `ofJsonText`; `wrongSize n` is the error of `n` bytes. -/
structure Canonical (size : ℕ) (wrongSize : ℕ → Error) (toBytes : α → Bytes)
    (toJson : α → Json.Value) (ofJson : Json.Value → Except DecodeError α)
    (ofJsonText : String → Except DecodeError α) : Prop where
  length_toBytes (v : α) : (toBytes v).length = size
  ofJson_eq_ok_iff (t : String) (v : α) :
    ofJson (.string t) = .ok v ↔ Base64.IsText (toBytes v) t
  shape_of_ofJson (t : String) (v : α) (h : ofJson (.string t) = .ok v) :
    t.toList.length = 4 * ((size + 2) / 3) ∧ ∀ c ∈ t.toList, c ∈ Base64.alphabet ∨ c = '='
  toJson_of_ofJson (t : String) (v : α) (h : ofJson (.string t) = .ok v) : toJson v = .string t
  eq_of_ofJson (t t' : String) (v : α) (h : ofJson (.string t) = .ok v)
    (h' : ofJson (.string t') = .ok v) : t = t'
  ofJsonText_of_parse (s t : String) (h : Json.parse s = .ok (.string t)) :
    ofJsonText s = ofJson (.string t)
  ofJsonText_render (v : α) : ofJsonText (toJson v).render = .ok v
  wrongSize (t : String) (b : Bytes) (ht : Base64.IsText b t) (hb : b.length ≠ size) :
    ofJson (.string t) = .error (.size (wrongSize b.length))
  notBase64 (t : String) (ht : ∀ b, ¬ Base64.IsText b t) :
    ∃ cause, ofJson (.string t) = .error (.base64 cause) ∧
      (DecodeError.base64 cause).message? = some ("invalid base64: " ++ cause.message)

/-- Read a value whose bytes are read by `ofBytes` from base64 text. -/
def ofBase64 (ofBytes : Bytes → Except Error α) (t : String) : Except DecodeError α := do
  (ofBytes (← bytesOfBase64 t)).mapError .size

variable {ofBytes : Bytes → Except Error α}

theorem ofBase64_encode (b : Bytes) :
    ofBase64 ofBytes (Base64.encode b) = (ofBytes b).mapError .size := by
  rw [ofBase64, bytesOfBase64_eq_ok_iff.2 rfl, Result.ok_bind]

theorem ofBase64_eq_ok_iff {toBytes : α → Bytes} (hok : ∀ b v, ofBytes b = .ok v ↔ b = toBytes v)
    {t : String} {v : α} :
    ofBase64 ofBytes t = .ok v ↔ t = Base64.encode (toBytes v) := by
  rw [ofBase64, Result.bind_eq_ok_iff]
  constructor
  · rintro ⟨b, hb, hv⟩
    rw [bytesOfBase64_eq_ok_iff] at hb
    rw [Result.mapError_eq_ok_iff, hok] at hv
    rw [hb, hv]
  · rintro rfl
    exact ⟨toBytes v, bytesOfBase64_eq_ok_iff.2 rfl, Result.mapError_eq_ok_iff.2 ((hok _ _).2 rfl)⟩

/-- The JSON form is the only value that is read as a byte string. -/
theorem asString_bind_ofBase64_eq_ok_iff {toBytes : α → Bytes}
    (hok : ∀ b a, ofBytes b = .ok a ↔ b = toBytes a) {v : Json.Value} {a : α} :
    v.asString >>= ofBase64 ofBytes = .ok a ↔ v = .string (Base64.encode (toBytes a)) := by
  rw [Result.bind_eq_ok_iff]
  simp only [Json.Value.asString_eq_ok_iff, ofBase64_eq_ok_iff hok]
  constructor
  · rintro ⟨t, rfl, rfl⟩
    rfl
  · rintro rfl
    exact ⟨_, rfl, rfl⟩

/-- A text that is no base64 fails before the number of its bytes is looked at. -/
theorem exists_ofBase64_eq_error {t : String} (ht : ∀ b, t ≠ Base64.encode b) :
    ∃ cause, ofBase64 ofBytes t = .error (.base64 cause) := by
  cases hb : bytesOfBase64 t with
  | ok b => exact absurd (bytesOfBase64_eq_ok_iff.1 hb) (ht b)
  | error err =>
    obtain ⟨cause, -, rfl⟩ := Result.mapError_eq_error_iff.1 hb
    exact ⟨cause, by rw [ofBase64, hb]; rfl⟩

/-- The JSON form of values whose bytes are read when they are of the right number is canonical. -/
theorem canonical_of_ofBytes {size : ℕ} {wrongSize : ℕ → Error} {toBytes : α → Bytes}
    (hlength : ∀ v, (toBytes v).length = size)
    (hok : ∀ b v, ofBytes b = .ok v ↔ b = toBytes v)
    (hsize : ∀ b, b.length ≠ size → ofBytes b = .error (wrongSize b.length)) :
    Canonical size wrongSize toBytes (fun v => .string (Base64.encode (toBytes v)))
      (fun v => v.asString >>= ofBase64 ofBytes) (Json.decodeText (ofBase64 ofBytes)) where
  length_toBytes := hlength
  ofJson_eq_ok_iff t v := by
    rw [Base64.isText_iff]
    exact ofBase64_eq_ok_iff hok
  shape_of_ofJson t v h := by
    rw [← hlength v]
    exact (Base64.isText_iff.2 ((ofBase64_eq_ok_iff hok).1 h)).shape
  toJson_of_ofJson t v h := congrArg _ ((ofBase64_eq_ok_iff hok).1 h).symm
  eq_of_ofJson t t' v h h' :=
    ((ofBase64_eq_ok_iff hok).1 h).trans ((ofBase64_eq_ok_iff hok).1 h').symm
  ofJsonText_of_parse s t h := Json.decodeText_of_parse _ h
  ofJsonText_render v :=
    (Json.decodeText_renderString _ _).trans ((ofBase64_eq_ok_iff hok).2 rfl)
  wrongSize t b ht hb := by
    obtain rfl := Base64.isText_iff.1 ht
    refine (ofBase64_encode b).trans ?_
    rw [hsize b hb]
    rfl
  notBase64 t ht := by
    obtain ⟨cause, h⟩ := exists_ofBase64_eq_error fun b hb => ht b (Base64.isText_iff.2 hb)
    exact ⟨cause, h, rfl⟩

theorem canonical_publicKey : Canonical 32 (.invalidKeySize 32) PublicKey.toBytes PublicKey.toJson
    PublicKey.ofJson PublicKey.ofJsonText :=
  canonical_of_ofBytes PublicKey.length_toBytes (fun _ _ => PublicKey.ofBytes_eq_ok_iff)
    fun _ => PublicKey.ofBytes_of_length_ne

theorem canonical_signature : Canonical 64 (.invalidSignatureSize 64) Signature.toBytes
    Signature.toJson Signature.ofJson Signature.ofJsonText :=
  canonical_of_ofBytes Signature.length_toBytes (fun _ _ => Signature.ofBytes_eq_ok_iff)
    fun _ => Signature.ofBytes_of_length_ne

/-- **The JSON forms of public keys and signatures are canonical.** -/
theorem canonical :
    Canonical 32 (.invalidKeySize 32) PublicKey.toBytes PublicKey.toJson PublicKey.ofJson
      PublicKey.ofJsonText ∧
    Canonical 64 (.invalidSignatureSize 64) Signature.toBytes Signature.toJson Signature.ofJson
      Signature.ofJsonText :=
  ⟨canonical_publicKey, canonical_signature⟩

end Interchange

/-! ## Reading values -/

/-- A key is read from its own JSON form, and from no other value. -/
theorem PublicKey.ofJson_eq_ok_iff {v : Json.Value} {k : PublicKey} :
    PublicKey.ofJson v = .ok k ↔ v = k.toJson :=
  Interchange.asString_bind_ofBase64_eq_ok_iff fun _ _ => PublicKey.ofBytes_eq_ok_iff

theorem Signature.ofJson_eq_ok_iff {v : Json.Value} {s : Signature} :
    Signature.ofJson v = .ok s ↔ v = s.toJson :=
  Interchange.asString_bind_ofBase64_eq_ok_iff fun _ _ => Signature.ofBytes_eq_ok_iff

end Ed25519
