import Ed25519.Interchange
import Ed25519.Signing

/-!
# Signed envelopes

An envelope is a text with the public key of its signer and a signature of the text's UTF-8 bytes.
Its JSON form is an object of three fields, or an array of their values in the order of the fields of
`Envelope`. Opening an envelope gives its text if the signature is valid.
-/

namespace Ed25519

/-- A signed text. -/
structure Envelope where
  signer : PublicKey
  payload : String
  signature : Signature

namespace Envelope

/-- Sign a text. -/
def sign (k : PrivateKey) (payload : String) : Operation Error Envelope := do
  let signer ← k.publicKey
  return ⟨signer, payload, ← k.sign (Bytes.ofString payload)⟩

/-- The text of an envelope whose signature is valid. -/
def openPayload (e : Envelope) : Operation Error String := do
  e.signer.verify (Bytes.ofString e.payload) e.signature
  return e.payload

/-! ## JSON form -/

/-- The envelope as a JSON value. -/
def toJson (e : Envelope) : Json.Value :=
  .object [("signer", e.signer.toJson), ("payload", .string e.payload),
    ("signature", e.signature.toJson)]

/-- Read the field `name`, if there is one. -/
def field? {α : Type} (fields : List (String × Json.Value)) (name : String)
    (read : Json.Value → Except DecodeError α) : Except DecodeError (Option α) :=
  match Json.lookup fields name with
  | some v => (read v).map some
  | none => .ok none

/-- The value of a field that must be there. -/
def required {α : Type} (name : String) : Option α → Except DecodeError α
  | some a => .ok a
  | none => .error (.missingField name)

/-- Read an envelope from the fields of an object, in any order and among others. Fields that cannot
be read are reported before fields that are missing, and the former in the order of their names. -/
def ofFields (fields : List (String × Json.Value)) : Except DecodeError Envelope := do
  let payload ← field? fields "payload" Json.Value.asString
  let signature ← field? fields "signature" Signature.ofJson
  let signer ← field? fields "signer" PublicKey.ofJson
  let signer ← required "signer" signer
  let payload ← required "payload" payload
  let signature ← required "signature" signature
  return ⟨signer, payload, signature⟩

/-- Read an envelope from the items of an array. -/
def ofItems (items : List Json.Value) : Except DecodeError Envelope := do
  let some signer := items[0]? | throw (tooShort 0)
  let signer ← PublicKey.ofJson signer
  let some payload := items[1]? | throw (tooShort 1)
  let payload ← payload.asString
  let some signature := items[2]? | throw (tooShort 2)
  let signature ← Signature.ofJson signature
  if items.length = 3 then return ⟨signer, payload, signature⟩
  else throw (.wrongLength items.length "fewer elements in array")
where
  /-- The fault of an array with `n` items. -/
  tooShort (n : Nat) : DecodeError :=
    .wrongLength n "struct SignedEnvelope with 3 elements"

/-- Read an envelope from a JSON value. -/
def ofJson : Json.Value → Except DecodeError Envelope
  | .object fields => ofFields fields
  | .array items => ofItems items
  | v => .error (.wrongShape v.shape "struct SignedEnvelope")

/-! ## Opening -/

/-- Why an envelope in JSON could not be opened. -/
inductive OpenError where
  | decode (cause : DecodeError)
  | refused (cause : Error)

/-- Read an envelope and give its text if the signature is valid. -/
def openJson (v : Json.Value) : Operation OpenError String := do
  let e ← Operation.ofExcept ((ofJson v).mapError .decode)
  e.openPayload.mapError .refused

end Envelope

end Ed25519
