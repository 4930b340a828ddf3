import Ed25519.Base64
import Ed25519.Json.Printer
import Ed25519.Json.Reader
import Ed25519.Key.Public
import Ed25519.Signature

/-!
# JSON forms of public keys and signatures

A public key and a signature are JSON strings: the base64 text of their bytes. They are read from a
value (`ofJson`) or from a text (`ofJsonText`). Reading from a text stops at the first fault: what
follows a value of the wrong shape is not looked at.
-/

namespace Ed25519

/-- Why JSON does not hold the value sought. -/
inductive DecodeError where
  /-- The text is not JSON. -/
  | text (cause : Json.TextError)
  /-- A value of another shape. -/
  | wrongShape (found : Json.Shape) (expected : String)
  /-- A string that is not base64. -/
  | base64 (cause : Base64.DecodeError)
  /-- Bytes of the wrong number. -/
  | size (cause : Error)
  /-- An object without a field. -/
  | missingField (name : String)
  /-- An array with fewer or more items than there are fields. -/
  | wrongLength (found : Nat) (expected : String)

/-- The message about a value, if the text is JSON. -/
def DecodeError.message? : DecodeError → Option String
  | text _ => none
  | wrongShape s e => some ("invalid type: " ++ s.describe ++ ", expected " ++ e)
  | base64 c => some ("invalid base64: " ++ c.message)
  | size c => some c.message
  | missingField n => some ("missing field `" ++ n ++ "`")
  | wrongLength n e => some ("invalid length " ++ n.repr ++ ", expected " ++ e)

namespace Json

variable {α : Type}

/-- The string that a value is. -/
def Value.asString : Value → Except DecodeError String
  | .string s => .ok s
  | v => .error (.wrongShape v.shape "a string")

/-- Read a string from a text and decode it. Blanks may stand around the string; what else follows it
is a fault only once the string is decoded. -/
def decodeText (decode : String → Except DecodeError α) (t : String) : Except DecodeError α :=
  match skipBlanks t.toList with
  | '"' :: r => do
    let (cs, r) ← (readBody r).mapError .text
    let a ← decode (String.ofList cs)
    if skipBlanks r = [] then return a else throw (.text .malformed)
  | s =>
    match readShape s with
    | .ok shape => .error (.wrongShape shape "a string")
    | .error e => .error (.text e)

end Json

/-- The bytes of a base64 text. -/
def bytesOfBase64 (t : String) : Except DecodeError Bytes :=
  (Base64.decode (Bytes.ofString t)).mapError .base64

namespace PublicKey

/-- The key as base64 text. -/
def toBase64 (k : PublicKey) : String := Base64.encode k.toBytes

/-- Read a key from base64 text. -/
def ofBase64 (t : String) : Except DecodeError PublicKey := do
  (ofBytes (← bytesOfBase64 t)).mapError .size

/-- The key as a JSON value. -/
def toJson (k : PublicKey) : Json.Value := .string k.toBase64

/-- Read a key from a JSON value. -/
def ofJson (v : Json.Value) : Except DecodeError PublicKey := v.asString >>= ofBase64

/-- Read a key from a JSON text. -/
def ofJsonText (t : String) : Except DecodeError PublicKey := Json.decodeText ofBase64 t

end PublicKey

namespace Signature

/-- The signature as base64 text. -/
def toBase64 (s : Signature) : String := Base64.encode s.toBytes

/-- Read a signature from base64 text. -/
def ofBase64 (t : String) : Except DecodeError Signature := do
  (ofBytes (← bytesOfBase64 t)).mapError .size

/-- The signature as a JSON value. -/
def toJson (s : Signature) : Json.Value := .string s.toBase64

/-- Read a signature from a JSON value. -/
def ofJson (v : Json.Value) : Except DecodeError Signature := v.asString >>= ofBase64

/-- Read a signature from a JSON text. -/
def ofJsonText (t : String) : Except DecodeError Signature := Json.decodeText ofBase64 t

end Signature

end Ed25519
