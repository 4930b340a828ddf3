import Ed25519.Bytes
import Ed25519.Error
import Ed25519.Hex

/-!
# Public keys

A public key is the encoding of a point in 32 bytes. Any 32 bytes can be taken for a public key;
whether they encode a point is for verification to say.
-/

namespace Ed25519

/-- The bytes of a public key. -/
structure PublicKey where
  toOctets : Octets 32
  deriving DecidableEq

namespace PublicKey

/-- The bytes of a public key. -/
def toBytes (k : PublicKey) : Bytes := k.toOctets.toBytes

/-- Take a byte string for a public key. -/
def ofBytes (b : Bytes) : Except Error PublicKey :=
  match Octets.ofBytes? 32 b with
  | some o => .ok ⟨o⟩
  | none => .error (.invalidKeySize 32 b.length)

@[simp] theorem ofBytes_toBytes (k : PublicKey) : ofBytes k.toBytes = .ok k := by
  simp [ofBytes, toBytes]

theorem ofBytes_eq_ok_iff {b : Bytes} {k : PublicKey} : ofBytes b = .ok k ↔ b = k.toBytes := by
  constructor
  · intro h
    unfold ofBytes at h
    split at h
    next o ho =>
      cases h
      rw [Octets.ofBytes?_eq_some_iff.1 ho, toBytes]
    · cases h
  · rintro rfl
    exact ofBytes_toBytes k

@[simp] theorem length_toBytes (k : PublicKey) : k.toBytes.length = 32 := k.toOctets.length_eq

theorem ofBytes_of_length_ne {b : Bytes} (h : b.length ≠ 32) :
    ofBytes b = .error (.invalidKeySize 32 b.length) := by
  rw [ofBytes, Octets.ofBytes?_eq_none_iff.2 h]

/-- The key in hexadecimal. -/
def toHex (k : PublicKey) : String := Hex.encode k.toBytes

/-- The characters of a text without one leading `0x`. -/
def stripMark : List Char → List Char
  | '0' :: 'x' :: r => r
  | r => r

/-- Read a key from hexadecimal text, which may start with `0x`. -/
def ofHex (t : String) : Except Error PublicKey :=
  match Hex.decode (Bytes.ofString (String.ofList (stripMark t.toList))) with
  | .ok b => ofBytes b
  | .error e => .error (.deserialization ("public key hex decode error: " ++ e.message))

/-- The key as text: its bytes in hexadecimal, marked as those of a public key. -/
def text (k : PublicKey) : String := "dsapub:" ++ k.toHex

end PublicKey

end Ed25519
