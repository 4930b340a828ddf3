import Ed25519.Bytes
import Ed25519.Error
import Ed25519.Hex

/-!
# Signatures

A signature is 64 bytes: the encoding of a point, the commitment, and a number below the order of
the base point, the response. Any 64 bytes can be taken for a signature; whether they are one is
for verification to say.
-/

namespace Ed25519

/-- The bytes of a signature. -/
structure Signature where
  commitment : Octets 32
  response : Octets 32
  deriving DecidableEq

namespace Signature

/-- The signature written in 64 bytes. -/
def ofOctets (b : Octets 64) : Signature := ⟨b.left 32 32, b.right 32 32⟩

/-- The 64 bytes of a signature. -/
def toOctets (s : Signature) : Octets 64 := s.commitment.append s.response

@[simp] theorem ofOctets_toOctets (s : Signature) : ofOctets s.toOctets = s := by
  simp [ofOctets, toOctets]

@[simp] theorem toOctets_ofOctets (b : Octets 64) : (ofOctets b).toOctets = b := by
  simp [ofOctets, toOctets]

/-- The bytes of a signature. -/
def toBytes (s : Signature) : Bytes := s.toOctets.toBytes

/-- Take a byte string for a signature. -/
def ofBytes (b : Bytes) : Except Error Signature :=
  match Octets.ofBytes? 64 b with
  | some o => .ok (ofOctets o)
  | none => .error (.invalidSignatureSize 64 b.length)

@[simp] theorem ofBytes_toBytes (s : Signature) : ofBytes s.toBytes = .ok s := by
  simp [ofBytes, toBytes]

theorem ofBytes_eq_ok_iff {b : Bytes} {s : Signature} : ofBytes b = .ok s ↔ b = s.toBytes := by
  constructor
  · intro h
    unfold ofBytes at h
    split at h
    next o ho =>
      cases h
      rw [Octets.ofBytes?_eq_some_iff.1 ho, toBytes, toOctets_ofOctets]
    · cases h
  · rintro rfl
    exact ofBytes_toBytes s

@[simp] theorem length_toBytes (s : Signature) : s.toBytes.length = 64 := s.toOctets.length_eq

theorem exists_of_length {b : Bytes} (h : b.length = 64) : ∃ s : Signature, b = s.toBytes :=
  ⟨ofOctets ⟨b, h⟩, by rw [toBytes, toOctets_ofOctets]⟩

theorem ofBytes_of_length_ne {b : Bytes} (h : b.length ≠ 64) :
    ofBytes b = .error (.invalidSignatureSize 64 b.length) := by
  rw [ofBytes, Octets.ofBytes?_eq_none_iff.2 h]

/-- The signature as text: its bytes in hexadecimal, named. -/
def text (s : Signature) : String := "Ed25519Signature(" ++ Hex.encode s.toBytes ++ ")"

end Signature

end Ed25519
