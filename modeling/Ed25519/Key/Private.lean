import Ed25519.ConstantTime
import Ed25519.Key.Public
import Ed25519.Scheme

/-!
# Private keys

A private key is a seed followed by the public key of that seed. Any 64 bytes can be taken for a
private key; whether its two halves belong together is checked when the key is used. Private keys
are compared in constant time, and `redacted` stands for them where their bytes must not be shown.
-/

namespace Ed25519

/-- A seed, and the bytes that stand for its public key. -/
structure PrivateKey where
  seed : Octets 32
  publicHalf : Octets 32

namespace PrivateKey

/-- The 64 bytes of a private key. -/
def toOctets (k : PrivateKey) : Octets 64 := k.seed.append k.publicHalf

/-- The bytes of a private key. -/
def toBytes (k : PrivateKey) : Bytes := k.toOctets.toBytes

/-- The private key written in 64 bytes. -/
def ofOctets (b : Octets 64) : PrivateKey := ⟨b.left 32 32, b.right 32 32⟩

@[simp] theorem ofOctets_toOctets (k : PrivateKey) : ofOctets k.toOctets = k := by
  simp [ofOctets, toOctets]

@[simp] theorem toOctets_ofOctets (b : Octets 64) : (ofOctets b).toOctets = b := by
  simp [ofOctets, toOctets]

/-- Take a byte string for a private key. -/
def ofBytes (b : Bytes) : Except Error PrivateKey :=
  match Octets.ofBytes? 64 b with
  | some o => .ok (ofOctets o)
  | none => .error (.invalidKeySize 64 b.length)

@[simp] theorem ofBytes_toBytes (k : PrivateKey) : ofBytes k.toBytes = .ok k := by
  simp [ofBytes, toBytes]

theorem ofBytes_eq_ok_iff {b : Bytes} {k : PrivateKey} : ofBytes b = .ok k ↔ b = k.toBytes := by
  constructor
  · intro h
    unfold ofBytes at h
    split at h
    next o ho =>
      cases h
      rw [Octets.ofBytes?_eq_some_iff.1 ho, toBytes, toOctets_ofOctets]
    · cases h
  · rintro rfl
    exact ofBytes_toBytes k

/-- The private key of a seed. -/
def ofSeed (seed : Octets 32) : PrivateKey := ⟨seed, Scheme.publicKey seed⟩

/-- The private key with every byte wiped. -/
def wiped : PrivateKey := ⟨Octets.zero 32, Octets.zero 32⟩

instance : BEq PrivateKey := ⟨fun a b => ConstantTime.equal a.toBytes b.toBytes⟩

/-- The second half of the key is the public key of its seed. -/
def IsConsistent (k : PrivateKey) : Prop := k.publicHalf = Scheme.publicKey k.seed

instance (k : PrivateKey) : Decidable k.IsConsistent := inferInstanceAs (Decidable (_ = _))

theorem isConsistent_ofSeed (seed : Octets 32) : (ofSeed seed).IsConsistent := rfl

/-- A key whose halves belong together is the key of its seed. -/
theorem isConsistent_iff (k : PrivateKey) : k.IsConsistent ↔ k = ofSeed k.seed := by
  cases k
  simp [IsConsistent, ofSeed]

/-- The seed of the key, if its halves belong together. -/
def usableSeed (k : PrivateKey) : Except Error (Octets 32) :=
  if k.IsConsistent then .ok k.seed
  else .error (.invalidKey "private key is corrupted: public half does not match seed")

theorem usableSeed_ofSeed (seed : Octets 32) : (ofSeed seed).usableSeed = .ok seed :=
  if_pos (isConsistent_ofSeed seed)

/-- The keys that can be used are the keys of seeds. -/
theorem usableSeed_eq_ok_iff {k : PrivateKey} {seed : Octets 32} :
    k.usableSeed = .ok seed ↔ k = ofSeed seed := by
  constructor
  · intro h
    by_cases hk : k.IsConsistent
    · have hs : k.seed = seed := by simpa [usableSeed, hk] using h
      exact hs ▸ (isConsistent_iff k).1 hk
    · simp [usableSeed, hk] at h
  · rintro rfl
    exact usableSeed_ofSeed seed

/-- The text that stands for any private key where its bytes must not be shown. -/
def redacted (_ : PrivateKey) : String := "Ed25519PrivateKey[REDACTED]"

/-- The key as text: its bytes in hexadecimal, marked as those of a private key. -/
def text (k : PrivateKey) : String := "dsaprv:" ++ Hex.encode k.toBytes

end PrivateKey

/-- A private key and its public key. -/
structure KeyPair where
  publicKey : PublicKey
  privateKey : PrivateKey

end Ed25519
