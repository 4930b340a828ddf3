/-!
# Byte strings

Byte strings are lists of bytes; `Octets n` is a byte string of length `n`. Numbers are written in
little-endian order (`toNatLE`, `ofNatLE`), and `invertBit` inverts one bit of a byte string, bits
being counted from the least significant bit of the first byte.
-/

namespace Ed25519

/-- A byte string. -/
abbrev Bytes := List UInt8

namespace Bytes

/-- The number whose base-256 digits are `b`, least significant first. -/
def toNatLE : Bytes → Nat
  | [] => 0
  | b :: r => b.toNat + 256 * toNatLE r

/-- The `n` least significant base-256 digits of `k`, least significant first. -/
def ofNatLE : (n k : Nat) → Bytes
  | 0, _ => []
  | n + 1, k => UInt8.ofNat k :: ofNatLE n (k / 256)

@[simp] theorem length_ofNatLE (n k : Nat) : (ofNatLE n k).length = n := by
  induction n generalizing k with
  | zero => rfl
  | succ n ih => simp [ofNatLE, ih]

/-- Invert bit `i` of `b`. The index wraps around at the end of `b`; the empty string has no bit to
invert and stays as it is. -/
def invertBit (b : Bytes) (i : Nat) : Bytes :=
  let k := i % (8 * b.length)
  b.modify (k / 8) (· ^^^ (1 <<< UInt8.ofNat (k % 8)))

@[simp] theorem length_invertBit (b : Bytes) (i : Nat) : (invertBit b i).length = b.length := by
  simp [invertBit]

/-- The bytes of a text in UTF-8. -/
def ofString (s : String) : Bytes := s.toList.flatMap String.utf8EncodeChar

end Bytes

/-- A byte string of length `n`. -/
structure Octets (n : Nat) where
  toBytes : Bytes
  length_eq : toBytes.length = n
  deriving DecidableEq

namespace Octets

attribute [simp] length_eq

theorem ext {n : Nat} {a b : Octets n} (h : a.toBytes = b.toBytes) : a = b := by
  cases a; cases b; cases h; rfl

/-- The byte string `b`, if it has length `n`. -/
def ofBytes? (n : Nat) (b : Bytes) : Option (Octets n) :=
  if h : b.length = n then some ⟨b, h⟩ else none

@[simp] theorem ofBytes?_toBytes {n : Nat} (a : Octets n) : ofBytes? n a.toBytes = some a := by
  simp [ofBytes?]

theorem ofBytes?_eq_some_iff {n : Nat} {b : Bytes} {a : Octets n} :
    ofBytes? n b = some a ↔ b = a.toBytes := by
  constructor
  · intro h
    unfold ofBytes? at h
    split at h
    · cases h; rfl
    · cases h
  · rintro rfl; exact ofBytes?_toBytes a

theorem ofBytes?_eq_none_iff {n : Nat} {b : Bytes} : ofBytes? n b = none ↔ b.length ≠ n := by
  simp [ofBytes?]

/-- `n` zero bytes. -/
def zero (n : Nat) : Octets n := ⟨List.replicate n 0, List.length_replicate⟩

/-- The `n` least significant bytes of `k`, least significant first. -/
def ofNat (n k : Nat) : Octets n := ⟨Bytes.ofNatLE n k, Bytes.length_ofNatLE n k⟩

/-- The number written in the bytes, least significant first. -/
def toNat {n : Nat} (a : Octets n) : Nat := a.toBytes.toNatLE

/-- One byte string after the other. -/
def append {m n : Nat} (a : Octets m) (b : Octets n) : Octets (m + n) :=
  ⟨a.toBytes ++ b.toBytes, by simp⟩

/-- The first `m` of `m + n` bytes. -/
def left (m n : Nat) (a : Octets (m + n)) : Octets m := ⟨a.toBytes.take m, by simp⟩

/-- The last `n` of `m + n` bytes. -/
def right (m n : Nat) (a : Octets (m + n)) : Octets n := ⟨a.toBytes.drop m, by simp⟩

/-- The byte string with bit `i` inverted. -/
def invertBit {n : Nat} (a : Octets n) (i : Nat) : Octets n := ⟨a.toBytes.invertBit i, by simp⟩

@[simp] theorem left_append {m n : Nat} (a : Octets m) (b : Octets n) :
    left m n (a.append b) = a :=
  ext (by simp [append, left])

@[simp] theorem right_append {m n : Nat} (a : Octets m) (b : Octets n) :
    right m n (a.append b) = b :=
  ext (by simp [append, right])

@[simp] theorem append_left_right {m n : Nat} (a : Octets (m + n)) :
    (left m n a).append (right m n a) = a :=
  ext (by simp [append, left, right])

end Octets

end Ed25519
