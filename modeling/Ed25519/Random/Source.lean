import Ed25519.Random.ChaCha20

/-!
# Random sources

A random source hands out bytes in order. It is a finite script, which fails when it is asked for
more than it has left, or the keystream of a key, which does not end. `Source.ofNumber` expands a
number of 64 bits to a key.
-/

namespace Ed25519

/-- A random source, by the bytes it has yet to hand out. -/
inductive Source where
  /-- The bytes left, and the cause that is given once there are too few. -/
  | script (remaining : Bytes) (cause : String)
  /-- The keystream of a key from a position on. -/
  | keystream (key : Octets 32) (position : Nat)

namespace Source

/-- Ask for `n` bytes. A script that has too few uses up what is left. -/
def draw (n : Nat) : Source → Except String (Octets n) × Source
  | script r c =>
    match Octets.ofBytes? n (r.take n) with
    | some b => (.ok b, script (r.drop n) c)
    | none => (.error c, script [] c)
  | keystream k i => (.ok (ChaCha20.keystream k i n), keystream k (i + n))

/-! ## Keys from numbers -/

/-- The next state of the generator that expands a number to a key. -/
def nextState (s : UInt64) : UInt64 := s * 6364136223846793005 + 11634580027462260723

/-- The word that a state of the generator gives: high bits folded into low ones, rotated right by
the five highest. -/
def outputWord (s : UInt64) : UInt32 :=
  let x := (((s >>> 18) ^^^ s) >>> 27).toUInt32
  let r := (s >>> 59).toUInt32
  x >>> r ||| x <<< ((32 - r) % 32)

/-- The bytes of the next `n` words of the generator. -/
def expand : Nat → UInt64 → Bytes
  | 0, _ => []
  | n + 1, s => Bytes.ofNatLE 4 (outputWord (nextState s)).toNat ++ expand n (nextState s)

theorem length_expand (n : Nat) (s : UInt64) : (expand n s).length = 4 * n := by
  induction n generalizing s with
  | zero => rfl
  | succ n ih => simp [expand, ih]; omega

/-- The keystream of the key that a number expands to. -/
def ofNumber (n : UInt64) : Source := keystream ⟨expand 8 n, length_expand 8 n⟩ 0

end Source

end Ed25519
