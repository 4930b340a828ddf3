import Ed25519.Bytes

/-!
# ChaCha20

The keystream of the stream cipher ChaCha20 with a key of 32 bytes, a block counter of 64 bits and
a nonce of zero. The state is four rows of four words; a quarter round acts on all four columns at
once, and on the diagonals after the rows are rotated.
-/

namespace Ed25519.ChaCha20

/-- Four words. -/
structure Row where
  (a b c d : UInt32)

namespace Row

/-- Combine two rows word by word. -/
@[inline] def zipWith (f : UInt32 → UInt32 → UInt32) (r s : Row) : Row :=
  ⟨f r.a s.a, f r.b s.b, f r.c s.c, f r.d s.d⟩

/-- Every word rotated left by `n` places, `0 < n < 32`. -/
@[inline] def rotateBits (n : UInt32) (r : Row) : Row :=
  let rot x := x <<< n ||| x >>> (32 - n)
  ⟨rot r.a, rot r.b, rot r.c, rot r.d⟩

/-- The words moved one place to the left, around the end. -/
def shift (r : Row) : Row := ⟨r.b, r.c, r.d, r.a⟩

/-- The bytes of four words, each least significant first. -/
def toBytes (r : Row) : Bytes :=
  [r.a, r.b, r.c, r.d].flatMap fun w => Bytes.ofNatLE 4 w.toNat

theorem length_toBytes (r : Row) : r.toBytes.length = 16 := by simp [toBytes]

/-- The four words written in sixteen bytes from the `i`-th on. -/
def ofBytes (b : Bytes) (i : Nat) : Row :=
  let word j := UInt32.ofNat (Bytes.toNatLE ((b.drop (i + 4 * j)).take 4))
  ⟨word 0, word 1, word 2, word 3⟩

end Row

/-- The state: sixteen words. -/
structure State where
  (r₀ r₁ r₂ r₃ : Row)

/-- A quarter round on each column. -/
def columnRound (s : State) : State :=
  let a := s.r₀.zipWith (· + ·) s.r₁
  let d := (s.r₃.zipWith (· ^^^ ·) a).rotateBits 16
  let c := s.r₂.zipWith (· + ·) d
  let b := (s.r₁.zipWith (· ^^^ ·) c).rotateBits 12
  let a := a.zipWith (· + ·) b
  let d := (d.zipWith (· ^^^ ·) a).rotateBits 8
  let c := c.zipWith (· + ·) d
  let b := (b.zipWith (· ^^^ ·) c).rotateBits 7
  ⟨a, b, c, d⟩

/-- A quarter round on each diagonal. -/
def diagonalRound (s : State) : State :=
  let t := columnRound ⟨s.r₀, s.r₁.shift, s.r₂.shift.shift, s.r₃.shift.shift.shift⟩
  ⟨t.r₀, t.r₁.shift.shift.shift, t.r₂.shift.shift, t.r₃.shift⟩

/-- `n` times two rounds. -/
def doubleRounds : Nat → State → State
  | 0, s => s
  | n + 1, s => doubleRounds n (diagonalRound (columnRound s))

/-- The state that block `i` of the keystream starts from. -/
def start (key : Octets 32) (i : Nat) : State :=
  ⟨⟨0x61707865, 0x3320646e, 0x79622d32, 0x6b206574⟩, .ofBytes key.toBytes 0,
    .ofBytes key.toBytes 16, ⟨UInt32.ofNat i, UInt32.ofNat (i >>> 32), 0, 0⟩⟩

/-- Block `i` of the keystream: twenty rounds, added to the start. -/
def block (key : Octets 32) (i : Nat) : Octets 64 :=
  let s := start key i
  let t := doubleRounds 10 s
  ⟨(s.r₀.zipWith (· + ·) t.r₀).toBytes ++ (s.r₁.zipWith (· + ·) t.r₁).toBytes ++
    (s.r₂.zipWith (· + ·) t.r₂).toBytes ++ (s.r₃.zipWith (· + ·) t.r₃).toBytes, by
    simp [Row.length_toBytes]⟩

/-- The `n` blocks of the keystream from block `i` on. -/
def blocks (key : Octets 32) (i : Nat) : Nat → Bytes
  | 0 => []
  | n + 1 => (block key i).toBytes ++ blocks key (i + 1) n

@[simp] theorem length_blocks (key : Octets 32) (i n : Nat) :
    (blocks key i n).length = 64 * n := by
  induction n generalizing i with
  | zero => rfl
  | succ n ih => simp [blocks, ih]; omega

/-- The `n` bytes of the keystream from byte `i` on. -/
def keystream (key : Octets 32) (i n : Nat) : Octets n :=
  ⟨((blocks key (i / 64) ((i % 64 + n + 63) / 64)).drop (i % 64)).take n, by simp; omega⟩

end Ed25519.ChaCha20
