import Ed25519.Bytes

/-!
# SHA-512

The hash function SHA-512 on byte strings. A message is padded to whole blocks of 128 bytes, each
block is expanded to eighty words (`schedule`), and `compress` folds one `round` per word over the
chaining value.
-/

namespace Ed25519.Sha512

/-! ## Words -/

/-- `x` rotated right by `n` places, `0 < n < 64`. -/
def rotateRight (x n : UInt64) : UInt64 := x >>> n ||| x <<< (64 - n)

/-- The bytes of a word, most significant first. -/
def bytesOfWord (x : UInt64) : Bytes :=
  [(x >>> 56).toUInt8, (x >>> 48).toUInt8, (x >>> 40).toUInt8, (x >>> 32).toUInt8,
   (x >>> 24).toUInt8, (x >>> 16).toUInt8, (x >>> 8).toUInt8, x.toUInt8]

@[simp] theorem length_bytesOfWord (x : UInt64) : (bytesOfWord x).length = 8 := rfl

/-- The words written in a byte string, eight bytes each, most significant first. -/
def wordsOfBytes : Bytes → List UInt64
  | a :: b :: c :: d :: e :: f :: g :: h :: r =>
    (a.toUInt64 <<< 56 ||| b.toUInt64 <<< 48 ||| c.toUInt64 <<< 40 ||| d.toUInt64 <<< 32 |||
      e.toUInt64 <<< 24 ||| f.toUInt64 <<< 16 ||| g.toUInt64 <<< 8 ||| h.toUInt64) ::
      wordsOfBytes r
  | _ => []

/-! ## Compression -/

/-- The chaining value: eight words. -/
structure State where
  (a b c d e f g h : UInt64)

/-- The chaining value before the first block: the square roots of the first eight primes. -/
def initial : State :=
  ⟨0x6a09e667f3bcc908, 0xbb67ae8584caa73b, 0x3c6ef372fe94f82b, 0xa54ff53a5f1d36f1,
   0x510e527fade682d1, 0x9b05688c2b3e6c1f, 0x1f83d9abfb41bd6b, 0x5be0cd19137e2179⟩

/-- The round constants: the cube roots of the first eighty primes. -/
def constants : List UInt64 :=
  [
    0x428a2f98d728ae22, 0x7137449123ef65cd, 0xb5c0fbcfec4d3b2f, 0xe9b5dba58189dbbc,
    0x3956c25bf348b538, 0x59f111f1b605d019, 0x923f82a4af194f9b, 0xab1c5ed5da6d8118,
    0xd807aa98a3030242, 0x12835b0145706fbe, 0x243185be4ee4b28c, 0x550c7dc3d5ffb4e2,
    0x72be5d74f27b896f, 0x80deb1fe3b1696b1, 0x9bdc06a725c71235, 0xc19bf174cf692694,
    0xe49b69c19ef14ad2, 0xefbe4786384f25e3, 0x0fc19dc68b8cd5b5, 0x240ca1cc77ac9c65,
    0x2de92c6f592b0275, 0x4a7484aa6ea6e483, 0x5cb0a9dcbd41fbd4, 0x76f988da831153b5,
    0x983e5152ee66dfab, 0xa831c66d2db43210, 0xb00327c898fb213f, 0xbf597fc7beef0ee4,
    0xc6e00bf33da88fc2, 0xd5a79147930aa725, 0x06ca6351e003826f, 0x142929670a0e6e70,
    0x27b70a8546d22ffc, 0x2e1b21385c26c926, 0x4d2c6dfc5ac42aed, 0x53380d139d95b3df,
    0x650a73548baf63de, 0x766a0abb3c77b2a8, 0x81c2c92e47edaee6, 0x92722c851482353b,
    0xa2bfe8a14cf10364, 0xa81a664bbc423001, 0xc24b8b70d0f89791, 0xc76c51a30654be30,
    0xd192e819d6ef5218, 0xd69906245565a910, 0xf40e35855771202a, 0x106aa07032bbd1b8,
    0x19a4c116b8d2d0c8, 0x1e376c085141ab53, 0x2748774cdf8eeb99, 0x34b0bcb5e19b48a8,
    0x391c0cb3c5c95a63, 0x4ed8aa4ae3418acb, 0x5b9cca4f7763e373, 0x682e6ff3d6b2b8a3,
    0x748f82ee5defb2fc, 0x78a5636f43172f60, 0x84c87814a1f0ab72, 0x8cc702081a6439ec,
    0x90befffa23631e28, 0xa4506cebde82bde9, 0xbef9a3f7b2c67915, 0xc67178f2e372532b,
    0xca273eceea26619c, 0xd186b8c721c0c207, 0xeada7dd6cde0eb1e, 0xf57d4f7fee6ed178,
    0x06f067aa72176fba, 0x0a637dc5a2c898a6, 0x113f9804bef90dae, 0x1b710b35131c471b,
    0x28db77f523047d84, 0x32caab7b40c72493, 0x3c9ebe0a15c9bebc, 0x431d67c49c100d4c,
    0x4cc5d4becb3e42b6, 0x597f299cfc657e2a, 0x5fcb6fab3ad6faec, 0x6c44198c4a475817
  ]

/-- One round with the round constant `k` and the message word `w`. -/
def round (s : State) (k w : UInt64) : State :=
  let sum₁ := rotateRight s.e 14 ^^^ rotateRight s.e 18 ^^^ rotateRight s.e 41
  let choice := (s.e &&& s.f) ^^^ (~~~s.e &&& s.g)
  let t₁ := s.h + sum₁ + choice + k + w
  let sum₀ := rotateRight s.a 28 ^^^ rotateRight s.a 34 ^^^ rotateRight s.a 39
  let majority := (s.a &&& s.b) ^^^ (s.a &&& s.c) ^^^ (s.b &&& s.c)
  ⟨t₁ + sum₀ + majority, s.a, s.b, s.c, s.d + t₁, s.e, s.f, s.g⟩

/-- The word that follows sixteen or more words of a schedule, given in reverse. -/
def nextWord (ws : List UInt64) : UInt64 :=
  let x := ws.getD 1 0
  let y := ws.getD 14 0
  (rotateRight x 19 ^^^ rotateRight x 61 ^^^ x >>> 6) + ws.getD 6 0 +
    (rotateRight y 1 ^^^ rotateRight y 8 ^^^ y >>> 7) + ws.getD 15 0

/-- Extend a schedule, given in reverse, by `n` words. -/
def extend : Nat → List UInt64 → List UInt64
  | 0, ws => ws
  | n + 1, ws => extend n (nextWord ws :: ws)

/-- The eighty words of a block of sixteen. -/
def schedule (block : List UInt64) : List UInt64 := (extend 64 block.reverse).reverse

/-- Fold a block of sixteen words into the chaining value. -/
def compress (s : State) (block : List UInt64) : State :=
  let t := (constants.zip (schedule block)).foldl (fun t kw => round t kw.1 kw.2) s
  ⟨s.a + t.a, s.b + t.b, s.c + t.c, s.d + t.d, s.e + t.e, s.f + t.f, s.g + t.g, s.h + t.h⟩

/-- Fold `n` blocks into the chaining value. -/
def absorb : Nat → State → List UInt64 → State
  | 0, s, _ => s
  | n + 1, s, ws => absorb n (compress s (ws.take 16)) (ws.drop 16)

/-! ## Messages -/

/-- The number of blocks that hold a message of `n` bytes, its end mark and its length. -/
def blockCount (n : Nat) : Nat := (n + 144) / 128

/-- The message, the end mark, zeros up to the last sixteen bytes of a block, and the message's
length in bits, most significant byte first. -/
def pad (m : Bytes) : Bytes :=
  m ++ 0x80 :: List.replicate (128 * blockCount m.length - m.length - 17) 0 ++
    (Bytes.ofNatLE 16 (8 * m.length)).reverse

/-- The bytes of a chaining value. -/
def State.toOctets (s : State) : Octets 64 :=
  ⟨[s.a, s.b, s.c, s.d, s.e, s.f, s.g, s.h].flatMap bytesOfWord, rfl⟩

/-- The hash of a byte string. -/
def digest (m : Bytes) : Octets 64 :=
  (absorb (blockCount m.length) initial (wordsOfBytes (pad m))).toOctets

end Ed25519.Sha512
