import Ed25519.Random.Source
import Mathlib.Logic.Function.Iterate

/-!
# Random sources as streams of bytes

The keystream of a key is one stream of bytes: byte `i` of it is byte `i % 64` of block `i / 64`
(`ChaCha20.byteAt`), and a piece of it is a slice of this stream wherever it starts and ends
(`ChaCha20.toBytes_keystream`). A source hands out the bytes of a stream in order. To ask it for `n`
bytes moves it on by `n` bytes, whether it can give them or not (`Source.draw_snd`), so that a
sequence of requests reads adjacent slices (`Source.iterate_draw`).
-/

namespace Ed25519

/-! ## Keystreams -/

namespace ChaCha20

theorem mod_lt_length_block (key : Octets 32) (i : ℕ) :
    i % 64 < (block key (i / 64)).toBytes.length := by
  rw [Octets.length_eq]
  exact Nat.mod_lt i (by decide)

/-- Byte `i` of the keystream of a key. -/
def byteAt (key : Octets 32) (i : ℕ) : UInt8 :=
  (block key (i / 64)).toBytes.get ⟨i % 64, mod_lt_length_block key i⟩

theorem getElem?_block (key : Octets 32) (i : ℕ) {j : ℕ} (hj : j < 64) :
    (block key i).toBytes[j]? = some (byteAt key (64 * i + j)) := by
  have hdiv : (64 * i + j) / 64 = i := by omega
  have hmod : (64 * i + j) % 64 = j := by omega
  simp only [byteAt, List.get_eq_getElem, hdiv, hmod]
  exact List.getElem?_eq_getElem _

theorem getElem?_blocks (key : Octets 32) (i n : ℕ) {j : ℕ} (hj : j < 64 * n) :
    (blocks key i n)[j]? = some (byteAt key (64 * i + j)) := by
  induction n generalizing i j with
  | zero => omega
  | succ n ih =>
    rw [blocks]
    by_cases h : j < 64
    · rw [List.getElem?_append_left (by simpa using h), getElem?_block key i h]
    · rw [List.getElem?_append_right (by simpa using h), Octets.length_eq, ih (i + 1) (by omega)]
      congr 2
      omega

theorem getElem?_keystream (key : Octets 32) (i n : ℕ) {j : ℕ} (hj : j < n) :
    (keystream key i n).toBytes[j]? = some (byteAt key (i + j)) := by
  rw [keystream, List.getElem?_take_of_lt hj, List.getElem?_drop, getElem?_blocks _ _ _ (by omega)]
  congr 2
  omega

/-- **A piece of the keystream is a slice of its bytes.** -/
theorem toBytes_keystream (key : Octets 32) (i n : ℕ) :
    (keystream key i n).toBytes = (List.range' i n).map (byteAt key) := by
  refine List.ext_getElem (by simp) fun j hj _ => ?_
  rw [Octets.length_eq] at hj
  refine Option.some.inj ?_
  rw [← List.getElem?_eq_getElem, ← List.getElem?_eq_getElem, getElem?_keystream _ _ _ hj,
    List.getElem?_map, List.getElem?_range' hj, Option.map_some, Nat.one_mul]

/-- The keystream of the key of zeros: its first block, and the start of the second. -/
example : (keystream (Octets.zero 32) 0 80).toBytes =
    [0x76, 0xb8, 0xe0, 0xad, 0xa0, 0xf1, 0x3d, 0x90, 0x40, 0x5d, 0x6a, 0xe5, 0x53, 0x86, 0xbd, 0x28,
     0xbd, 0xd2, 0x19, 0xb8, 0xa0, 0x8d, 0xed, 0x1a, 0xa8, 0x36, 0xef, 0xcc, 0x8b, 0x77, 0x0d, 0xc7,
     0xda, 0x41, 0x59, 0x7c, 0x51, 0x57, 0x48, 0x8d, 0x77, 0x24, 0xe0, 0x3f, 0xb8, 0xd8, 0x4a, 0x37,
     0x6a, 0x43, 0xb8, 0xf4, 0x15, 0x18, 0xa1, 0x1c, 0xc3, 0x87, 0xb6, 0x69, 0xb2, 0xee, 0x65, 0x86,
     0x9f, 0x07, 0xe7, 0xbe, 0x55, 0x51, 0x38, 0x7a, 0x98, 0xba, 0x97, 0x7c, 0x73, 0x2d, 0x08, 0x0d] := by
  decide +kernel

/-- A piece of 32 bytes that starts at a multiple of 32 is half a block. -/
theorem keystream_half (key : Octets 32) (i : ℕ) :
    keystream key (32 * i) 32 =
      if i % 2 = 0 then (block key (i / 2)).left 32 32 else (block key (i / 2)).right 32 32 := by
  refine Octets.ext (List.ext_getElem (by simp) fun j hj _ => ?_)
  rw [Octets.length_eq] at hj
  refine Option.some.inj ?_
  rw [← List.getElem?_eq_getElem, ← List.getElem?_eq_getElem, getElem?_keystream _ _ _ hj]
  split
  next h =>
    rw [Octets.left, List.getElem?_take_of_lt hj, getElem?_block _ _ (by omega)]
    congr 2
    omega
  next h =>
    rw [Octets.right, List.getElem?_drop, getElem?_block _ _ (by omega)]
    congr 2
    omega

end ChaCha20

/-! ## Sources -/

namespace Source

/-- The source behind the next `n` bytes. -/
def advance (n : ℕ) : Source → Source
  | script r c => script (r.drop n) c
  | keystream k i => keystream k (i + n)

/-- **A request moves a source on**, also one that fails. -/
theorem draw_snd (s : Source) (n : ℕ) : (s.draw n).2 = s.advance n := by
  cases s with
  | keystream k i => rfl
  | script r c =>
    rw [draw]
    split
    next => rfl
    next h =>
      rw [Octets.ofBytes?_eq_none_iff, List.length_take] at h
      rw [advance, List.drop_eq_nil_of_le (by omega)]

/-- Requests of `n` bytes each read adjacent slices. -/
theorem iterate_draw (s : Source) (n i : ℕ) :
    (fun s : Source => (s.draw n).2)^[i] s = s.advance (n * i) := by
  induction i with
  | zero => cases s <;> simp [advance]
  | succ i ih =>
    rw [Function.iterate_succ_apply', ih, draw_snd]
    cases s with
    | script r c => simp only [advance, List.drop_drop, Nat.mul_succ]
    | keystream k j => simp only [advance, Nat.mul_succ, Nat.add_assoc]

/-- A script with bytes enough gives the next of them. -/
theorem exists_draw_script {r : Bytes} {n : ℕ} (h : n ≤ r.length) (c : String) :
    ∃ b, ((script r c).draw n).1 = .ok b ∧ b.toBytes = r.take n := by
  have hlen : (r.take n).length = n := List.length_take_of_le h
  exact ⟨⟨r.take n, hlen⟩, by simp [draw, Octets.ofBytes?, h], rfl⟩

theorem draw_script_of_lt {r : Bytes} {n : ℕ} (h : r.length < n) (c : String) :
    ((script r c).draw n).1 = .error c := by
  have hnone : Octets.ofBytes? n (r.take n) = none := by
    rw [Octets.ofBytes?_eq_none_iff, List.length_take]
    omega
  simp only [draw, hnone]

end Source

end Ed25519
