import Ed25519.Proofs.Bytes
import Mathlib.Data.Nat.ModEq

/-!
# The bits of a byte string

The bits of a byte string are counted from the least significant one of its first byte (`Bytes.bit`).
A byte string is told by its length and its bits (`Bytes.ext_bit`), so that one equation between bits
says all there is to say of an inverted bit: the bit that the index comes to, wrapped around at the
end, is the other one, and every other bit stays (`Bytes.bit_invertBit`). From it follow the laws of
inverted bits, which `Bytes.inverts_one_bit` collects.
-/

namespace Ed25519

namespace Bytes

/-! ## Bits -/

/-- Bit `k` of a byte string. No bit is set beyond its end. -/
def bit (b : Bytes) (k : ℕ) : Bool := (b.getD (k / 8) 0).toNat.testBit (k % 8)

/-- A byte is told by its eight bits. -/
theorem byte_ext {x y : UInt8} (h : ∀ j < 8, x.toNat.testBit j = y.toNat.testBit j) : x = y := by
  refine UInt8.toNat_inj.1 (Nat.eq_of_testBit_eq fun j => ?_)
  by_cases hj : j < 8
  · exact h j hj
  · have hpow : 2 ^ 8 ≤ 2 ^ j := Nat.pow_le_pow_right (by decide) (Nat.le_of_not_lt hj)
    rw [Nat.testBit_lt_two_pow (Nat.lt_of_lt_of_le x.toNat_lt hpow),
      Nat.testBit_lt_two_pow (Nat.lt_of_lt_of_le y.toNat_lt hpow)]

theorem bit_eq_testBit_getElem {b : Bytes} {k : ℕ} (hk : k / 8 < b.length) :
    b.bit k = b[k / 8].toNat.testBit (k % 8) := by
  rw [bit, List.getD_eq_getElem?_getD, List.getElem?_eq_getElem hk, Option.getD_some]

theorem ext_bit {b b' : Bytes} (hlen : b.length = b'.length)
    (h : ∀ k < 8 * b.length, b.bit k = b'.bit k) : b = b' := by
  refine List.ext_getElem hlen fun n hn hn' => byte_ext fun j hj => ?_
  have hdiv : (8 * n + j) / 8 = n := by omega
  have hmod : (8 * n + j) % 8 = j := by omega
  have hbit := h (8 * n + j) (by omega)
  rw [bit_eq_testBit_getElem (by omega), bit_eq_testBit_getElem (by omega)] at hbit
  simpa only [hdiv, hmod] using hbit

/-! ## One inverted bit -/

theorem toNat_one_shiftLeft {j : ℕ} (hj : j < 8) :
    ((1 : UInt8) <<< UInt8.ofNat j).toNat = 2 ^ j := by
  have hall : ∀ j < 8, ((1 : UInt8) <<< UInt8.ofNat j).toNat = 2 ^ j := by decide
  exact hall j hj

theorem testBit_xor_one_shiftLeft (x : UInt8) {i : ℕ} (hi : i < 8) (j : ℕ) :
    (x ^^^ (1 <<< UInt8.ofNat i)).toNat.testBit j = (x.toNat.testBit j ^^ decide (i = j)) := by
  rw [UInt8.toNat_xor, Nat.testBit_xor, toNat_one_shiftLeft hi, Nat.testBit_two_pow]

/-- **The inverted bit is the other one, and every other bit stays.** -/
theorem bit_invertBit (b : Bytes) (i : ℕ) {k : ℕ} (hk : k < 8 * b.length) :
    (b.invertBit i).bit k = (b.bit k ^^ decide (i % (8 * b.length) = k)) := by
  have hbyte : k / 8 < b.length := by omega
  rw [bit_eq_testBit_getElem (by simpa using hbyte), bit_eq_testBit_getElem hbyte]
  simp only [invertBit, List.getElem_modify]
  split
  next hsame =>
    rw [testBit_xor_one_shiftLeft _ (Nat.mod_lt _ (by decide))]
    congr 2
    exact propext (by omega)
  next hother =>
    have hne : i % (8 * b.length) ≠ k := fun h => hother (congrArg (· / 8) h)
    rw [decide_eq_false hne, Bool.xor_false]

/-- Bit 9 is the second one of the second byte. -/
example : invertBit [0, 0] 9 = [0, 2] := by decide

variable {b : Bytes}

/-- The index, wrapped around, is that of a bit. -/
theorem mod_lt_of_ne_nil (hb : b ≠ []) (i : ℕ) : i % (8 * b.length) < 8 * b.length :=
  Nat.mod_lt i (Nat.mul_pos (by decide) (List.length_pos_iff.2 hb))

theorem bit_invertBit_ne_iff (b : Bytes) (i : ℕ) {k : ℕ} (hk : k < 8 * b.length) :
    (b.invertBit i).bit k ≠ b.bit k ↔ k = i % (8 * b.length) := by
  rw [bit_invertBit b i hk, eq_comm (a := k)]
  cases b.bit k <;> simp

theorem invertBit_ne_self (hb : b ≠ []) (i : ℕ) : b.invertBit i ≠ b := by
  intro h
  exact (bit_invertBit_ne_iff b i (mod_lt_of_ne_nil hb i)).2 rfl (by rw [h])

theorem take_invertBit {n i : ℕ} (hi : 8 * n ≤ i % (8 * b.length)) :
    (b.invertBit i).take n = b.take n := by
  refine List.ext_getElem? fun j => ?_
  rw [invertBit, List.getElem?_take, List.getElem?_take]
  split
  · rw [List.getElem?_modify_ne _ _ (by omega)]
  · rfl

/-! ## Two inverted bits -/

theorem bit_invertBit_invertBit (b : Bytes) (i j : ℕ) {k : ℕ} (hk : k < 8 * b.length) :
    ((b.invertBit i).invertBit j).bit k =
      (b.bit k ^^ decide (i % (8 * b.length) = k) ^^ decide (j % (8 * b.length) = k)) := by
  rw [bit_invertBit _ j (by simpa using hk), length_invertBit, bit_invertBit b i hk]

theorem invertBit_invertBit_self (b : Bytes) (i : ℕ) : (b.invertBit i).invertBit i = b := by
  refine ext_bit (by simp) fun k hk => ?_
  rw [length_invertBit, length_invertBit] at hk
  rw [bit_invertBit_invertBit b i i hk, Bool.xor_assoc, Bool.xor_self, Bool.xor_false]

theorem invertBit_comm (b : Bytes) (i j : ℕ) :
    (b.invertBit i).invertBit j = (b.invertBit j).invertBit i := by
  refine ext_bit (by simp) fun k hk => ?_
  rw [length_invertBit, length_invertBit] at hk
  rw [bit_invertBit_invertBit b i j hk, bit_invertBit_invertBit b j i hk, Bool.xor_right_comm]

theorem invertBit_eq_invertBit_iff (hb : b ≠ []) {i j : ℕ} :
    b.invertBit i = b.invertBit j ↔ i ≡ j [MOD 8 * b.length] := by
  constructor
  · intro h
    have hlt := mod_lt_of_ne_nil hb i
    have hne := (bit_invertBit_ne_iff b i hlt).2 rfl
    rw [h] at hne
    exact (bit_invertBit_ne_iff b j hlt).1 hne
  · intro h
    rw [invertBit, h, ← invertBit]

/-- **One bit is inverted.** The length stays, and so does the empty string. In any other, the index
is taken modulo the number of bits, that bit is changed and no other is, and only indices that agree
modulo that number have one outcome. To invert a bit again undoes it, and the order of two inversions
does not matter. -/
theorem inverts_one_bit (b : Bytes) (i j : ℕ) :
    (b.invertBit i).length = b.length ∧
    (b = [] → b.invertBit i = b) ∧
    (b ≠ [] →
      i % (8 * b.length) < 8 * b.length ∧
      (∀ k < 8 * b.length, (b.invertBit i).bit k ≠ b.bit k ↔ k = i % (8 * b.length)) ∧
      b.invertBit i ≠ b ∧
      (b.invertBit i = b.invertBit j ↔ i ≡ j [MOD 8 * b.length])) ∧
    (b.invertBit i).invertBit i = b ∧
    (b.invertBit i).invertBit j = (b.invertBit j).invertBit i := by
  refine ⟨length_invertBit b i, ?_, fun hb => ?_, invertBit_invertBit_self b i,
    invertBit_comm b i j⟩
  · rintro rfl
    exact List.eq_nil_of_length_eq_zero (length_invertBit [] i)
  · exact ⟨mod_lt_of_ne_nil hb i, fun k hk => bit_invertBit_ne_iff b i hk, invertBit_ne_self hb i,
      invertBit_eq_invertBit_iff hb⟩

/-- Of two bytes, bits 9 and 25 are the same one. -/
theorem inverts_one_bit_wrapped :
    ([0, 0] : Bytes) ≠ [] ∧ invertBit [0, 0] 9 ≠ [0, 0] ∧ invertBit [0, 0] 9 = invertBit [0, 0] 25 := by
  have hb : ([0, 0] : Bytes) ≠ [] := by decide
  obtain ⟨-, -, hne, hiff⟩ := (inverts_one_bit [0, 0] 9 25).2.2.1 hb
  exact ⟨hb, hne, hiff.2 (by decide)⟩

end Bytes

end Ed25519
