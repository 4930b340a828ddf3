import Ed25519.Bytes
import Mathlib.Tactic.Ring

/-!
# Byte strings as numbers and as texts

A byte string of length `n` is a number below `256 ^ n` (`Octets.toNat_ofNat`,
`Octets.toNat_injective`). A text is told by its bytes in UTF-8 (`Bytes.ofString_injective`).
-/

namespace Ed25519

namespace Bytes

/-! ## Numbers -/

/-- What holds of the bytes of all numbers below 256 holds of every byte. -/
theorem forall_byte {p : UInt8 → Prop} (h : ∀ n < 256, p (UInt8.ofNat n)) (b : UInt8) : p b := by
  have hb := h b.toNat b.toNat_lt
  rwa [UInt8.ofNat_toNat] at hb

theorem toNatLE_lt (b : Bytes) : b.toNatLE < 256 ^ b.length := by
  induction b with
  | nil => exact Nat.one_pos
  | cons x r ih =>
    have hx := x.toNat_lt
    rw [toNatLE, List.length_cons, pow_succ]
    omega

theorem toNatLE_ofNatLE (n k : ℕ) : (ofNatLE n k).toNatLE = k % 256 ^ n := by
  induction n generalizing k with
  | zero => rw [pow_zero, Nat.mod_one]; rfl
  | succ n ih =>
    rw [ofNatLE, toNatLE, ih, pow_succ', Nat.mod_mul]
    rfl

/-- The bytes of a number are its digits, so byte strings of one length are told apart by their
numbers. -/
theorem ofNatLE_toNatLE (b : Bytes) : ofNatLE b.length b.toNatLE = b := by
  induction b with
  | nil => rfl
  | cons x r ih =>
    have hx := x.toNat_lt
    have hdiv : (x.toNat + 256 * toNatLE r) / 256 = toNatLE r := by omega
    rw [List.length_cons, ofNatLE, toNatLE, hdiv, ih]
    congr 1
    refine UInt8.toNat_inj.1 ?_
    rw [UInt8.toNat_ofNat']
    omega

/-! ## Texts in UTF-8 -/

theorem toByteArray_ofString (s : String) : (ofString s).toByteArray = s.toByteArray := by
  conv_rhs => rw [← String.ofList_toList (s := s), String.toByteArray_ofList]
  rfl

theorem ofString_injective : Function.Injective ofString := by
  intro s t h
  rw [← String.toByteArray_inj, ← toByteArray_ofString, ← toByteArray_ofString, h]

theorem utf8EncodeChar_of_lt {c : Char} (h : c.toNat < 128) :
    String.utf8EncodeChar c = [UInt8.ofNat c.toNat] := by
  have hle : c.val.toNat ≤ 0x7f := Nat.le_of_lt_succ h
  rw [String.utf8EncodeChar]
  exact if_pos hle

/-- The bytes of a text in ASCII are the codes of its characters. -/
theorem ofString_ofList_of_lt {cs : List Char} (h : ∀ c ∈ cs, c.toNat < 128) :
    ofString (String.ofList cs) = cs.map fun c => UInt8.ofNat c.toNat := by
  rw [ofString, String.toList_ofList]
  induction cs with
  | nil => rfl
  | cons c cs ih =>
    obtain ⟨hc, hcs⟩ := List.forall_mem_cons.1 h
    rw [List.flatMap_cons, utf8EncodeChar_of_lt hc, ih hcs]
    rfl

end Bytes

namespace Octets

theorem toNat_ofNat (n k : ℕ) : (ofNat n k).toNat = k % 256 ^ n := Bytes.toNatLE_ofNatLE n k

theorem toNat_lt {n : ℕ} (a : Octets n) : a.toNat < 256 ^ n := by
  have h := Bytes.toNatLE_lt a.toBytes
  rwa [a.length_eq] at h

@[simp] theorem ofNat_toNat {n : ℕ} (a : Octets n) : ofNat n a.toNat = a := by
  refine ext ?_
  have h := Bytes.ofNatLE_toNatLE a.toBytes
  rwa [a.length_eq] at h

theorem toNat_injective {n : ℕ} : Function.Injective (toNat : Octets n → ℕ) :=
  Function.LeftInverse.injective ofNat_toNat

end Octets

end Ed25519
