import Ed25519.Proofs.Field.Prime
import Mathlib.FieldTheory.Finite.Basic

/-!
# The residues form a field

`FieldElement.toZMod` sends a residue to its class. It is injective and carries the operations on
residues to those of the field of order `fieldOrder`, so the residues form a field with the
operations that they have; powers and inverses are those computed by squaring.
-/

namespace Ed25519.FieldElement

/-! ## Classes of residues -/

/-- The class of a residue. -/
def toZMod (a : FieldElement) : ZMod fieldOrder := a.val

theorem toZMod_ofNat (n : ℕ) : (ofNat n).toZMod = n := ZMod.natCast_mod n fieldOrder

theorem toZMod_injective : Function.Injective toZMod := by
  intro a b h
  have h' := (ZMod.natCast_eq_natCast_iff' a.val b.val fieldOrder).1 h
  rw [Nat.mod_eq_of_lt a.isLt, Nat.mod_eq_of_lt b.isLt] at h'
  exact ext h'

theorem toZMod_zero : (0 : FieldElement).toZMod = 0 := (toZMod_ofNat 0).trans Nat.cast_zero

theorem toZMod_one : (1 : FieldElement).toZMod = 1 := (toZMod_ofNat 1).trans Nat.cast_one

theorem toZMod_add (a b : FieldElement) : (a + b).toZMod = a.toZMod + b.toZMod :=
  (toZMod_ofNat _).trans (Nat.cast_add a.val b.val)

theorem toZMod_mul (a b : FieldElement) : (a * b).toZMod = a.toZMod * b.toZMod :=
  (toZMod_ofNat _).trans (Nat.cast_mul a.val b.val)

theorem natCast_fieldOrder_sub (a : FieldElement) :
    ((fieldOrder - a.val : ℕ) : ZMod fieldOrder) = -a.toZMod := by
  rw [Nat.cast_sub a.isLt.le, ZMod.natCast_self, zero_sub, toZMod]

theorem toZMod_neg (a : FieldElement) : (-a).toZMod = -a.toZMod :=
  (toZMod_ofNat _).trans (natCast_fieldOrder_sub a)

theorem toZMod_sub (a b : FieldElement) : (a - b).toZMod = a.toZMod - b.toZMod := by
  refine (toZMod_ofNat _).trans ?_
  rw [Nat.cast_add, natCast_fieldOrder_sub, ← sub_eq_add_neg]
  rfl

theorem toZMod_pow (a : FieldElement) (n : ℕ) : (a ^ n).toZMod = a.toZMod ^ n := by
  refine ladder_induction (R := fun k (x : FieldElement) => x.toZMod = a.toZMod ^ k)
    ?_ ?_ ?_ n
  · rw [toZMod_one, pow_zero]
  · rw [pow_one]
  · rintro m n x y hx hy
    rw [toZMod_mul, hx, hy, pow_add]

/-! ## The field -/

instance : CommRing FieldElement where
  add_assoc a b c := toZMod_injective (by simp only [toZMod_add, add_assoc])
  zero_add a := toZMod_injective (by simp only [toZMod_add, toZMod_zero, zero_add])
  add_zero a := toZMod_injective (by simp only [toZMod_add, toZMod_zero, add_zero])
  add_comm a b := toZMod_injective (by simp only [toZMod_add, add_comm])
  neg_add_cancel a := toZMod_injective (by
    simp only [toZMod_add, toZMod_neg, toZMod_zero, neg_add_cancel])
  sub_eq_add_neg a b := toZMod_injective (by
    simp only [toZMod_sub, toZMod_add, toZMod_neg, sub_eq_add_neg])
  mul_assoc a b c := toZMod_injective (by simp only [toZMod_mul, mul_assoc])
  mul_comm a b := toZMod_injective (by simp only [toZMod_mul, mul_comm])
  one_mul a := toZMod_injective (by simp only [toZMod_mul, toZMod_one, one_mul])
  mul_one a := toZMod_injective (by simp only [toZMod_mul, toZMod_one, mul_one])
  zero_mul a := toZMod_injective (by simp only [toZMod_mul, toZMod_zero, zero_mul])
  mul_zero a := toZMod_injective (by simp only [toZMod_mul, toZMod_zero, mul_zero])
  left_distrib a b c := toZMod_injective (by simp only [toZMod_mul, toZMod_add, left_distrib])
  right_distrib a b c := toZMod_injective (by simp only [toZMod_mul, toZMod_add, right_distrib])
  nsmul := nsmulRec
  zsmul := zsmulRec
  npow n a := a ^ n
  npow_zero a := toZMod_injective (by rw [toZMod_pow, toZMod_one, pow_zero])
  npow_succ n a := toZMod_injective (by rw [toZMod_mul, toZMod_pow, toZMod_pow, pow_succ])
  natCast := ofNat
  natCast_zero := rfl
  natCast_succ n := toZMod_injective (by
    rw [toZMod_add, toZMod_ofNat, toZMod_ofNat, toZMod_one, Nat.cast_succ])

theorem toZMod_eq_zero_iff {a : FieldElement} : a.toZMod = 0 ↔ a = 0 := by
  rw [← toZMod_zero, toZMod_injective.eq_iff]

/-- Fermat's little theorem. -/
theorem pow_fieldOrder_sub_one {a : FieldElement} (ha : a ≠ 0) : a ^ (fieldOrder - 1) = 1 := by
  refine toZMod_injective ?_
  rw [toZMod_pow, toZMod_one]
  exact ZMod.pow_card_sub_one_eq_one (mt toZMod_eq_zero_iff.1 ha)

instance : Inv FieldElement := ⟨inv⟩

instance : Field FieldElement where
  exists_pair_ne := ⟨0, 1, by decide⟩
  mul_inv_cancel a ha := by
    show a * a ^ (fieldOrder - 2) = 1
    rw [← pow_succ']
    exact pow_fieldOrder_sub_one ha
  inv_zero := by
    show (0 : FieldElement) ^ (fieldOrder - 2) = 0
    exact zero_pow (by decide)
  nnqsmul := _
  qsmul := _

end Ed25519.FieldElement
