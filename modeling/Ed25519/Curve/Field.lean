import Ed25519.Curve.Ladder

/-!
# The field of order `2 ^ 255 - 19`

Field elements are numbers below `fieldOrder`, so equality of field elements is equality of
numbers. `FieldElement.sqrtRatio?` computes a square root of a quotient where there is one.
-/

namespace Ed25519

/-- The order of the field, `2 ^ 255 - 19`: a prime that is `5` modulo `8`. -/
def fieldOrder : Nat := (1 <<< 255) - 19

theorem fieldOrder_pos : 0 < fieldOrder := by decide

/-- An integer modulo `fieldOrder`, by its least representative. -/
structure FieldElement where
  val : Nat
  isLt : val < fieldOrder
  deriving DecidableEq

namespace FieldElement

theorem ext {a b : FieldElement} (h : a.val = b.val) : a = b := by
  cases a; cases b; cases h; rfl

/-- The residue of `n`. -/
def ofNat (n : Nat) : FieldElement := ⟨n % fieldOrder, Nat.mod_lt n fieldOrder_pos⟩

@[simp] theorem ofNat_val (a : FieldElement) : ofNat a.val = a := ext (Nat.mod_eq_of_lt a.isLt)

instance : Zero FieldElement := ⟨ofNat 0⟩
instance : One FieldElement := ⟨ofNat 1⟩
instance : Add FieldElement := ⟨fun a b => ofNat (a.val + b.val)⟩
instance : Neg FieldElement := ⟨fun a => ofNat (fieldOrder - a.val)⟩
instance : Sub FieldElement := ⟨fun a b => ofNat (a.val + (fieldOrder - b.val))⟩
instance : Mul FieldElement := ⟨fun a b => ofNat (a.val * b.val)⟩

@[simp] theorem val_ofNat (n : Nat) : (ofNat n).val = n % fieldOrder := rfl
@[simp] theorem val_zero : (0 : FieldElement).val = 0 := rfl
@[simp] theorem val_one : (1 : FieldElement).val = 1 := rfl
@[simp] theorem val_add (a b : FieldElement) : (a + b).val = (a.val + b.val) % fieldOrder := rfl
@[simp] theorem val_neg (a : FieldElement) : (-a).val = (fieldOrder - a.val) % fieldOrder := rfl
@[simp] theorem val_sub (a b : FieldElement) :
    (a - b).val = (a.val + (fieldOrder - b.val)) % fieldOrder := rfl
@[simp] theorem val_mul (a b : FieldElement) : (a * b).val = a.val * b.val % fieldOrder := rfl

/-- Powers, by squaring. -/
def pow (a : FieldElement) (n : Nat) : FieldElement := ladder (· * ·) 1 a n

instance : Pow FieldElement Nat := ⟨pow⟩

/-- The inverse, by Fermat's little theorem; that of zero is zero. -/
def inv (a : FieldElement) : FieldElement := a ^ (fieldOrder - 2)

instance : Div FieldElement := ⟨fun a b => a * b.inv⟩

/-- A square root of `-1`. -/
def sqrtMinusOne : FieldElement :=
  ofNat 19681161376707505956807079304988542015446066515923890162744021073123829784752

/-- A square root of `u / v`, if there is one. With `p` the order of the field, the product
`r = u v³ (u v⁷) ^ ((p - 5) / 8)` has `v r² = u` or `v r² = -u` whenever `u / v` is a square; in the
second case `r` times a square root of `-1` is the root sought. -/
def sqrtRatio? (u v : FieldElement) : Option FieldElement :=
  let v3 := v * v * v
  let r := u * v3 * (u * v3 * v3 * v) ^ ((fieldOrder - 5) / 8)
  let w := v * (r * r)
  if w = u then some r
  else if w = -u then some (r * sqrtMinusOne)
  else none

/-- The parity of the least representative: the sign by which an encoding tells `x` from `-x`. -/
def parity (a : FieldElement) : Nat := a.val % 2

end FieldElement

end Ed25519
