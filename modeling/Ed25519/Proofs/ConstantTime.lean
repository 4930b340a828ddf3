import Ed25519.ConstantTime
import Ed25519.Key.Private
import Ed25519.Proofs.Bytes

/-!
# Comparison in constant time decides equality

The comparison of bytes, the conjunction over their positions and the choice are the truth values of
equations, as the bytes `1` and `0` (`ConstantTime.equalByte_eq`, `ConstantTime.foldl_equalByte`,
`ConstantTime.choice_eq`). In terms of positions, the choice looks at all of them
(`ConstantTime.choice_eq_ite`). So the comparison of private keys is lawful: it finds keys equal when
they are the same.
-/

namespace Ed25519

namespace ConstantTime

/-! ## Truth values as bytes -/

theorem toUInt8_and (a b : Bool) : a.toUInt8 &&& b.toUInt8 = (a && b).toUInt8 := by
  cases a <;> cases b <;> rfl

theorem toUInt8_eq_one_iff {a : Bool} : a.toUInt8 = 1 ↔ a = true := by
  cases a <;> decide

/-! ## Bytes -/

/-- The top bit of a byte or of its negative is clear only for zero. -/
theorem topBit_eq : ∀ d : UInt8, ((d ||| (0 - d)) >>> 7) ^^^ 1 = (d == 0).toUInt8 :=
  Bytes.forall_byte (by decide +kernel)

theorem equalByte_eq (x y : UInt8) : equalByte x y = (x == y).toUInt8 := by
  rw [equalByte, topBit_eq]
  congr 1
  rw [Bool.eq_iff_iff, beq_iff_eq, beq_iff_eq]
  exact UInt8.xor_eq_zero_iff

/-! ## Byte strings -/

/-- The accumulator says whether all positions so far were equal. -/
theorem foldl_equalByte {a b : Bytes} (h : a.length = b.length) (c : Bool) :
    (a.zip b).foldl (fun acc xy => acc &&& equalByte xy.1 xy.2) c.toUInt8 =
      (c && a == b).toUInt8 := by
  induction a generalizing b c with
  | nil =>
    cases b with
    | nil => simp
    | cons y s => cases h
  | cons x r ih =>
    cases b with
    | nil => cases h
    | cons y s =>
      have hlen : r.length = s.length := Nat.succ.inj h
      rw [List.zip_cons_cons, List.foldl_cons, equalByte_eq, toUInt8_and, ih hlen,
        List.cons_beq_cons, Bool.and_assoc]

/-- **The choice is the truth value of the equation.** -/
theorem choice_eq (a b : Bytes) : choice a b = (a == b).toUInt8 := by
  rw [choice]
  split
  next h =>
    rw [accumulate]
    exact foldl_equalByte h true
  next h =>
    have hne : a ≠ b := fun hab => h (congrArg List.length hab)
    rw [beq_eq_false_iff_ne.2 hne]
    rfl

theorem equal_iff_choice_eq_one {a b : Bytes} : equal a b = true ↔ choice a b = 1 :=
  decide_eq_true_iff

theorem equal_iff {a b : Bytes} : equal a b = true ↔ a = b := by
  rw [equal_iff_choice_eq_one, choice_eq, toUInt8_eq_one_iff, beq_iff_eq]

/-! ## Positions -/

theorem eq_iff_forall_getElem? {a b : Bytes} :
    a = b ↔ a.length = b.length ∧ ∀ i < a.length, a[i]? = b[i]? := by
  constructor
  · rintro rfl
    exact ⟨rfl, fun _ _ => rfl⟩
  · rintro ⟨hlen, h⟩
    refine List.ext_getElem hlen fun i hi hi' => ?_
    have hbyte := h i hi
    rw [List.getElem?_eq_getElem hi, List.getElem?_eq_getElem hi'] at hbyte
    exact Option.some.inj hbyte

/-- **The choice is `1` for byte strings of one length with the same byte at every position**, and
`0` for all others. -/
theorem choice_eq_ite (a b : Bytes) :
    choice a b = if a.length = b.length ∧ ∀ i < a.length, a[i]? = b[i]? then 1 else 0 := by
  rw [choice_eq]
  split
  next h =>
    rw [eq_iff_forall_getElem?.2 h, beq_self_eq_true]
    rfl
  next h =>
    rw [beq_eq_false_iff_ne.2 (mt eq_iff_forall_getElem?.1 h)]
    rfl

end ConstantTime

namespace PrivateKey

theorem toBytes_injective : Function.Injective toBytes := by
  intro k k' h
  have hk := ofBytes_toBytes k
  rw [h, ofBytes_toBytes] at hk
  exact (Except.ok.inj hk).symm

/-- The comparison of private keys decides whether they are the same. -/
instance : LawfulBEq PrivateKey where
  eq_of_beq h := toBytes_injective (ConstantTime.equal_iff.1 h)
  rfl := ConstantTime.equal_iff.2 rfl

end PrivateKey

end Ed25519
