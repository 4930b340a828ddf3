/-!
# Double and add

`ladder op unit a n` combines `n` copies of `a` by the operation `op`, in about `2 * log₂ n`
applications of `op`. It serves for powers in the field and for multiples of points.

* `ladder_induction`: a relation between counts and results that holds of `unit` at `0` and of `a`
  at `1`, and that `op` carries from `m` and `n` to `m + n`, holds of `ladder op unit a n` at `n`.
-/

namespace Ed25519

variable {α : Type}

/-- As many copies of `a` as the `k` low bits of `n` say, combined. -/
@[specialize] def ladderBits (op : α → α → α) (unit a : α) : (k n : Nat) → α
  | 0, _ => unit
  | k + 1, n =>
    let h := ladderBits op unit a k (n / 2)
    let t := op h h
    if n % 2 = 1 then op t a else t

/-- `n` copies of `a`, combined. -/
@[specialize] def ladder (op : α → α → α) (unit a : α) (n : Nat) : α :=
  ladderBits op unit a (n.log2 + 1) n

theorem ladderBits_induction {op : α → α → α} {unit a : α} {R : Nat → α → Prop}
    (zero : R 0 unit) (one : R 1 a) (add : ∀ m n x y, R m x → R n y → R (m + n) (op x y))
    (k n : Nat) : R (n % (1 <<< k)) (ladderBits op unit a k n) := by
  induction k generalizing n with
  | zero => simpa [ladderBits, Nat.mod_one] using zero
  | succ k ih =>
    have h := add _ _ _ _ (ih (n / 2)) (ih (n / 2))
    have hn : n % (1 <<< (k + 1)) = n % 2 + 2 * (n / 2 % (1 <<< k)) := by
      simp only [Nat.one_shiftLeft, Nat.pow_succ]
      rw [Nat.mul_comm, Nat.mod_mul]
    simp only [ladderBits]
    split
    next h1 =>
      have := add _ _ _ _ h one
      rwa [show n / 2 % (1 <<< k) + n / 2 % (1 <<< k) + 1 = n % (1 <<< (k + 1)) by omega] at this
    next h1 =>
      rwa [show n / 2 % (1 <<< k) + n / 2 % (1 <<< k) = n % (1 <<< (k + 1)) by omega] at h

theorem ladder_induction {op : α → α → α} {unit a : α} {R : Nat → α → Prop}
    (zero : R 0 unit) (one : R 1 a) (add : ∀ m n x y, R m x → R n y → R (m + n) (op x y))
    (n : Nat) : R n (ladder op unit a n) := by
  have h := ladderBits_induction zero one add (n.log2 + 1) n
  rwa [Nat.one_shiftLeft, Nat.mod_eq_of_lt Nat.lt_log2_self] at h

end Ed25519
