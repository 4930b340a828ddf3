import Ed25519.Curve.Field
import Ed25519.Curve.Scalar
import Mathlib.NumberTheory.LucasPrimality
import Mathlib.Data.List.Prime
import Mathlib.Tactic.NormNum.Prime

/-!
# The two primes

The order of the field and the order of the base point are prime (`prime_fieldOrder`,
`prime_groupOrder`). A number `p` is prime when some `a` has order `p - 1` modulo `p`, and whether
it has that order can be read off the prime factors of `p - 1`. A chain of such steps starts from
primes that are known (`certify`), so that a single evaluation of the chain proves all its numbers
prime.
-/

namespace Ed25519

/-! ## Powers modulo a number -/

/-- `a ^ n` modulo `p`, by squaring. -/
def powMod (p a n : ℕ) : ℕ := ladder (fun x y => x * y % p) (1 % p) (a % p) n

theorem powMod_eq (p a n : ℕ) : powMod p a n = a ^ n % p := by
  refine ladder_induction (R := fun n x => x = a ^ n % p) (by simp) (by simp) ?_ n
  rintro m n x y rfl rfl
  rw [pow_add, ← Nat.mul_mod]

theorem powMod_eq_one_iff {p : ℕ} (hp : 1 < p) (a n : ℕ) :
    powMod p a n = 1 ↔ (a : ZMod p) ^ n = 1 := by
  have h := ZMod.natCast_eq_natCast_iff' (a ^ n) 1 p
  rw [Nat.mod_eq_of_lt hp, ← powMod_eq] at h
  rw [← h, Nat.cast_pow, Nat.cast_one]

/-! ## Chains of primes -/

/-- A number whose predecessor is the product of `factors`, and a residue that is said to have that
predecessor for its order. -/
structure PrimeStep where
  number : ℕ
  residue : ℕ
  factors : List ℕ

namespace PrimeStep

/-- The test of a step, the primes in `known` given. -/
def Passes (known : List ℕ) (s : PrimeStep) : Prop :=
  1 < s.number ∧ (∀ q ∈ s.factors, q ∈ known) ∧ s.factors.prod = s.number - 1 ∧
    powMod s.number s.residue (s.number - 1) = 1 ∧
    ∀ q ∈ s.factors, powMod s.number s.residue ((s.number - 1) / q) ≠ 1

instance (known : List ℕ) (s : PrimeStep) : Decidable (s.Passes known) :=
  inferInstanceAs (Decidable (_ ∧ _))

/-- The order of the residue is the predecessor of the number, so the number is prime. -/
theorem Passes.prime {known : List ℕ} {s : PrimeStep} (hk : ∀ q ∈ known, q.Prime)
    (h : s.Passes known) : s.number.Prime := by
  obtain ⟨hlt, hmem, hprod, hone, hne⟩ := h
  refine lucas_primality s.number (s.residue : ZMod s.number) ?_ fun q hq hdvd => ?_
  · exact (powMod_eq_one_iff hlt _ _).1 hone
  · have hqs : q ∈ s.factors :=
      mem_list_primes_of_dvd_prod hq.prime (fun r hr => (hk r (hmem r hr)).prime) (hprod ▸ hdvd)
    rw [ne_eq, ← powMod_eq_one_iff hlt]
    exact hne q hqs

end PrimeStep

/-- The known primes, with the numbers of the steps that pass their tests in order. -/
def certify (known : List ℕ) : List PrimeStep → List ℕ
  | [] => known
  | s :: r => certify (if s.Passes known then s.number :: known else known) r

theorem prime_of_mem_certify {known : List ℕ} (hk : ∀ q ∈ known, q.Prime)
    (steps : List PrimeStep) : ∀ p ∈ certify known steps, p.Prime := by
  induction steps generalizing known with
  | nil => exact hk
  | cons s r ih =>
    refine ih fun q hq => ?_
    split at hq
    next hs =>
      rcases List.mem_cons.1 hq with rfl | hq
      · exact hs.prime hk
      · exact hk q hq
    next => exact hk q hq

/-! ## The order of the field and the order of the base point -/

/-- The primes that the chain starts from. -/
def smallPrimes : List ℕ :=
  [2, 3, 5, 7, 11, 13, 17, 19, 23, 29, 31, 41, 43, 47, 73, 103, 107, 127, 223, 269, 307, 353, 991,
    1361, 2437, 2551, 2851, 3727, 4153, 5879, 30703, 57467, 65147, 75707, 82163, 132049, 132667,
    137849, 409477, 430751, 531581, 569003]

theorem prime_of_mem_smallPrimes : ∀ q ∈ smallPrimes, q.Prime := by
  simp only [smallPrimes, List.forall_mem_cons, List.not_mem_nil, false_imp_iff, implies_true]
  norm_num

/-- The steps from the small primes to the order of the field. -/
def fieldSteps : List PrimeStep :=
  [⟨1923133, 2, [2, 2, 3, 43, 3727]⟩,
    ⟨31757755568855353, 10, [2, 2, 2, 3, 31, 107, 223, 4153, 430751]⟩,
    ⟨2773320623, 5, [2, 2437, 569003]⟩,
    ⟨72106336199, 7, [2, 13, 2773320623]⟩,
    ⟨8574133, 2, [2, 2, 3, 7, 103, 991]⟩,
    ⟨1919519569386763, 2, [2, 3, 7, 19, 47, 47, 127, 8574133]⟩,
    ⟨75445702479781427272750846543864801, 7,
      [2, 2, 2, 2, 2, 3, 3, 5, 5, 75707, 72106336199, 1919519569386763]⟩,
    ⟨74058212732561358302231226437062788676166966415465897661863160754340907, 2,
      [2, 3, 353, 57467, 132049, 1923133, 31757755568855353,
        75445702479781427272750846543864801]⟩,
    ⟨fieldOrder, 2,
      [2, 2, 3, 65147,
        74058212732561358302231226437062788676166966415465897661863160754340907]⟩]

/-- The steps from the small primes to the order of the base point. -/
def groupSteps : List PrimeStep :=
  [⟨14741173, 2, [2, 2, 3, 3, 409477]⟩,
    ⟨58964693, 2, [2, 2, 14741173]⟩,
    ⟨3044861653679985063343, 5, [2, 3, 11, 30703, 82163, 132667, 137849]⟩,
    ⟨198211423230930754013084525763697, 5, [2, 2, 2, 2, 3, 23, 58964693, 3044861653679985063343]⟩,
    ⟨292386187, 2, [2, 3, 3, 3, 3, 307, 5879]⟩,
    ⟨213441916511, 13, [2, 5, 73, 292386187]⟩,
    ⟨1224481, 13, [2, 2, 2, 2, 2, 3, 5, 2551]⟩,
    ⟨1257559732178653, 2, [2, 2, 3, 7, 23, 531581, 1224481]⟩,
    ⟨4434155615661930479, 17, [2, 41, 43, 1257559732178653]⟩,
    ⟨172054593956031949258510691, 2, [2, 5, 1361, 2851, 4434155615661930479]⟩,
    ⟨19757330305831588566944191468367130476339, 2,
      [2, 269, 213441916511, 172054593956031949258510691]⟩,
    ⟨276602624281642239937218680557139826668747, 2,
      [2, 7, 19757330305831588566944191468367130476339]⟩,
    ⟨groupOrder, 2,
      [2, 2, 3, 11, 198211423230930754013084525763697,
        276602624281642239937218680557139826668747]⟩]

theorem prime_fieldOrder : fieldOrder.Prime :=
  prime_of_mem_certify prime_of_mem_smallPrimes fieldSteps _ (by decide +kernel)

theorem prime_groupOrder : groupOrder.Prime :=
  prime_of_mem_certify prime_of_mem_smallPrimes groupSteps _ (by decide +kernel)

instance : Fact fieldOrder.Prime := ⟨prime_fieldOrder⟩

end Ed25519
