/-!
# Shortest decimals

A positive floating-point number is `significand * 2 ^ exponent`. Between its two neighbours lies the
interval of the reals that round to it, ends included when the significand is even. Its shortest
decimal is the point of the coarsest grid of multiples of a power of ten that meets this interval;
of two such points it is the nearer, and of two equally near the even one.
-/

namespace Ed25519.Decimal

/-- The number `significand * 2 ^ exponent`. -/
structure Binary where
  significand : Nat
  exponent : Int

/-- The magnitude of a finite floating-point number with 64 bits. -/
def Binary.ofFloat (x : Float) : Binary :=
  let e : Nat := ((x.toBits >>> 52) &&& 0x7ff).toNat
  let f : Nat := (x.toBits &&& 0xfffffffffffff).toNat
  if e = 0 then ⟨f, -1074⟩ else ⟨(1 <<< 52) + f, e - 1075⟩

/-- The number `value * 10 ^ exponent`. -/
structure Digits where
  value : Nat
  exponent : Int

/-- The point of the grid `10 ^ e` that stands for a number, if one does. Everything is counted in
units in which quarters of the number's last binary place and steps of the grid are whole. -/
def onGrid? (b : Binary) (e : Int) : Option Digits :=
  let quarter := Nat.pow 10 (-e).toNat <<< (b.exponent - 2).toNat
  let step := Nat.pow 10 e.toNat <<< (2 - b.exponent).toNat
  let value := 4 * b.significand * quarter
  let below := if b.significand = 1 <<< 52 ∧ -1074 < b.exponent then quarter else 2 * quarter
  let low := value - below
  let high := value + 2 * quarter
  let inside (n : Nat) : Bool :=
    if b.significand % 2 = 0 then low ≤ n * step ∧ n * step ≤ high
    else low < n * step ∧ n * step < high
  let n := value / step
  let lower := value - n * step
  let upper := (n + 1) * step - value
  match inside n, inside (n + 1) with
  | true, true =>
    if lower < upper ∨ lower = upper ∧ n % 2 = 0 then some ⟨n, e⟩ else some ⟨n + 1, e⟩
  | true, false => some ⟨n, e⟩
  | false, true => some ⟨n + 1, e⟩
  | false, false => none

/-- The point of the first of the grids `10 ^ e`, `10 ^ (e - 1)`, … that has one for the number. -/
def search (b : Binary) : (grids : Nat) → (e : Int) → Digits
  | 0, e => ⟨0, e⟩
  | n + 1, e => (onGrid? b e).getD (search b n (e - 1))

/-- The shortest decimal of a positive number. The grids between `10 ^ 309` and `10 ^ -324` suffice
for every floating-point number with 64 bits. -/
def shortest (b : Binary) : Digits := search b 634 309

end Ed25519.Decimal
