/-!
# Scalars

Multiples of the base point are counted modulo `groupOrder`. Secret scalars are clamped: multiples
of the cofactor `8` with the 255th bit as their highest.
-/

namespace Ed25519

/-- The order of the base point, a prime. -/
def groupOrder : Nat := (1 <<< 252) + 27742317777372353535851937790883648493

/-- The number `n` with its three low bits cleared, and with bit 254 as its highest. -/
def clamp (n : Nat) : Nat := (1 <<< 254) + 8 * (n % (1 <<< 254) / 8)

theorem clamp_mod_eight (n : Nat) : clamp n % 8 = 0 := by
  simp only [clamp, Nat.one_shiftLeft]
  omega

theorem le_clamp (n : Nat) : 1 <<< 254 ≤ clamp n := Nat.le_add_right _ _

theorem clamp_lt (n : Nat) : clamp n < 1 <<< 255 := by
  simp only [clamp, Nat.one_shiftLeft]
  omega

end Ed25519
