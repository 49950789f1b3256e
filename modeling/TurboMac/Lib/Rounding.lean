import Mathlib.Algebra.Order.Ring.Nat
import Mathlib.Tactic.Linarith

/-! # Rounding to the nearest multiple

`nearest n u` is the number of units `u` nearest to `n`, halves rounded up. An
amount given in one unit and taken to another and back need not return: both
ways round, and the second may undo the first or add to it.
-/

namespace Rounding

variable {n m p u : ℕ}

/-- The number of units nearest to `n`. -/
def nearest (n u : ℕ) : ℕ := (n + u / 2) / u

theorem nearest_mono (h : n ≤ m) (u : ℕ) : nearest n u ≤ nearest m u :=
  Nat.div_le_div_right (Nat.add_le_add_right h _)

@[simp] theorem nearest_zero (hu : 0 < u) : nearest 0 u = 0 := by
  unfold nearest
  exact Nat.div_eq_of_lt (by omega)

/-- Less than half a unit rounds to nothing. -/
theorem nearest_eq_zero_iff (hu : 0 < u) : nearest n u = 0 ↔ n + u / 2 < u := by
  unfold nearest
  rw [Nat.div_eq_zero_iff]
  omega

/-- The remainder decides which way a number is rounded. -/
theorem nearest_mul_eq (hu : 0 < u) :
    nearest n u * u = if n % u + u / 2 < u then n - n % u else n - n % u + u := by
  have hdiv : n = u * (n / u) + n % u := (Nat.div_add_mod n u).symm
  have hlt : n % u < u := Nat.mod_lt n hu
  have hsplit : nearest n u = n / u + (n % u + u / 2) / u := by
    have hadd : n + u / 2 = n % u + u / 2 + u * (n / u) := by omega
    unfold nearest
    rw [hadd, Nat.add_mul_div_left _ _ hu]
    omega
  have hcomm : n / u * u = u * (n / u) := Nat.mul_comm _ _
  split
  · rename_i hdown
    rw [hsplit, Nat.div_eq_of_lt hdown, Nat.add_zero]
    omega
  · rename_i hup
    have hone : (n % u + u / 2) / u = 1 := by
      apply Nat.div_eq_of_lt_le
      · omega
      · omega
    rw [hsplit, hone, Nat.add_mul]
    omega

theorem nearest_eq_iff (hp : 0 < p) : nearest m p = n ↔ n * p ≤ m + p / 2 ∧ m + p / 2 < n * p + p := by
  unfold nearest
  rw [Nat.div_eq_iff hp]
  constructor
  · rintro ⟨hle, hlt⟩
    have hsucc : n * p + p - 1 + 1 = n * p + p := by omega
    omega
  · rintro ⟨hle, hlt⟩
    omega

/-- To units of `u` and back to units of `p`: what was rounded down is less than
half a `p` below, what was rounded up less than half a `p` above. -/
theorem nearest_nearest_iff (hp : 0 < p) (hu : 0 < u) :
    nearest (nearest (n * p) u * u) p = n ↔
      if n * p % u + u / 2 < u then n * p % u ≤ p / 2 else u + p / 2 < n * p % u + p := by
  have hle : n * p % u ≤ n * p := Nat.mod_le _ _
  have hlt : n * p % u < u := Nat.mod_lt _ hu
  rw [nearest_eq_iff hp, nearest_mul_eq hu]
  split
  · omega
  · omega

end Rounding
