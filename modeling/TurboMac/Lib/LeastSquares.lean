import Mathlib.Algebra.BigOperators.Group.List.Basic
import Mathlib.Algebra.Order.BigOperators.Group.List
import Mathlib.Algebra.Order.Field.Basic
import Mathlib.Tactic.FieldSimp
import Mathlib.Tactic.Linarith
import Mathlib.Tactic.LinearCombination
import Mathlib.Tactic.Ring

/-! # Least squares

The line that fits some points best, from their sums. The squared error of a line is a
quadratic form in its slope and its intercept, so that the line at which both derivatives
vanish has the least.
-/

namespace LeastSquares

variable {K : Type} [Field K]

def sumX (points : List (K × K)) : K := (points.map fun p => p.1).sum
def sumY (points : List (K × K)) : K := (points.map fun p => p.2).sum
def sumXY (points : List (K × K)) : K := (points.map fun p => p.1 * p.2).sum
def sumXX (points : List (K × K)) : K := (points.map fun p => p.1 * p.1).sum

/-- The squared error of the line with this slope and intercept. -/
def squaredError (points : List (K × K)) (slope intercept : K) : K :=
  (points.map fun p => (p.2 - (slope * p.1 + intercept)) ^ 2).sum

def denominator (points : List (K × K)) : K :=
  points.length * sumXX points - sumX points * sumX points

def slope (points : List (K × K)) : K :=
  (points.length * sumXY points - sumX points * sumY points) / denominator points

def intercept (points : List (K × K)) : K :=
  (sumY points - slope points * sumX points) / points.length

theorem squaredError_eq (points : List (K × K)) (a b : K) :
    squaredError points a b = squaredError points 0 0 - 2 * a * sumXY points - 2 * b * sumY points
      + a ^ 2 * sumXX points + 2 * a * b * sumX points + b ^ 2 * points.length := by
  induction points with
  | nil => simp [squaredError, sumX, sumY, sumXY, sumXX]
  | cons p points ih =>
      simp only [squaredError, sumX, sumY, sumXY, sumXX, List.map_cons, List.sum_cons,
        List.length_cons, Nat.cast_add, Nat.cast_one] at ih ⊢
      rw [ih]
      ring

section

variable {points : List (K × K)}

/-- Both derivatives vanish at the fitted line. -/
theorem normal_equations (hlength : (points.length : K) ≠ 0) (hdet : denominator points ≠ 0) :
    slope points * sumX points + intercept points * points.length = sumY points ∧
    slope points * sumXX points + intercept points * sumX points = sumXY points := by
  have hintercept : slope points * sumX points + intercept points * points.length = sumY points := by
    unfold intercept
    field_simp
    ring
  refine ⟨hintercept, ?_⟩
  have hslope : slope points * denominator points =
      points.length * sumXY points - sumX points * sumY points := div_mul_cancel₀ _ hdet
  unfold denominator at hslope
  apply mul_left_cancel₀ hlength
  linear_combination hslope + sumX points * hintercept

end

variable [LinearOrder K] [IsStrictOrderedRing K] {points : List (K × K)}

theorem squaredError_nonneg (points : List (K × K)) (a b : K) : 0 ≤ squaredError points a b := by
  apply List.sum_nonneg
  intro x hx
  rcases List.mem_map.1 hx with ⟨p, -, rfl⟩
  exact sq_nonneg _

/-- No line fits better. -/
theorem squaredError_fit_le (hdet : denominator points ≠ 0) (a b : K) :
    squaredError points (slope points) (intercept points) ≤ squaredError points a b := by
  have hlength : (points.length : K) ≠ 0 := by
    rintro hzero
    have hnil : points = [] := List.length_eq_zero_iff.1 (Nat.cast_eq_zero.1 hzero)
    rw [hnil] at hdet
    exact hdet (by simp [denominator, sumX, sumXX])
  obtain ⟨hfirst, hsecond⟩ := normal_equations hlength hdet
  -- the difference is the squared error of the difference of the lines, over points with `y = 0`
  have hflat := squaredError_nonneg (points.map fun p => (p.1, (0 : K)))
    (a - slope points) (b - intercept points)
  rw [squaredError_eq] at hflat
  have hX : sumX (points.map fun p => (p.1, (0 : K))) = sumX points := by
    simp [sumX, Function.comp_def]
  have hXX : sumXX (points.map fun p => (p.1, (0 : K))) = sumXX points := by
    simp [sumXX, Function.comp_def]
  have hY : sumY (points.map fun p => (p.1, (0 : K))) = 0 := by
    simp [sumY, Function.comp_def]
  have hXY : sumXY (points.map fun p => (p.1, (0 : K))) = 0 := by
    simp [sumXY, Function.comp_def]
  have hzero : squaredError (points.map fun p => (p.1, (0 : K))) 0 0 = 0 := by
    simp [squaredError, Function.comp_def]
  rw [hX, hXX, hY, hXY, hzero, List.length_map] at hflat
  rw [squaredError_eq points (slope points), squaredError_eq points a]
  rw [← hfirst, ← hsecond]
  linear_combination hflat

end LeastSquares
