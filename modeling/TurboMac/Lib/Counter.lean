import Mathlib.Data.Int.ModEq
import Mathlib.Data.List.Chain
import Mathlib.Tactic.Ring

/-! # Counters that wrap

A count that only goes up is read modulo a range. As long as it advances by less
than the range from one reading to the next, the readings say by how much.
-/

namespace Counter

/-- By how much a counter has advanced between two readings, if it has wrapped at most once. -/
def advance (range prev cur : ℤ) : ℤ := if cur < prev then cur - prev + range else cur - prev

theorem advance_nonneg {range prev cur : ℤ} (hcur : 0 ≤ cur) (hprev : prev < range) :
    0 ≤ advance range prev cur := by
  unfold advance
  split_ifs with h
  · omega
  · omega

/-- From `a` to `b` it advances by less than the range. -/
def Advances (range a b : ℤ) : Prop := a ≤ b ∧ b < a + range

/-- Two readings of a counter that advances by less than its range. -/
theorem advance_emod {range a b : ℤ} (h : Advances range a b) :
    advance range (a % range) (b % range) = b - a := by
  obtain ⟨hle, hlt⟩ := h
  have hpos : 0 < range := by omega
  have ha := Int.emod_add_mul_ediv a range
  have hb := Int.emod_add_mul_ediv b range
  have hamod := Int.emod_nonneg a hpos.ne'
  have hbmod := Int.emod_nonneg b hpos.ne'
  have halt := Int.emod_lt_of_pos a hpos
  have hblt := Int.emod_lt_of_pos b hpos
  -- the quotient stays or goes up by one
  have hquot : b / range = a / range ∨ b / range = a / range + 1 := by
    have hmono : a / range ≤ b / range := Int.ediv_le_ediv hpos hle
    have hnext : b / range ≤ (a + range) / range := Int.ediv_le_ediv hpos hlt.le
    rw [Int.add_ediv_of_dvd_right (dvd_refl range), Int.ediv_self hpos.ne'] at hnext
    omega
  unfold advance
  rcases hquot with hsame | hwrap
  · rw [hsame] at hb
    rw [if_neg (by omega)]
    omega
  · rw [hwrap, mul_add, mul_one] at hb
    rw [if_pos (by omega)]
    omega

/-- All of the advances from one reading to the next. -/
def travelled (range : ℤ) : List ℤ → ℤ
  | a :: b :: l => advance range a b + travelled range (b :: l)
  | _ => 0

/-- Over a whole list of readings nothing is lost and nothing counted twice. -/
theorem travelled_emod {range a : ℤ} {l : List ℤ} (h : (a :: l).IsChain (Advances range)) :
    travelled range ((a :: l).map (· % range)) = (a :: l).getLast (List.cons_ne_nil a l) - a := by
  induction l generalizing a with
  | nil => simp [travelled]
  | cons b l ih =>
      rw [List.isChain_cons_cons] at h
      have hrest := ih h.2
      simp only [List.map_cons] at hrest
      simp only [List.map_cons, travelled, hrest, advance_emod h.1,
        List.getLast_cons (List.cons_ne_nil b l)]
      ring

end Counter
