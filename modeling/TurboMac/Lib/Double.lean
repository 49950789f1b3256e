import Mathlib.Data.Int.Log
import Mathlib.Order.Monotone.Defs
import TurboMac.Lib.Decimal

/-! # Doubles

The rounding of IEEE 754 to 53 bits, halves to even, without its overflow: a double
is the rational that it stands for. It keeps the order, its own values and whole numbers,
which is all that most arguments about rounded arithmetic rest on.
-/

open Decimal

/-- A rounding that keeps the order, its own values, and whole numbers of 53 bits. -/
structure IsRounding (round : ℚ → ℚ) : Prop where
  mono : Monotone round
  idem : ∀ x, round (round x) = round x
  whole : ∀ n : ℤ, |n| < 2 ^ 53 → round n = n

namespace IsRounding

variable {round : ℚ → ℚ} {x y : ℚ}

theorem zero (h : IsRounding round) : round 0 = 0 := by
  exact_mod_cast h.whole 0 (by decide)

theorem nonneg (h : IsRounding round) (hx : 0 ≤ x) : 0 ≤ round x := by
  have hmono := h.mono hx
  rwa [h.zero] at hmono

/-- A value of the rounding is not passed. -/
theorem le_of_le (h : IsRounding round) (hy : round y = y) (hle : x ≤ y) : round x ≤ y := by
  have hmono := h.mono hle
  rwa [hy] at hmono

theorem ge_of_ge (h : IsRounding round) (hx : round x = x) (hle : x ≤ y) : x ≤ round y := by
  have hmono := h.mono hle
  rwa [hx] at hmono

/-- The greater of two values of the rounding is one. -/
theorem max_eq (hx : round x = x) (hy : round y = y) : round (max x y) = max x y := by
  rcases max_choice x y with hmax | hmax
  · rw [hmax, hx]
  · rw [hmax, hy]

/-- No rounding at all. -/
theorem id : IsRounding id := ⟨monotone_id, fun _ => rfl, fun _ _ => rfl⟩

end IsRounding

namespace Double

/-- The exponent of the last of the 53 bits of `x`, which is not below that of the
smallest double. -/
def exponent (x : ℚ) : ℤ := max (Int.log 2 |x| - 52) (-1074)

/-- The double nearest to `x`. -/
def round (x : ℚ) : ℚ := roundHalfEven (x / 2 ^ exponent x) * 2 ^ exponent x

section

variable {x y : ℚ} {n e k : ℤ}

theorem pow_pos (e : ℤ) : (0 : ℚ) < 2 ^ e := zpow_pos (by norm_num) e

theorem pow_mul (m e : ℤ) : (2 : ℚ) ^ m * 2 ^ e = 2 ^ (m + e) := (zpow_add₀ (by norm_num) m e).symm

/-- A multiple of a greater unit is one of the last place of `x`. -/
theorem multiple (he : exponent x ≤ e) (n : ℤ) : ∃ m : ℤ, (n : ℚ) * 2 ^ e = m * 2 ^ exponent x := by
  obtain ⟨k, hk⟩ := Int.le.dest he
  refine ⟨n * 2 ^ k, ?_⟩
  rw [← hk, add_comm, ← pow_mul, zpow_natCast]
  push_cast
  ring

/-- No multiple of the last place is passed. -/
theorem round_le (he : exponent x ≤ e) (h : x ≤ n * 2 ^ e) : round x ≤ n * 2 ^ e := by
  obtain ⟨m, hm⟩ := multiple he n
  have hpos := pow_pos (exponent x)
  rw [hm] at h ⊢
  have hle : x / 2 ^ exponent x ≤ m := (div_le_iff₀ hpos).2 h
  have hmono := roundHalfEven_mono hle
  rw [roundHalfEven_intCast] at hmono
  apply mul_le_mul_of_nonneg_right _ hpos.le
  exact_mod_cast hmono

theorem le_round (he : exponent x ≤ e) (h : n * 2 ^ e ≤ x) : n * 2 ^ e ≤ round x := by
  obtain ⟨m, hm⟩ := multiple he n
  have hpos := pow_pos (exponent x)
  rw [hm] at h ⊢
  have hle : (m : ℚ) ≤ x / 2 ^ exponent x := (le_div_iff₀ hpos).2 h
  have hmono := roundHalfEven_mono hle
  rw [roundHalfEven_intCast] at hmono
  apply mul_le_mul_of_nonneg_right _ hpos.le
  exact_mod_cast hmono

@[simp] theorem round_zero : round 0 = 0 := by
  rw [round, zero_div]
  norm_num [roundHalfEven]

theorem round_nonneg (h : 0 ≤ x) : 0 ≤ round x := by
  have hle := @le_round x 0 _ (le_refl _) (by simpa using h)
  simpa using hle

theorem round_nonpos (h : x ≤ 0) : round x ≤ 0 := by
  have hle := @round_le x 0 _ (le_refl _) (by simpa using h)
  simpa using hle

/-- The last place of a number below a power of two. -/
theorem exponent_le (hx : x ≠ 0) (hk : -1021 ≤ k) (h : |x| < 2 ^ k) : exponent x ≤ k - 53 := by
  have hlog : Int.log 2 |x| < k := by
    rw [← Int.lt_zpow_iff_log_lt (by norm_num) (abs_pos.2 hx)]
    exact_mod_cast h
  unfold exponent
  omega

/-- A power of two is between numbers with different last places. -/
theorem pow_between (hx : x ≠ 0) (hy : y ≠ 0) (h : exponent x < exponent y) :
    |x| < 2 ^ (exponent y + 52) ∧ 2 ^ (exponent y + 52) ≤ |y| := by
  have hlog : exponent y + 52 = Int.log 2 |y| ∧ Int.log 2 |x| < Int.log 2 |y| := by
    unfold exponent at h ⊢
    omega
  have hlow := Int.zpow_log_le_self (b := 2) (by norm_num) (abs_pos.2 hy)
  rw [hlog.1]
  constructor
  · have hlt := (Int.lt_zpow_iff_log_lt (b := 2) (by norm_num) (abs_pos.2 hx)).2 hlog.2
    exact_mod_cast hlt
  · exact_mod_cast hlow

theorem round_mono : Monotone round := by
  intro x y hle
  rcases eq_or_ne x 0 with rfl | hx
  · rw [round_zero]
    exact round_nonneg hle
  rcases eq_or_ne y 0 with rfl | hy
  · rw [round_zero]
    exact round_nonpos hle
  rcases lt_trichotomy (exponent x) (exponent y) with hlt | heq | hgt
  · -- a power of two is between them
    obtain ⟨hbelow, habove⟩ := pow_between hx hy hlt
    have hpow := pow_pos (exponent y + 52)
    have hypos : 2 ^ (exponent y + 52) ≤ y := by
      rcases le_abs.1 habove with hpos | hneg
      · exact hpos
      · have hlow := (abs_lt.1 hbelow).1
        linarith
    have hsplit : (2 : ℚ) ^ (exponent y + 52) = ((2 ^ 52 : ℤ) : ℚ) * 2 ^ exponent y := by
      rw [add_comm, ← pow_mul]
      norm_num
    rw [hsplit] at hypos hbelow
    exact (round_le hlt.le (abs_lt.1 hbelow).2.le).trans (le_round (le_refl _) hypos)
  · have hpos := pow_pos (exponent y)
    unfold round
    rw [heq]
    apply mul_le_mul_of_nonneg_right _ hpos.le
    have hmono := roundHalfEven_mono (div_le_div_of_nonneg_right hle hpos.le)
    exact_mod_cast hmono
  · obtain ⟨hbelow, habove⟩ := pow_between hy hx hgt
    have hpow := pow_pos (exponent x + 52)
    have hxneg : x ≤ -2 ^ (exponent x + 52) := by
      rcases le_abs.1 habove with hpos | hneg
      · have hhigh := (abs_lt.1 hbelow).2
        linarith
      · linarith
    have hsplit : -(2 : ℚ) ^ (exponent x + 52) = ((-2 ^ 52 : ℤ) : ℚ) * 2 ^ exponent x := by
      rw [add_comm, ← pow_mul]
      norm_num
    have hylow : -(2 : ℚ) ^ (exponent x + 52) ≤ y := (abs_lt.1 hbelow).1.le
    rw [hsplit] at hxneg hylow
    exact (round_le (le_refl _) hxneg).trans (le_round hgt.le hylow)

/-- What has 53 bits at most is kept. -/
theorem round_eq (hn : |n| < 2 ^ 53) (he : -1074 ≤ e) : round (n * 2 ^ e) = n * 2 ^ e := by
  rcases eq_or_ne n 0 with rfl | hne
  · simp
  have hpos := pow_pos e
  have habs : |(n : ℚ) * 2 ^ e| < 2 ^ (e + 53) := by
    have hn' : |(n : ℚ)| < 2 ^ (53 : ℤ) := by exact_mod_cast hn
    rw [abs_mul, abs_of_pos hpos, add_comm, ← pow_mul]
    exact mul_lt_mul_of_pos_right hn' hpos
  have hx : (n : ℚ) * 2 ^ e ≠ 0 := mul_ne_zero (by exact_mod_cast hne) hpos.ne'
  have hexponent : exponent (n * 2 ^ e) ≤ e := by
    have hle := exponent_le hx (by omega) habs
    omega
  exact le_antisymm (round_le hexponent (le_refl _)) (le_round hexponent (le_refl _))

theorem round_intCast (hn : |n| < 2 ^ 53) : round n = n := by
  have heq := @round_eq n 0 hn (by decide)
  rwa [zpow_zero, mul_one] at heq

/-- 53 bits are enough, or the next power of two. -/
theorem abs_mantissa_le (x : ℚ) : |roundHalfEven (x / 2 ^ exponent x)| ≤ 2 ^ 53 := by
  have hpos := pow_pos (exponent x)
  have hbound : |x / 2 ^ exponent x| ≤ ((2 ^ 53 : ℤ) : ℚ) := by
    rw [abs_div, abs_of_pos hpos, div_le_iff₀ hpos]
    have hlt := Int.lt_zpow_succ_log_self (b := 2) (by norm_num) |x|
    have hle : (2 : ℚ) ^ (Int.log 2 |x| + 1) ≤ 2 ^ (53 + exponent x) := by
      apply zpow_le_zpow_right₀ (by norm_num)
      unfold exponent
      omega
    rw [← pow_mul 53] at hle
    push_cast at hlt ⊢
    exact hlt.le.trans hle
  rw [abs_le] at hbound ⊢
  constructor
  · have hmono := roundHalfEven_mono hbound.1
    rw [← Int.cast_neg, roundHalfEven_intCast] at hmono
    exact hmono
  · have hmono := roundHalfEven_mono hbound.2
    rwa [roundHalfEven_intCast] at hmono

theorem round_round (x : ℚ) : round (round x) = round x := by
  have hmantissa := abs_mantissa_le x
  have hexponent : -1074 ≤ exponent x := le_max_right _ _
  rcases hmantissa.lt_or_eq with hlt | heq
  · exact round_eq hlt hexponent
  · -- all ones rounded up: one bit of the next place
    have hnext : ∃ m : ℤ, |m| < 2 ^ 53 ∧
        (roundHalfEven (x / 2 ^ exponent x) : ℚ) * 2 ^ exponent x = m * 2 ^ (exponent x + 1) := by
      rcases abs_eq (by norm_num) |>.1 heq with hpos | hneg
      · refine ⟨2 ^ 52, by norm_num, ?_⟩
        rw [hpos, add_comm (exponent x), ← pow_mul]
        push_cast
        ring
      · refine ⟨-2 ^ 52, by norm_num, ?_⟩
        rw [hneg, add_comm (exponent x), ← pow_mul]
        push_cast
        ring
    obtain ⟨m, hm, hvalue⟩ := hnext
    have hround : round x = m * 2 ^ (exponent x + 1) := by
      rw [round, hvalue]
    rw [hround, round_eq hm (by omega)]

theorem isRounding : IsRounding round :=
  ⟨round_mono, round_round, fun _ hn => round_intCast hn⟩

/-- How far a number is from its double. -/
theorem abs_round_sub_le (hk : -1021 ≤ k) (h : |x| < 2 ^ k) : |round x - x| ≤ 2 ^ (k - 54) := by
  rcases eq_or_ne x 0 with rfl | hx
  · have hpos := pow_pos (k - 54)
    simpa using hpos.le
  have hpos := pow_pos (exponent x)
  have hround := abs_roundHalfEven_sub_le (x / 2 ^ exponent x)
  have hdiff : round x - x =
      (roundHalfEven (x / 2 ^ exponent x) - x / 2 ^ exponent x) * 2 ^ exponent x := by
    rw [round, sub_mul, div_mul_cancel₀ _ hpos.ne']
  have hle : (2 : ℚ) ^ exponent x ≤ 2 ^ (1 + (k - 54)) := by
    apply zpow_le_zpow_right₀ (by norm_num)
    have hexponent := exponent_le hx hk h
    omega
  rw [← pow_mul, zpow_one] at hle
  rw [hdiff, abs_mul, abs_of_pos hpos]
  have hmul := mul_le_mul hround hle hpos.le (by norm_num)
  linarith

end

end Double
