import TurboMac.Daemon.Daemon

/-! # Watts and milliwatts

The driver counts in whole milliwatts, the daemon in doubles of watts. A number of
milliwatts is what its double in watts is rounded back to, and keeps its place among
the whole watts; the rounding of both ways keeps the order.
-/

namespace TurboMac.Daemon

open Kext (U32)

/-- `watts` in milliwatts, rounded. -/
def milliwatts (watts : ℚ) : ℤ := ⌊Double.round (Double.round watts * 1000) + 1 / 2⌋

section

variable {x y : ℚ}

theorem milliwatts_mono (h : x ≤ y) : milliwatts x ≤ milliwatts y := by
  apply Int.floor_mono
  have hround := Double.round_mono h
  have hproduct := Double.round_mono (mul_le_mul_of_nonneg_right hround (by norm_num : (0 : ℚ) ≤ 1000))
  linarith

theorem milliwatts_nonneg (h : 0 ≤ x) : 0 ≤ milliwatts x := by
  apply Int.floor_nonneg.2
  have hround := Double.round_nonneg h
  have hproduct := Double.round_nonneg (mul_nonneg hround (by norm_num : (0 : ℚ) ≤ 1000))
  linarith

theorem milliwatts_round (x : ℚ) : milliwatts (Double.round x) = milliwatts x := by
  rw [milliwatts, Double.round_round, milliwatts]

/-- The double of a number of milliwatts is close to it. -/
theorem abs_round_div_sub_le {mw : ℤ} (h : |mw| < 2 ^ 33) :
    |Double.round (mw / 1000) - mw / 1000| ≤ 1 / 2 ^ 30 := by
  have hmw : |(mw : ℚ)| < 2 ^ 33 := by exact_mod_cast h
  have hbound : |(mw : ℚ) / 1000| < 2 ^ (24 : ℤ) := by
    rw [abs_div, abs_of_pos (by norm_num : (0 : ℚ) < 1000), div_lt_iff₀ (by norm_num)]
    apply hmw.trans
    norm_num
  have herror := Double.abs_round_sub_le (by norm_num) hbound
  apply herror.trans
  norm_num

/-- The way back. -/
theorem milliwatts_div {mw : ℤ} (h : |mw| < 2 ^ 33) : milliwatts (mw / 1000) = mw := by
  have hmw : |(mw : ℚ)| < 2 ^ 33 := by exact_mod_cast h
  have herror := abs_round_div_sub_le h
  unfold milliwatts
  generalize Double.round ((mw : ℚ) / 1000) = watts at herror
  rw [abs_le] at herror
  rw [abs_lt] at hmw
  have hbound : |watts * 1000| < 2 ^ (34 : ℤ) := by
    rw [abs_lt]
    norm_num at herror hmw ⊢
    constructor
    · linarith
    · linarith
  have hproduct := Double.abs_round_sub_le (by norm_num) hbound
  rw [abs_le] at hproduct
  norm_num at herror hproduct
  rw [Int.floor_eq_iff]
  constructor
  · linarith
  · linarith

theorem milliwatts_watts (mw : U32) : milliwatts (mw.toNat / 1000) = mw.toNat := by
  have hlt := mw.isLt
  have hdiv := @milliwatts_div mw.toNat (by rw [abs_of_nonneg (by omega)]; omega)
  rwa [Int.cast_natCast] at hdiv

theorem milliwatts_lt_of_le {mw : U32} (h : x ≤ mw.toNat / 1000) : milliwatts x < 2 ^ 32 := by
  have hle := milliwatts_mono h
  rw [milliwatts_watts] at hle
  have hlt := mw.isLt
  omega

/-! ## Whole watts -/

/-- The double of a number of milliwatts is not under a whole watt that the number is not under. -/
theorem le_round_div_iff {n mw : ℤ} (hn : |n| < 2 ^ 53) (h : |mw| < 2 ^ 33) :
    (n : ℚ) ≤ Double.round (mw / 1000) ↔ 1000 * n ≤ mw := by
  have herror := abs_round_div_sub_le h
  rw [abs_le] at herror
  constructor
  · intro hle
    have hlt : ((1000 * n : ℤ) : ℚ) < ((mw + 1 : ℤ) : ℚ) := by
      push_cast
      norm_num at herror
      linarith
    have hlt' : 1000 * n < mw + 1 := by exact_mod_cast hlt
    omega
  · intro hle
    have hle' : (n : ℚ) ≤ mw / 1000 := by
      have hcast : ((1000 * n : ℤ) : ℚ) ≤ mw := by exact_mod_cast hle
      push_cast at hcast
      linarith
    exact Double.isRounding.ge_of_ge (Double.round_intCast hn) hle'

theorem round_div_le_iff {n mw : ℤ} (hn : |n| < 2 ^ 53) (h : |mw| < 2 ^ 33) :
    Double.round (mw / 1000) ≤ n ↔ mw ≤ 1000 * n := by
  have herror := abs_round_div_sub_le h
  rw [abs_le] at herror
  constructor
  · intro hle
    have hlt : (mw : ℚ) < ((1000 * n + 1 : ℤ) : ℚ) := by
      push_cast
      norm_num at herror
      linarith
    have hlt' : mw < 1000 * n + 1 := by exact_mod_cast hlt
    omega
  · intro hle
    have hle' : (mw : ℚ) / 1000 ≤ n := by
      have hcast : (mw : ℚ) ≤ ((1000 * n : ℤ) : ℚ) := by exact_mod_cast hle
      push_cast at hcast
      linarith
    exact Double.isRounding.le_of_le (Double.round_intCast hn) hle'

/-! ## Requests -/

/-- Under 2³² mW nothing wraps. -/
theorem toNat_wattsToMW (hx : 0 < x) (hfits : milliwatts x < 2 ^ 32) :
    ((wattsToMW x).toNat : ℤ) = milliwatts x := by
  have hnonneg := milliwatts_nonneg hx.le
  unfold wattsToMW
  rw [if_neg (not_le.2 hx), BitVec.toNat_ofInt]
  unfold milliwatts at hnonneg hfits ⊢
  omega

theorem wattsToMW_mono (hx : 0 < x) (h : x ≤ y) (hfits : milliwatts y < 2 ^ 32) :
    wattsToMW x ≤ wattsToMW y := by
  have hmono := milliwatts_mono h
  have htoNat := toNat_wattsToMW hx (hmono.trans_lt hfits)
  have htoNat' := toNat_wattsToMW (hx.trans_le h) hfits
  rw [BitVec.le_def]
  omega

theorem le_wattsToMW {mw : U32} (hx : 0 < x) (h : Double.round (mw.toNat / 1000) ≤ x)
    (hfits : milliwatts x < 2 ^ 32) : mw ≤ wattsToMW x := by
  have hmono := milliwatts_mono h
  have htoNat := toNat_wattsToMW hx hfits
  rw [milliwatts_round, milliwatts_watts] at hmono
  rw [BitVec.le_def]
  omega

end

end TurboMac.Daemon
