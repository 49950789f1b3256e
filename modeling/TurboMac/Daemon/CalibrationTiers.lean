import TurboMac.Daemon.Agreement
import TurboMac.Daemon.Calibration

/-! # The limits of the calibration

The limits of both searches are whole watts, 2 W apart, and what they are compared with is a
double. In milliwatts they are exact, and the driver compares those.
-/

namespace TurboMac.Daemon

open Kext (U32)

namespace Capabilities

/-- The first limit, in watts. -/
def firstW (current : Capabilities) : ℤ := ⌈max current.driverFloor 5⌉

/-- The limits of the sweep, and of the burst search. -/
def tierW (current : Capabilities) (k : ℕ) : ℚ := current.firstLimit + 2 * k

def tierMW (current : Capabilities) (k : ℕ) : ℤ := 1000 * (current.firstW + 2 * k)

/-- The last tier of the sweep. -/
def tiers (current : Capabilities) : ℕ :=
  ⌊(withTolerance current.sweepCeiling - current.firstLimit) / 2⌋₊

/-- The test of the burst search lets a burst of `2 * n` over a tier through. -/
def Bursts (current : Capabilities) (k n : ℕ) : Prop :=
  (2 * n : ℚ) ≤ withTolerance (current.burstMaximum (current.tierW k))

instance (current : Capabilities) (k n : ℕ) : Decidable (current.Bursts k n) :=
  inferInstanceAs (Decidable (_ ≤ _))

/-- The ceiling of the sweep, in mW. -/
def sweepCeilingMW (current : Capabilities) : ℤ :=
  min (min (current.packageLimitMW false).toNat (current.packageLimitMW true).toNat)
    current.maximumPowerMW.toNat

/-- The last tier is not over the ceiling of the sweep, and no burst over any tier is over the
captured second limit and the maximum. -/
def CalibrationFits (current : Capabilities) : Prop :=
  current.tierMW current.tiers ≤ current.sweepCeilingMW ∧
    ∀ k ≤ current.tiers, ∀ n ≤ 5, 0 < n → current.Bursts k n →
      current.tierMW (k + n) ≤ min (current.packageLimitMW true).toNat current.maximumPowerMW.toNat

instance (current : Capabilities) : Decidable current.CalibrationFits :=
  inferInstanceAs (Decidable (_ ∧ _))

end Capabilities

/-! ## Watts and milliwatts -/

theorem withTolerance_mono : Monotone withTolerance := by
  intro x y hle
  apply Double.round_mono
  linarith

theorem le_withTolerance {n : ℤ} (hn : |n| < 2 ^ 53) {watts : ℚ} (h : n ≤ watts) :
    n ≤ withTolerance watts := by
  have hpos : 0 ≤ Double.round (1 / 100) := Double.round_nonneg (by norm_num)
  apply Double.isRounding.ge_of_ge (Double.round_intCast hn)
  linarith

/-- No register holds more. -/
theorem round_div_le (mw : U32) : Double.round ((mw.toNat : ℚ) / 1000) ≤ 8589935 / 2 := by
  have hhalf : Double.round (8589935 / 2) = 8589935 / 2 := by
    have heq := @Double.round_eq 8589935 (-1) (by norm_num) (by norm_num)
    norm_num at heq ⊢
    exact heq
  have hlt : (mw.toNat : ℚ) ≤ 2 ^ 32 := by exact_mod_cast mw.isLt.le
  apply Double.isRounding.le_of_le hhalf
  rw [div_le_iff₀ (by norm_num)]
  linarith

section

variable {current : Capabilities} {k n : ℕ}

theorem capturedW_eq (current : Capabilities) (second : Bool) :
    current.capturedW second = Double.round ((current.packageLimitMW second).toNat / 1000) := by
  unfold Capabilities.capturedW rawLimitW Capabilities.packageLimitMW
  rfl

theorem sweepCeiling_eq (current : Capabilities) :
    current.sweepCeiling = Double.round ((current.sweepCeilingMW : ℚ) / 1000) := by
  unfold Capabilities.sweepCeiling Capabilities.sweepCeilingMW Capabilities.driverMaximum
  rw [capturedW_eq, capturedW_eq, ← Double.round_mono.map_min, ← Double.round_mono.map_min]
  push_cast
  rw [min_div_div_right (by norm_num), min_div_div_right (by norm_num)]

theorem sweepCeilingMW_bounds (current : Capabilities) :
    0 ≤ current.sweepCeilingMW ∧ current.sweepCeilingMW < 2 ^ 32 := by
  have hlt := current.maximumPowerMW.isLt
  unfold Capabilities.sweepCeilingMW
  omega

theorem five_le_firstW (current : Capabilities) : 5 ≤ current.firstW := by
  apply Int.le_ceil_iff.mpr
  push_cast
  have := le_max_right current.driverFloor 5
  linarith

theorem firstW_le (current : Capabilities) : current.firstW ≤ 4294968 := by
  apply Int.ceil_le.mpr
  have hle := round_div_le current.minimumPowerMW
  unfold Capabilities.driverFloor
  push_cast
  exact max_le (max_le (by norm_num) (by linarith)) (by norm_num)

theorem five_le_firstLimit (current : Capabilities) : 5 ≤ current.firstLimit := by
  show (5 : ℚ) ≤ (current.firstW : ℚ)
  exact_mod_cast five_le_firstW current

/-- The driver's floor is not over the first limit. -/
theorem minimum_le_first (current : Capabilities) :
    (current.minimumPowerMW.toNat : ℤ) ≤ current.tierMW 0 := by
  have hfirst := five_le_firstW current
  have hbound := firstW_le current
  have hlt := current.minimumPowerMW.isLt
  have hceil : Double.round ((current.minimumPowerMW.toNat : ℤ) / 1000) ≤ (current.firstW : ℚ) :=
    (le_max_right 1 _).trans ((le_max_left _ _).trans (Int.le_ceil _))
  rw [round_div_le_iff (by rw [abs_of_nonneg (by omega)]; omega)
    (by rw [abs_of_nonneg (by omega)]; omega)] at hceil
  unfold Capabilities.tierMW
  omega

/-- The checks leave room for one tier. -/
theorem first_le_ceiling (h : current.calibratable = true) :
    current.tierMW 0 ≤ current.sweepCeilingMW := by
  have hfirst := five_le_firstW current
  have hbound := firstW_le current
  have hceiling := sweepCeilingMW_bounds current
  unfold Capabilities.calibratable at h
  simp only [Bool.and_eq_true, decide_eq_true_eq] at h
  have hle : (current.firstW : ℚ) ≤ current.sweepCeiling := h.2
  rw [sweepCeiling_eq, le_round_div_iff (by rw [abs_of_nonneg (by omega)]; omega)
    (by rw [abs_of_nonneg (by omega)]; omega)] at hle
  unfold Capabilities.tierMW
  omega

/-! ## The limits of the searches -/

theorem tierW_eq (current : Capabilities) (k : ℕ) :
    current.tierW k = ((current.firstW + 2 * k : ℤ) : ℚ) := by
  unfold Capabilities.tierW Capabilities.firstLimit Capabilities.firstW
  push_cast
  ring

theorem tierW_div (current : Capabilities) (k : ℕ) :
    current.tierW k = (current.tierMW k : ℚ) / 1000 := by
  rw [tierW_eq]
  unfold Capabilities.tierMW
  push_cast
  ring

theorem tierW_zero (current : Capabilities) : current.tierW 0 = current.firstLimit := by
  simp [Capabilities.tierW]

theorem tierW_add (current : Capabilities) (k n : ℕ) :
    current.tierW k + 2 * n = current.tierW (k + n) := by
  unfold Capabilities.tierW
  push_cast
  ring

theorem tierW_pos (current : Capabilities) (k : ℕ) : 0 < current.tierW k := by
  have hfive := five_le_firstLimit current
  have hk : (0 : ℚ) ≤ k := Nat.cast_nonneg k
  unfold Capabilities.tierW
  linarith

/-- What the test of the sweep comes to. -/
theorem le_tiers (h : current.tierW k ≤ withTolerance current.sweepCeiling) : k ≤ current.tiers := by
  apply Nat.le_floor
  unfold Capabilities.tierW at h
  linarith

theorem tierW_le (h : current.calibratable = true) (hk : k ≤ current.tiers) :
    current.tierW k ≤ withTolerance current.sweepCeiling := by
  have hfirst : (current.firstW : ℚ) ≤ withTolerance current.sweepCeiling := by
    have hnonneg := five_le_firstW current
    have hbound := firstW_le current
    unfold Capabilities.calibratable at h
    simp only [Bool.and_eq_true, decide_eq_true_eq] at h
    exact le_withTolerance (by rw [abs_of_nonneg (by omega)]; omega) h.2
  have hfirst' : current.firstLimit ≤ withTolerance current.sweepCeiling := hfirst
  have hle := (Nat.le_floor_iff (by linarith)).mp hk
  unfold Capabilities.tierW
  linarith

theorem withTolerance_sweepCeiling_lt (current : Capabilities) :
    withTolerance current.sweepCeiling < 4294968 := by
  have hceiling : current.sweepCeiling ≤ 8589935 / 2 :=
    (min_le_right _ _).trans (round_div_le current.maximumPowerMW)
  have htop : withTolerance (8589935 / 2) < 4294968 := by decide +kernel
  exact (withTolerance_mono hceiling).trans_lt htop

theorem tierMW_lt (h : current.calibratable = true) (hk : k ≤ current.tiers) :
    current.tierMW k < 2 ^ 32 := by
  have hlt : current.tierW k < 4294968 := (tierW_le h hk).trans_lt (withTolerance_sweepCeiling_lt current)
  rw [tierW_eq] at hlt
  have hlt' : current.firstW + 2 * k < 4294968 := by exact_mod_cast hlt
  -- a multiple of 1000
  unfold Capabilities.tierMW
  omega

/-- No burst is over 10 W. -/
theorem le_five_of_bursts (h : current.Bursts k n) : n ≤ 5 := by
  have htop : withTolerance 10 < 12 := by decide +kernel
  have hle := h.trans (withTolerance_mono (min_le_left _ _))
  have hlt : ((2 * n : ℕ) : ℚ) < ((12 : ℕ) : ℚ) := by
    push_cast
    linarith
  have hlt' : 2 * n < 12 := by exact_mod_cast hlt
  omega

/-- Nor does one pass what a register holds. -/
theorem tierMW_lt_of_bursts (h : current.Bursts k n) : current.tierMW (k + n) < 2 ^ 32 := by
  have hfive := le_five_of_bursts h
  by_contra hnot
  have hlimit : (4294968 : ℚ) ≤ current.tierW k + 2 * n := by
    have hle : 4294968 ≤ current.firstW + 2 * (k + n : ℕ) := by
      unfold Capabilities.tierMW at hnot
      omega
    have hcast : ((4294968 : ℤ) : ℚ) ≤ ((current.firstW + 2 * (k + n : ℕ) : ℤ) : ℚ) := by
      exact_mod_cast hle
    rw [tierW_add, tierW_eq]
    exact_mod_cast hcast
  have hcaptured : current.capturedW true ≤ 8589935 / 2 := by
    rw [capturedW_eq]
    exact round_div_le _
  -- half a watt under the burst, and with the tolerance still under it
  have hhalf : Double.round (((4 * n - 1 : ℤ) : ℚ) * 2 ^ (-1 : ℤ)) = ((4 * n - 1 : ℤ) : ℚ) * 2 ^ (-1 : ℤ) :=
    Double.round_eq (by rw [abs_lt]; omega) (by norm_num)
  have hquarter : Double.round (((8 * n - 1 : ℤ) : ℚ) * 2 ^ (-2 : ℤ)) =
      ((8 * n - 1 : ℤ) : ℚ) * 2 ^ (-2 : ℤ) :=
    Double.round_eq (by rw [abs_lt]; omega) (by norm_num)
  have hmaximum : current.burstMaximum (current.tierW k) ≤ ((4 * n - 1 : ℤ) : ℚ) * 2 ^ (-1 : ℤ) := by
    apply (min_le_right _ _).trans
    apply Double.isRounding.le_of_le hhalf
    push_cast
    norm_num
    linarith
  have hcent : Double.round (1 / 100) ≤ 1 / 4 := by decide +kernel
  have hle : withTolerance (current.burstMaximum (current.tierW k)) ≤
      ((8 * n - 1 : ℤ) : ℚ) * 2 ^ (-2 : ℤ) := by
    apply Double.isRounding.le_of_le hquarter
    push_cast at hmaximum ⊢
    norm_num at hmaximum ⊢
    linarith
  have hburst := h.trans hle
  push_cast at hburst
  norm_num at hburst
  linarith

/-! ## What the driver takes -/

/-- A limit of the searches, in the milliwatts of a request. -/
theorem toNat_tier (hfits : current.tierMW k < 2 ^ 32) :
    ((wattsToMW (current.tierW k)).toNat : ℤ) = current.tierMW k := by
  have hfirst := five_le_firstW current
  have hmilliwatts : milliwatts (current.tierW k) = current.tierMW k := by
    rw [tierW_div]
    apply milliwatts_div
    rw [abs_lt]
    unfold Capabilities.tierMW at hfits ⊢
    omega
  rw [toNat_wattsToMW (tierW_pos current k) (by rw [hmilliwatts]; exact hfits), hmilliwatts]

/-- The ceiling the driver makes of a captured limit, where both are known. -/
theorem toNat_ceilingMW (current : Capabilities) (second : Bool) (hlimit : 0 < (current.packageLimitMW second).toNat)
    (hmaximum : 0 < current.maximumPowerMW.toNat) :
    (current.ceilingMW second).toNat =
      min (current.packageLimitMW second).toNat current.maximumPowerMW.toNat := by
  have hlimit' : current.packageLimitMW second ≠ 0 := by
    intro hzero
    rw [hzero] at hlimit
    exact absurd hlimit (by decide)
  have hmaximum' : current.maximumPowerMW ≠ 0 := by
    intro hzero
    rw [hzero] at hmaximum
    exact absurd hmaximum (by decide)
  unfold Capabilities.ceilingMW Kext.minimumNonZero
  rw [if_neg hlimit', if_neg hmaximum']
  split_ifs with hlt
  · rw [BitVec.lt_def] at hlt
    omega
  · rw [BitVec.lt_def] at hlt
    omega

/-- What the driver says to a request of the searches. -/
theorem accepted_tier_iff (h : current.calibratable = true) (hfits : current.tierMW (k + n) < 2 ^ 32) :
    current.Accepted (wattsToMW (current.tierW k)) (wattsToMW (current.tierW (k + n))) ↔
      current.tierMW k ≤ min (current.packageLimitMW false).toNat current.maximumPowerMW.toNat ∧
        current.tierMW (k + n) ≤
          min (current.packageLimitMW true).toNat current.maximumPowerMW.toNat := by
  have hceiling := first_le_ceiling h
  have hfirst := five_le_firstW current
  have hminimum := minimum_le_first current
  have hstart : current.tierMW 0 ≤ current.tierMW k ∧ current.tierMW k ≤ current.tierMW (k + n) ∧
      5000 ≤ current.tierMW 0 := by
    unfold Capabilities.tierMW
    omega
  have htoNat := @toNat_tier current k (by omega)
  have htoNat' := toNat_tier hfits
  unfold Capabilities.sweepCeilingMW at hceiling
  have hceiling1 := toNat_ceilingMW current false (by omega) (by omega)
  have hceiling2 := toNat_ceilingMW current true (by omega) (by omega)
  rw [Capabilities.accepted_iff]
  unfold Capabilities.admits
  rw [decide_eq_true_eq]
  simp only [BitVec.le_def, BitVec.lt_def, hceiling1, hceiling2]
  have hzero : (0 : U32).toNat = 0 := rfl
  constructor
  · rintro ⟨-, -, -, -, hpl1, hpl2⟩
    omega
  · rintro ⟨hpl1, hpl2⟩
    omega

end

end TurboMac.Daemon
