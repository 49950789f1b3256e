import TurboMac.Daemon.Limits

/-! # The floor of an emergency

In the `emergency` band the policy asks for the RAPL floor. A PL1 that is above the
floor by no more than the deadband is left where it is, though, and one that is above
it by more than 0.05 W is not flagged as over budget.
-/

namespace TurboMac.Daemon

/-- In `emergency` both limits are at the floor, and an input that is measured or
predicted at the emergency threshold is flagged. -/
structure EmergencyFloor (config : PolicyConfig) (s : PolicySnapshot) : Prop where
  limits : s.band = .emergency → s.pl1W = config.raplFloorW ∧ s.pl2W = config.raplFloorW
  flagged : s.emergencyW ≤ s.inputW ∨ s.emergencyW ≤ s.predictedInputW → s.nonCPUOverBudget = true

namespace GovernorPolicy

variable {exp : ℚ → ℚ} {config : PolicyConfig} {p : GovernorPolicy} {clock now : ℚ}

/-- PL1 is above the floor, by the deadband at most. -/
def NearFloor (p : GovernorPolicy) : Prop :=
  p.limitInitialized = true ∧ p.config.raplFloorW < p.snapshot.pl1W ∧
    p.snapshot.pl1W ≤ p.config.raplFloorW + limitDeadbandW

instance (p : GovernorPolicy) : Decidable p.NearFloor := inferInstanceAs (Decidable (_ ∧ _))

theorem nearFloor_unlimited : (p.unlimited exp now).NearFloor ↔ p.NearFloor := by
  have hlimits := @limits_unlimited exp now p
  have hconfig : (p.unlimited exp now).config = p.config := congrArg LimitState.config hlimits
  have hpl1 : (p.unlimited exp now).snapshot.pl1W = p.snapshot.pl1W :=
    congrArg LimitState.pl1W hlimits
  have hinit : (p.unlimited exp now).limitInitialized = p.limitInitialized :=
    congrArg LimitState.limitInitialized hlimits
  unfold NearFloor
  rw [hconfig, hpl1, hinit]

/-- With a reserve the policy desires no more than the floor. -/
theorem desiredPL1_emergency (h : Limited config clock p) (hreserve : 0 ≤ config.reserveW)
    (hband : p.snapshot.band = .emergency) :
    p.desiredPL1 = config.raplFloorW := by
  have htarget : p.targetForBand = p.config.raplFloorW := by
    unfold targetForBand
    rw [hband]
  have hnonCPU := h.nonCPU
  rw [desiredPL1, htarget, h.configured, clampValue]
  apply max_eq_left
  exact (min_le_left _ _).trans (by linarith)

/-- In `emergency` PL1 is left above the floor exactly if it is near it. -/
theorem pl1_emergency_iff (h : Limited config clock p) (hreserve : 0 ≤ config.reserveW) (hband : p.snapshot.band = .emergency) :
    (p.updateLimits now).flagOverBudget.snapshot.pl1W = config.raplFloorW ↔ ¬ p.NearFloor := by
  have hdesired := desiredPL1_emergency h hreserve hband
  have hnear : p.NearFloor ↔ p.limitInitialized = true ∧ config.raplFloorW < p.snapshot.pl1W ∧
      p.snapshot.pl1W ≤ config.raplFloorW + limitDeadbandW := by
    unfold NearFloor
    rw [h.configured]
  rw [hnear]
  cases nextPL1_updateLimits p now with
  | set hcut hpl1 _ =>
      refine iff_of_true (hpl1.trans hdesired) ?_
      rintro ⟨hinit, -, hle⟩
      have hlt := hcut hinit
      rw [hdesired] at hlt
      linarith
  | raise hinit habove _ _ _ =>
      -- the floor is not above PL1
      have hfloor := h.floor hinit
      have hdeadband : (0 : ℚ) < limitDeadbandW := by decide +kernel
      rw [hdesired] at habove
      linarith
  | keep hinit hclose hpl1 _ =>
      rw [hdesired] at hclose
      rw [hpl1]
      constructor
      · rintro heq ⟨-, hlt, -⟩
        rw [heq] at hlt
        exact absurd hlt (lt_irrefl _)
      · intro hnot
        by_contra hne
        refine hnot ⟨hinit, lt_of_le_of_ne (h.floor hinit) (Ne.symm hne), ?_⟩
        linarith

/-- Outside `cruise` PL2 is PL1. -/
theorem pl2_updateLimits (hband : p.snapshot.band ≠ .cruise) :
    (p.updateLimits now).flagOverBudget.snapshot.pl2W =
      max (p.updateLimits now).flagOverBudget.snapshot.pl1W
        (min (p.updateLimits now).flagOverBudget.snapshot.pl1W p.config.raplCeilingPL2W) := by
  have hpl2 : (p.updateLimits now).flagOverBudget.snapshot.pl2W =
      clampValue (if p.snapshot.band = .cruise then
          (p.updateLimits now).flagOverBudget.snapshot.pl1W + max 0 p.config.cruisePL2BurstW
        else (p.updateLimits now).flagOverBudget.snapshot.pl1W)
        (p.updateLimits now).flagOverBudget.snapshot.pl1W p.config.raplCeilingPL2W := rfl
  rw [hpl2, if_neg hband]
  rfl

/-- An emergency condition is met with the `emergency` band. -/
theorem band_of_emergency (q : GovernorPolicy)
    (h : (q.updateBand now).emergency = true) : (q.updateBand now).snapshot.band = .emergency := by
  have hsame := @sameInput_updateBand now q
  have hemergency : q.emergency = true := by
    unfold emergency at h ⊢
    rw [hsame.emergency, hsame.input, hsame.predicted] at h
    exact h
  unfold updateBand
  rw [if_pos hemergency]
  rfl

theorem emergencyFloor_updateLimits_iff (h : Limited config clock p)
    (hreserve : 0 ≤ config.reserveW)
    (hemergency : p.emergency = true → p.snapshot.band = .emergency) :
    EmergencyFloor config (p.updateLimits now).flagOverBudget.snapshot ↔
      (p.snapshot.band = .emergency → ¬ p.NearFloor) := by
  have hband : (p.updateLimits now).flagOverBudget.snapshot.band = p.snapshot.band := rfl
  constructor
  · intro hfloor hin
    exact (pl1_emergency_iff h hreserve hin).1 (hfloor.limits (hband.trans hin)).1
  · intro hcond
    have hpl1 : p.snapshot.band = .emergency →
        (p.updateLimits now).flagOverBudget.snapshot.pl1W = config.raplFloorW := by
      intro hin
      exact (pl1_emergency_iff h hreserve hin).2 (hcond hin)
    constructor
    · intro hin
      rw [hband] at hin
      refine ⟨hpl1 hin, ?_⟩
      rw [pl2_updateLimits (by rw [hin]; decide), hpl1 hin]
      exact max_eq_left (min_le_left _ _)
    · intro hover
      have hover' : p.emergency = true := decide_eq_true hover
      have hin := hemergency hover'
      have hflag : (p.updateLimits now).flagOverBudget.snapshot.nonCPUOverBudget =
          (decide (p.snapshot.band = .emergency ∧
            (p.updateLimits now).flagOverBudget.snapshot.pl1W ≤ p.config.raplFloorW + 1 / 20) &&
            p.emergency) := rfl
      rw [hflag, hover', Bool.and_true, decide_eq_true_eq, hpl1 hin, h.configured]
      exact ⟨hin, by linarith⟩

end GovernorPolicy

/-- Of any ready evaluation of any run, the limits are at the floor in `emergency` and the
flag is set with the emergency condition, exactly if it does not end in `emergency` with a
PL1 before it that is above the floor by the deadband at most. -/
theorem emergency_floor_iff (exp : ℚ → ℚ) {config : PolicyConfig} (hconfig : config.Ordered)
    (hreserve : 0 ≤ config.reserveW) (calls : List PolicyCall) {now : ℚ}
    (htimes : (calls.map PolicyCall.time ++ [now]).Pairwise (· ≤ ·))
    (hready : ((recorded exp config calls).policy.evaluate exp now).snapshot.ready = true) :
    EmergencyFloor config ((recorded exp config calls).policy.evaluate exp now).snapshot ↔
      (((recorded exp config calls).policy.evaluate exp now).snapshot.band = .emergency →
        ¬ (recorded exp config calls).policy.NearFloor) := by
  have hlimited : Limited config now ((recorded exp config calls).policy.unlimited exp now) :=
    (limited_recorded exp hconfig calls htimes).unlimited
  have hemergency : ((recorded exp config calls).policy.unlimited exp now).emergency = true →
      ((recorded exp config calls).policy.unlimited exp now).snapshot.band = .emergency :=
    GovernorPolicy.band_of_emergency _
  rw [GovernorPolicy.evaluate_of_ready hready, ← @GovernorPolicy.nearFloor_unlimited exp _ now]
  -- the limits come after the band
  generalize (recorded exp config calls).policy.unlimited exp now = p at hlimited hemergency ⊢
  exact GovernorPolicy.emergencyFloor_updateLimits_iff hlimited hreserve hemergency

/-- An input of 40 W beside a package power, and one of 60 W of 80 W after it. -/
def spikeAfter (packageW : ℚ) : List PolicyCall :=
  [.updatePackagePower 0 packageW, .updateSMC 0 40 80, .evaluate 0, .updateSMC (1 / 4) 60 80]

/-- PL1 is left 0.188 W above the floor, and the emergency is not flagged. -/
theorem emergency_above_floor :
    let s := ((recorded sampleExp {} (spikeAfter (19 / 10))).policy.evaluate sampleExp (1 / 4)).snapshot
    PolicyConfig.Ordered {} ∧ s.ready = true ∧ s.band = .emergency ∧ s.emergencyW ≤ s.inputW ∧
      s.pl1W = 5 + 47 / 250 ∧ s.nonCPUOverBudget = false ∧ ¬ EmergencyFloor {} s := by
  intro s
  have hband : s.band = .emergency := by decide +kernel
  have hpl1 : s.pl1W = 5 + 47 / 250 := by decide +kernel
  refine ⟨ordered_default, by decide +kernel, hband, by decide +kernel, hpl1, by decide +kernel, ?_⟩
  intro hfloor
  have hat := (hfloor.limits hband).1
  rw [hpl1] at hat
  exact absurd hat (by decide +kernel)

/-- From 33 W it is cut to the floor. -/
theorem emergency_floor_spikeAfter :
    EmergencyFloor {}
      ((recorded sampleExp {} (spikeAfter 30)).policy.evaluate sampleExp (1 / 4)).snapshot := by
  refine (emergency_floor_iff sampleExp ordered_default ?_ (spikeAfter 30) ?_ ?_).2 ?_
  · decide +kernel
  · decide +kernel
  · decide +kernel
  · intro _
    decide +kernel

end TurboMac.Daemon
