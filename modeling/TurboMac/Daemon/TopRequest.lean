import TurboMac.Daemon.Rounded

/-! # The highest limits the policy derives

A capacity is at most 250 W and what is not the CPU's is never negative, so that the
highest target is known from the configuration alone. It is derived from the first
samples of an idle machine at 250 W, unless the configuration predicts an emergency
at any capacity. Rounding changes nothing about it, as it keeps the order.
-/

namespace TurboMac.Daemon

open Window

variable {round : ℚ → ℚ}

/-! ## The median -/

namespace Rounded

/-- The middle of values in a range that the rounding does not leave. -/
theorem middleValue_mem (hround : IsRounding round) {sorted : List ℚ} {n : ℤ} (hn : 2 * |n| < 2 ^ 53)
    (h : ∀ v ∈ sorted, 0 ≤ v ∧ v ≤ n) (hpos : 0 ≤ n) :
    0 ≤ middleValue round sorted ∧ middleValue round sorted ≤ n := by
  have hget : ∀ i, 0 ≤ sorted.getD i 0 ∧ sorted.getD i 0 ≤ n := by
    intro i
    rw [List.getD_eq_getElem?_getD]
    cases hi : sorted[i]? with
    | none =>
        have hzero : (0 : ℚ) ≤ n := by exact_mod_cast hpos
        exact ⟨le_refl _, hzero⟩
    | some v => exact h v (List.mem_of_getElem? hi)
  have hlow := hget (sorted.length / 2 - 1)
  have hhigh := hget (sorted.length / 2)
  unfold middleValue
  dsimp only
  split
  · -- the sum of two values is at most twice as much, and its half is not more
    have hsum : round (sorted.getD (sorted.length / 2 - 1) 0 + sorted.getD (sorted.length / 2) 0) ≤
        ((2 * n : ℤ) : ℚ) := by
      apply hround.le_of_le (hround.whole (2 * n) (by rw [abs_mul]; exact hn))
      push_cast
      linarith
    have hnonneg := hround.nonneg (add_nonneg hlow.1 hhigh.1)
    push_cast at hsum
    constructor
    · exact hround.nonneg (div_nonneg hnonneg (by norm_num))
    · apply hround.le_of_le (hround.whole n (by omega))
      linarith
  · exact hhigh

theorem median_mem (hround : IsRounding round) {samples : List Sample} {n : ℤ}
    (hn : 2 * |n| < 2 ^ 53) (hpos : 0 ≤ n) (h : ∀ s ∈ samples, 0 ≤ s.value ∧ s.value ≤ n) :
    0 ≤ median round samples ∧ median round samples ≤ n := by
  unfold median
  split
  · exact ⟨le_refl _, by exact_mod_cast hpos⟩
  · apply middleValue_mem hround hn _ hpos
    intro v hv
    rw [sortedValues, List.mem_insertionSort, List.mem_map] at hv
    rcases hv with ⟨s, hs, rfl⟩
    exact h s hs

theorem median_singleton (s : Sample) : median round [s] = s.value := by
  simp [median, sortedValues, middleValue]

end Rounded

/-! ## The configuration -/

section

variable {x y low high high' : ℚ}

theorem le_clampValue : low ≤ clampValue x low high := le_max_left _ _

theorem clampValue_mono (hx : x ≤ y) (hhigh : high ≤ high') :
    clampValue x low high ≤ clampValue y low high' :=
  max_le_max_left _ (min_le_min hx hhigh)

theorem clampValue_of_le (h : x ≤ low) : clampValue x low high = low :=
  max_eq_left ((min_le_left _ _).trans h)

end

namespace PolicyConfig

variable (round) (c : PolicyConfig)

/-- `predictedInputW` is at least this. -/
def leastPrediction : ℚ := round (max 0 c.packageToInputInterceptW + c.reserveW)

/-- At 250 W the least prediction is no emergency. -/
def Leaves : Prop := c.leastPrediction round < round (c.emergencyRatio * 250)

instance : Decidable (c.Leaves round) := inferInstanceAs (Decidable (_ < _))

/-- The highest PL1. -/
def topPL1 : ℚ :=
  if c.Leaves round then
    clampValue (round (round (c.cruiseTargetRatio * 250) - c.reserveW)) c.raplFloorW c.raplCeilingPL1W
  else c.raplFloorW

/-- The highest PL2. -/
def topPL2 : ℚ :=
  if c.Leaves round then
    clampValue (round (c.topPL1 round + max 0 c.cruisePL2BurstW)) (c.topPL1 round) c.raplCeilingPL2W
  else c.topPL1 round

/-- What `validate` says of a policy, whose numbers are doubles. -/
structure Sane : Prop where
  floor : round c.raplFloorW = c.raplFloorW
  intercept : round c.packageToInputInterceptW = c.packageToInputInterceptW
  reserve : 0 ≤ c.reserveW
  slope : 0 ≤ c.packageToInputSlope
  emergency : 0 ≤ c.emergencyRatio
  cruiseTarget : 0 ≤ c.cruiseTargetRatio
  guardTarget : c.guardTargetRatio ≤ c.cruiseTargetRatio
  shedTarget : c.shedTargetRatio ≤ c.cruiseTargetRatio

theorem floor_le_topPL1 : c.raplFloorW ≤ c.topPL1 round := by
  unfold topPL1
  split
  · exact le_clampValue
  · exact le_refl _

theorem topPL1_le_topPL2 : c.topPL1 round ≤ c.topPL2 round := by
  unfold topPL2
  split
  · exact le_clampValue
  · exact le_refl _

end PolicyConfig

/-! ## What the policy keeps -/

namespace Rounded

variable (round) in
/-- The limits of a snapshot are between the floor and the top. -/
structure Within (c : PolicyConfig) (snapshot : PolicySnapshot) : Prop where
  floor_le : c.raplFloorW ≤ snapshot.pl1W
  pl1_le : snapshot.pl1W ≤ c.topPL1 round
  pl1_le_pl2 : snapshot.pl1W ≤ snapshot.pl2W
  pl2_le : snapshot.pl2W ≤ c.topPL2 round

variable (round) in
/-- The samples are in range, and so is what has been derived of them. -/
structure Bounded (c : PolicyConfig) (p : GovernorPolicy) : Prop where
  config : p.config = c
  nonCPU : 0 ≤ p.snapshot.nonCPUW
  package : 0 ≤ p.snapshot.packageW
  packageSamples : ∀ s ∈ p.packageSamples, 0 ≤ s.value ∧ s.value ≤ 200
  capacitySamples : ∀ s ∈ p.capacitySamples, 0 ≤ s.value ∧ s.value ≤ 250
  limit : p.limitInitialized = true → Within round c p.snapshot

variable {exp : ℚ → ℚ} {c : PolicyConfig} {p p' : GovernorPolicy} {now : ℚ}

/-- It speaks of the two limits alone. -/
theorem Within.of_eq {snapshot snapshot' : PolicySnapshot} (h : Within round c snapshot)
    (hpl1 : snapshot'.pl1W = snapshot.pl1W) (hpl2 : snapshot'.pl2W = snapshot.pl2W) :
    Within round c snapshot' := by
  refine ⟨?_, ?_, ?_, ?_⟩
  · rw [hpl1]
    exact h.floor_le
  · rw [hpl1]
    exact h.pl1_le
  · rw [hpl1, hpl2]
    exact h.pl1_le_pl2
  · rw [hpl2]
    exact h.pl2_le

theorem bounded_reset (c : PolicyConfig) : Bounded round c (.reset c) := by
  constructor
  · rfl
  · exact le_refl _
  · exact le_refl _
  · simp [GovernorPolicy.reset]
  · simp [GovernorPolicy.reset]
  · intro h
    cases h

/-- A new capacity, with the limits as they were. -/
structure SameLimit (p p' : GovernorPolicy) : Prop where
  config : p'.config = p.config
  limitInitialized : p'.limitInitialized = p.limitInitialized
  pl1W : p'.snapshot.pl1W = p.snapshot.pl1W
  pl2W : p'.snapshot.pl2W = p.snapshot.pl2W

theorem SameLimit.limit (h : SameLimit p p')
    (hlimit : p.limitInitialized = true → Within round c p.snapshot)
    (hp' : p'.limitInitialized = true) : Within round c p'.snapshot := by
  have hwithin := hlimit (h.limitInitialized ▸ hp')
  exact hwithin.of_eq h.pl1W h.pl2W

theorem bounded_updateSMC (h : Bounded round c p) {inputW capacityW : ℚ}
    (hexec : updateSMC round p now inputW capacityW = some p') : Bounded round c p' := by
  unfold updateSMC at hexec
  split at hexec
  · cases hexec
  rename_i haccepted
  simp only [validPower, not_or, not_lt, Bool.not_eq_false, decide_eq_true_eq] at haccepted
  rcases haccepted with ⟨_, _, _, hcapacity, _⟩
  cases hexec
  refine ⟨h.config, h.nonCPU, h.package, ?_, ?_, ?_⟩
  · intro s hs
    exact h.packageSamples s (mem_of_mem_expire hs)
  · intro s hs
    rcases List.mem_append.1 (mem_of_mem_expire hs) with hs | hs
    · exact h.capacitySamples s hs
    · rw [List.mem_singleton.1 hs]
      exact hcapacity
  · intro hinitialized
    exact (h.limit hinitialized).of_eq rfl rfl

theorem bounded_updatePackagePower (h : Bounded round c p) {packageW : ℚ}
    (hexec : p.updatePackagePower now packageW = some p') : Bounded round c p' := by
  unfold GovernorPolicy.updatePackagePower at hexec
  split at hexec
  · cases hexec
  rename_i haccepted
  simp only [validPower, not_or, not_lt, Bool.not_eq_false, decide_eq_true_eq] at haccepted
  rcases haccepted with ⟨_, _, hpackage⟩
  cases hexec
  refine ⟨h.config, h.nonCPU, hpackage.1, ?_, h.capacitySamples, ?_⟩
  · intro s hs
    rcases List.mem_append.1 hs with hs | hs
    · exact h.packageSamples s hs
    · rw [List.mem_singleton.1 hs]
      exact hpackage
  · intro hinitialized
    exact (h.limit hinitialized).of_eq rfl rfl

/-! ### `evaluate` -/

variable (round) in
/-- What an evaluation has read of the samples. -/
structure Read (p : GovernorPolicy) : Prop where
  capacity_nonneg : 0 ≤ p.snapshot.capacityW
  capacity_le : p.snapshot.capacityW ≤ 250
  emergencyW : p.snapshot.emergencyW = round (p.config.emergencyRatio * p.snapshot.capacityW)
  filteredPackage : 0 ≤ p.snapshot.filteredPackageW

theorem bounded_refresh (hround : IsRounding round) (h : Bounded round c p) (now : ℚ) :
    Bounded round c (refresh round p now) ∧ Read round (refresh round p now) := by
  have hcapacity : ∀ s ∈ expire capacityWindowSeconds now p.capacitySamples,
      0 ≤ s.value ∧ s.value ≤ 250 := fun s hs => h.capacitySamples s (mem_of_mem_expire hs)
  have hpackage : ∀ s ∈ expire packageAlignmentWindowSeconds now p.packageSamples,
      0 ≤ s.value ∧ s.value ≤ 200 := fun s hs => h.packageSamples s (mem_of_mem_expire hs)
  -- medians stay in the range of their samples, rounded or not
  have hcapacityW := median_mem (n := 250) hround (by norm_num) (by norm_num) hcapacity
  have hfiltered : 0 ≤ filteredPackage round (p.expireSamples now) now ∧
      filteredPackage round (p.expireSamples now) now ≤ (200 : ℤ) :=
    median_mem hround (by norm_num) (by norm_num) fun s hs =>
      hpackage s (List.mem_of_mem_filter hs)
  have hsame : SameLimit p (refresh round p now) := ⟨rfl, rfl, rfl, rfl⟩
  constructor
  · exact ⟨h.config, h.nonCPU, h.package, hpackage, hcapacity, hsame.limit h.limit⟩
  · exact ⟨hcapacityW.1, hcapacityW.2, rfl, hfiltered.1⟩

theorem bounded_updateNonCPU (h : Bounded round c p) (hread : Read round p) :
    Bounded round c (updateNonCPU round exp p now) ∧ Read round (updateNonCPU round exp p now) := by
  unfold updateNonCPU
  split
  · exact ⟨h, hread⟩
  · -- both the observation and the filter are cut off at 0
    have hobservation : 0 ≤ nonCPUObservation round p
        (max 0 (round (p.snapshot.filteredInputW - p.snapshot.filteredPackageW))) := by
      unfold nonCPUObservation
      split
      · exact h.nonCPU
      · exact le_max_left _ _
    refine ⟨⟨h.config, ?_, h.package, h.packageSamples, h.capacitySamples, ?_⟩,
      hread.capacity_nonneg, hread.capacity_le, hread.emergencyW, hread.filteredPackage⟩
    · dsimp only
      split
      · exact le_max_left _ _
      · exact hobservation
    · intro hinitialized
      exact (h.limit hinitialized).of_eq rfl rfl

/-- The prediction is at least the least one. -/
theorem leastPrediction_le_predict (hround : IsRounding round) (h : Bounded round c p)
    (hread : Read round p) (hc : c.Sane round) :
    c.leastPrediction round ≤ (predict round p).snapshot.predictedInputW := by
  have hrail : 0 ≤ round (p.snapshot.filteredPackageW + p.snapshot.nonCPUW) :=
    hround.nonneg (add_nonneg hread.filteredPackage h.nonCPU)
  have hslope : 0 ≤ round (c.packageToInputSlope * p.snapshot.packageW) :=
    hround.nonneg (mul_nonneg hc.slope h.package)
  have hcalibrated : c.packageToInputInterceptW ≤
      round (round (c.packageToInputSlope * p.snapshot.packageW) + c.packageToInputInterceptW) := by
    apply hround.ge_of_ge hc.intercept
    linarith
  unfold predict PolicyConfig.leastPrediction
  dsimp only
  rw [h.config]
  apply hround.mono
  apply add_le_add_left
  exact max_le_max hrail hcalibrated

/-- Nothing that the limits rest on has changed, the band apart. -/
structure SameBounds (p p' : GovernorPolicy) : Prop where
  limit : SameLimit p p'
  nonCPUW : p'.snapshot.nonCPUW = p.snapshot.nonCPUW
  packageW : p'.snapshot.packageW = p.snapshot.packageW
  packageSamples : p'.packageSamples = p.packageSamples
  capacitySamples : p'.capacitySamples = p.capacitySamples
  capacityW : p'.snapshot.capacityW = p.snapshot.capacityW
  emergencyW : p'.snapshot.emergencyW = p.snapshot.emergencyW
  filteredPackageW : p'.snapshot.filteredPackageW = p.snapshot.filteredPackageW
  ready : p'.snapshot.ready = p.snapshot.ready

theorem SameBounds.bounded (hsame : SameBounds p p') (h : Bounded round c p) : Bounded round c p' := by
  constructor
  · rw [hsame.limit.config]
    exact h.config
  · rw [hsame.nonCPUW]
    exact h.nonCPU
  · rw [hsame.packageW]
    exact h.package
  · rw [hsame.packageSamples]
    exact h.packageSamples
  · rw [hsame.capacitySamples]
    exact h.capacitySamples
  · exact hsame.limit.limit h.limit

theorem SameBounds.read (hsame : SameBounds p p') (h : Read round p) : Read round p' := by
  constructor
  · rw [hsame.capacityW]
    exact h.capacity_nonneg
  · rw [hsame.capacityW]
    exact h.capacity_le
  · rw [hsame.emergencyW, hsame.limit.config, hsame.capacityW]
    exact h.emergencyW
  · rw [hsame.filteredPackageW]
    exact h.filteredPackage

theorem sameBounds_predict (p : GovernorPolicy) : SameBounds p (predict round p) :=
  ⟨⟨rfl, rfl, rfl, rfl⟩, rfl, rfl, rfl, rfl, rfl, rfl, rfl, rfl⟩

theorem sameBounds_switchBand (p : GovernorPolicy) (now : ℚ) :
    SameBounds p (switchBand round p now) := by
  unfold switchBand GovernorPolicy.switchBand
  cases p.snapshot.band
  all_goals
    dsimp only
    split_ifs
    all_goals exact ⟨⟨rfl, rfl, rfl, rfl⟩, rfl, rfl, rfl, rfl, rfl, rfl, rfl, rfl⟩

theorem sameBounds_updateBand (p : GovernorPolicy) (now : ℚ) :
    SameBounds p (updateBand round p now) := by
  unfold updateBand
  split
  · exact ⟨⟨rfl, rfl, rfl, rfl⟩, rfl, rfl, rfl, rfl, rfl, rfl, rfl, rfl⟩
  · have hswitch := @sameBounds_switchBand round { p with
      guardHighSince := updateCondition (decide (p.snapshot.guardW ≤ p.snapshot.filteredInputW)) now
        p.guardHighSince
      shedHighSince := updateCondition (decide (p.snapshot.shedW ≤ p.snapshot.filteredInputW)) now
        p.shedHighSince } now
    exact ⟨⟨hswitch.limit.config, hswitch.limit.limitInitialized, hswitch.limit.pl1W,
      hswitch.limit.pl2W⟩, hswitch.nonCPUW, hswitch.packageW, hswitch.packageSamples,
      hswitch.capacitySamples, hswitch.capacityW, hswitch.emergencyW, hswitch.filteredPackageW,
      hswitch.ready⟩

/-- Where even 250 W predicts an emergency, there is one at any capacity. -/
theorem band_of_not_leaves (hround : IsRounding round) (h : Bounded round c p)
    (hread : Read round p) (hc : c.Sane round) (hleaves : ¬ c.Leaves round) (now : ℚ) :
    (updateBand round (predict round p) now).snapshot.band = .emergency := by
  have hprediction := leastPrediction_le_predict hround h hread hc
  have hemergency : (predict round p).snapshot.emergencyW ≤
      (predict round p).snapshot.predictedInputW := by
    have hcapacity := hround.mono (mul_le_mul_of_nonneg_left hread.capacity_le hc.emergency)
    have hemergencyW : (predict round p).snapshot.emergencyW =
        round (c.emergencyRatio * p.snapshot.capacityW) := by
      rw [← h.config]
      exact hread.emergencyW
    unfold PolicyConfig.Leaves at hleaves
    rw [hemergencyW]
    linarith
  have hband : (predict round p).emergency = true := by
    unfold GovernorPolicy.emergency
    rw [decide_eq_true_eq]
    exact .inr hemergency
  unfold updateBand
  rw [if_pos hband]
  rfl

/-! ### `updateLimits` -/

/-- No band has a target over the cruise target of 250 W, and the emergency's is the floor. -/
theorem targetForBand_le (hround : IsRounding round) (h : Bounded round c p) (hread : Read round p)
    (hc : c.Sane round) (hband : p.snapshot.band ≠ .emergency) :
    targetForBand round p ≤ round (c.cruiseTargetRatio * 250) := by
  have hle : ∀ {ratio : ℚ}, ratio ≤ c.cruiseTargetRatio →
      round (ratio * p.snapshot.capacityW) ≤ round (c.cruiseTargetRatio * 250) := by
    intro ratio hratio
    apply hround.mono
    calc ratio * p.snapshot.capacityW
        ≤ c.cruiseTargetRatio * p.snapshot.capacityW :=
          mul_le_mul_of_nonneg_right hratio hread.capacity_nonneg
      _ ≤ c.cruiseTargetRatio * 250 := mul_le_mul_of_nonneg_left hread.capacity_le hc.cruiseTarget
  unfold targetForBand
  rw [h.config]
  cases hcase : p.snapshot.band with
  | cruise => exact hle (le_refl _)
  | guard => exact hle hc.guardTarget
  | shed => exact hle hc.shedTarget
  | emergency => exact absurd hcase hband

/-- A target less what is not the CPU's, in doubles. -/
theorem desired_le (hround : IsRounding round) {target bound nonCPUW reserveW : ℚ}
    (hbound : round bound = bound) (htarget : target ≤ bound) (hnonCPU : 0 ≤ nonCPUW) :
    round (round (target - nonCPUW) - reserveW) ≤ round (bound - reserveW) := by
  apply hround.mono
  have hle : round (target - nonCPUW) ≤ bound := hround.le_of_le hbound (by linarith)
  linarith

theorem desiredPL1_le (hround : IsRounding round) (h : Bounded round c p) (hread : Read round p)
    (hc : c.Sane round) (hband : ¬ c.Leaves round → p.snapshot.band = .emergency) :
    clampValue (round (round (targetForBand round p - p.snapshot.nonCPUW) - p.config.reserveW))
      p.config.raplFloorW p.config.raplCeilingPL1W ≤ c.topPL1 round := by
  rw [h.config]
  by_cases hcase : p.snapshot.band = .emergency
  · -- the target is the floor, and what is under it is clamped to it
    have htarget : targetForBand round p = c.raplFloorW := by
      unfold targetForBand
      rw [hcase, h.config]
    have hdesired := @desired_le round hround _ _ _ c.reserveW hc.floor htarget.le h.nonCPU
    have hreserve : round (c.raplFloorW - c.reserveW) ≤ c.raplFloorW :=
      hround.le_of_le hc.floor (by linarith [hc.reserve])
    rw [clampValue_of_le (hdesired.trans hreserve)]
    exact c.floor_le_topPL1 round
  · -- the target is at most that of the cruise band at 250 W
    have hleaves : c.Leaves round := by
      by_contra hnot
      exact hcase (hband hnot)
    have htarget := targetForBand_le hround h hread hc hcase
    unfold PolicyConfig.topPL1
    rw [if_pos hleaves]
    exact clampValue_mono (desired_le hround (hround.idem _) htarget h.nonCPU) (le_refl _)

theorem nextPL1_mem (hround : IsRounding round) (h : Bounded round c p) (hc : c.Sane round)
    {desiredPL1 recoveryIntervalS : ℚ} (hge : c.raplFloorW ≤ desiredPL1)
    (hle : desiredPL1 ≤ c.topPL1 round) :
    c.raplFloorW ≤ (nextPL1 round p now desiredPL1 recoveryIntervalS).1 ∧
      (nextPL1 round p now desiredPL1 recoveryIntervalS).1 ≤ c.topPL1 round := by
  unfold nextPL1
  split
  · exact ⟨hge, hle⟩
  rename_i hinitialized
  have hwithin := h.limit (by simpa using hinitialized)
  split
  · exact ⟨hge, hle⟩
  split
  · -- a step of 1 W up from the limit, which is not under the floor
    refine ⟨le_min hge (hround.ge_of_ge hc.floor ?_), (min_le_left _ _).trans hle⟩
    linarith [hwithin.floor_le]
  · exact ⟨hwithin.floor_le, hwithin.pl1_le⟩

theorem within_updateLimits (hround : IsRounding round) (h : Bounded round c p)
    (hread : Read round p) (hc : c.Sane round)
    (hband : ¬ c.Leaves round → p.snapshot.band = .emergency) (now : ℚ) :
    Within round c (updateLimits round p now).snapshot := by
  have hdesired := desiredPL1_le hround h hread hc hband
  have hfloor : c.raplFloorW ≤ clampValue
      (round (round (targetForBand round p - p.snapshot.nonCPUW) - p.config.reserveW))
      p.config.raplFloorW p.config.raplCeilingPL1W := by
    rw [h.config]
    exact le_clampValue
  have hpl1 := @nextPL1_mem round c p now hround h hc _ (recoveryInterval round p) hfloor hdesired
  unfold updateLimits
  dsimp only
  generalize (nextPL1 round p now _ (recoveryInterval round p)).1 = pl1W at hpl1 ⊢
  refine ⟨hpl1.1, hpl1.2, le_clampValue, ?_⟩
  split
  · -- only the cruise band has a burst, and there is no cruise band without leaving
    rename_i hcruise
    have hleaves : c.Leaves round := by
      by_contra hnot
      rw [hband hnot] at hcruise
      cases hcruise
    unfold PolicyConfig.topPL2
    rw [if_pos hleaves, h.config]
    apply max_le_max hpl1.2
    apply min_le_min_right
    apply hround.mono
    linarith [hpl1.2]
  · rw [clampValue_of_le (le_refl _)]
    exact hpl1.2.trans (c.topPL1_le_topPL2 round)

theorem bounded_updateLimits (hround : IsRounding round) (h : Bounded round c p)
    (hread : Read round p) (hc : c.Sane round)
    (hband : ¬ c.Leaves round → p.snapshot.band = .emergency) (now : ℚ) :
    Bounded round c (updateLimits round p now) := by
  have hwithin := within_updateLimits hround h hread hc hband now
  exact ⟨h.config, h.nonCPU, h.package, h.packageSamples, h.capacitySamples, fun _ => hwithin⟩

/-- The limits of a ready evaluation are between the floor and the top. -/
theorem bounded_evaluate (hround : IsRounding round) (exp : ℚ → ℚ) (h : Bounded round c p)
    (hc : c.Sane round) (now : ℚ) :
    Bounded round c (evaluate round exp p now) ∧
      ((evaluate round exp p now).snapshot.ready = true →
        Within round c (evaluate round exp p now).snapshot) := by
  unfold evaluate
  split
  · refine ⟨⟨h.config, h.nonCPU, h.package, h.packageSamples, h.capacitySamples, ?_⟩, ?_⟩
    · intro hinitialized
      exact (h.limit hinitialized).of_eq rfl rfl
    · intro hready
      cases hready
  · dsimp only
    have hrefresh := bounded_refresh hround h now
    split
    · rename_i hunready
      refine ⟨hrefresh.1, ?_⟩
      intro hready
      rw [hunready] at hready
      cases hready
    · -- ready: the band is settled before the limits, which rest on it
      have hnonCPU := @bounded_updateNonCPU round exp c _ now hrefresh.1 hrefresh.2
      generalize updateNonCPU round exp (refresh round p now) now = q at hnonCPU
      have hsame := @sameBounds_updateBand round (predict round q) now
      have hbounded := hsame.bounded ((sameBounds_predict q).bounded hnonCPU.1)
      have hread := hsame.read ((sameBounds_predict q).read hnonCPU.2)
      have hband := fun hnot => band_of_not_leaves hround hnonCPU.1 hnonCPU.2 hc hnot now
      have hlimits := bounded_updateLimits hround hbounded hread hc hband now
      have hwithin := within_updateLimits hround hbounded hread hc hband now
      refine ⟨⟨hlimits.config, hlimits.nonCPU, hlimits.package, hlimits.packageSamples,
        hlimits.capacitySamples, ?_⟩, ?_⟩
      · intro _
        exact hwithin.of_eq rfl rfl
      · intro _
        exact hwithin.of_eq rfl rfl

/-! ### Runs -/

variable (round) in
/-- The policy is bounded, and so are the limits of a ready one. -/
structure Held (c : PolicyConfig) (p : GovernorPolicy) : Prop where
  bounded : Bounded round c p
  within : p.snapshot.ready = true → Within round c p.snapshot

theorem held_reset (c : PolicyConfig) : Held round c (.reset c) := by
  constructor
  · exact bounded_reset c
  · intro hready
    cases hready

theorem held_updateSMC (h : Held round c p) {inputW capacityW : ℚ}
    (hexec : updateSMC round p now inputW capacityW = some p') : Held round c p' := by
  constructor
  · exact bounded_updateSMC h.bounded hexec
  · unfold updateSMC at hexec
    split at hexec
    · cases hexec
    · cases hexec
      intro hready
      exact (h.within hready).of_eq rfl rfl

theorem held_updatePackagePower (h : Held round c p) {packageW : ℚ}
    (hexec : p.updatePackagePower now packageW = some p') : Held round c p' := by
  constructor
  · exact bounded_updatePackagePower h.bounded hexec
  · unfold GovernorPolicy.updatePackagePower at hexec
    split at hexec
    · cases hexec
    · cases hexec
      intro hready
      exact (h.within hready).of_eq rfl rfl

theorem held_after (hround : IsRounding round) (exp : ℚ → ℚ) (h : Held round c p) (hc : c.Sane round)
    (call : PolicyCall) : Held round c (after round exp p call) := by
  cases call with
  | updateSMC now inputW capacityW =>
    unfold after
    dsimp only
    cases hexec : updateSMC round p now inputW capacityW with
    | none => exact h
    | some p => exact held_updateSMC h hexec
  | updatePackagePower now packageW =>
    unfold after
    dsimp only
    cases hexec : p.updatePackagePower now packageW with
    | none => exact h
    | some p => exact held_updatePackagePower h hexec
  | evaluate now =>
    have hevaluate := bounded_evaluate hround exp h.bounded hc now
    exact ⟨hevaluate.1, hevaluate.2⟩

/-- The limits of a ready policy are between the floor and the top after any calls. -/
theorem held_feed (hround : IsRounding round) (exp : ℚ → ℚ) (calls : List PolicyCall)
    (hc : c.Sane round) (h : Held round c p) : Held round c (feed round exp calls p) := by
  induction calls generalizing p with
  | nil => exact h
  | cons call calls ih => exact ih (held_after hround exp h hc call)

/-! ## The top is reached -/

variable (round) in
/-- The policy after the first samples of an idle machine at 250 W. -/
def idle (c : PolicyConfig) : GovernorPolicy :=
  { GovernorPolicy.reset c with
    inputSamples := [⟨0, 0⟩]
    packageSamples := [⟨0, 0⟩]
    capacitySamples := [⟨0, 250⟩]
    lastSMCTime := 0
    lastPackageTime := 0
    snapshot := {
      capacityW := 250
      guardW := round (c.guardRatio * 250)
      shedW := round (c.shedRatio * 250)
      emergencyW := round (c.emergencyRatio * 250) } }

variable (round) in
/-- Its evaluation, up to the prediction. -/
def idleRead (c : PolicyConfig) : GovernorPolicy :=
  { idle round c with
    nonCPUInitialized := true
    lastNonCPUTime := 0
    lastNonCPUSMCTime := 0
    snapshot := { (idle round c).snapshot with ready := true } }

/-- The calls of an idle machine. -/
def idleCalls : List PolicyCall := [.updateSMC 0 0 250, .updatePackagePower 0 0, .evaluate 0]

theorem feed_idle (exp : ℚ → ℚ) (c : PolicyConfig) :
    feed round exp idleCalls (.reset c) = evaluate round exp (idle round c) 0 := by
  have hsmc : updateSMC round (.reset c) 0 0 250 = some { idle round c with
      packageSamples := []
      lastPackageTime := unset } := by
    unfold updateSMC
    rw [if_neg (by norm_num [GovernorPolicy.reset, validPower])]
    simp [GovernorPolicy.reset, idle, GovernorPolicy.expireSamples, updateThresholds, expire,
      median_singleton, inputWindowSeconds, capacityWindowSeconds]
  have hpackage : ({ idle round c with
      packageSamples := []
      lastPackageTime := unset } : GovernorPolicy).updatePackagePower 0 0 = some (idle round c) := by
    unfold GovernorPolicy.updatePackagePower
    rw [if_neg (by norm_num [validPower])]
    rfl
  simp only [feed, idleCalls, List.foldl_cons, List.foldl_nil, after, hsmc, hpackage,
    Option.getD_some]

theorem refresh_idle (hround : IsRounding round) (c : PolicyConfig) :
    refresh round (idle round c) 0 =
      { idle round c with snapshot := { (idle round c).snapshot with ready := true } } := by
  simp [refresh, idle, GovernorPolicy.reset, updateThresholds, GovernorPolicy.expireSamples, expire,
    median_singleton, filteredInput, filteredPackage, GovernorPolicy.alignedPackage, sampleFresh,
    unset, inputWindowSeconds, packageWindowSeconds, packageAlignmentWindowSeconds,
    capacityWindowSeconds, telemetryFreshSeconds, hround.zero]

theorem updateNonCPU_idle (hround : IsRounding round) (exp : ℚ → ℚ) (c : PolicyConfig) :
    updateNonCPU round exp (refresh round (idle round c) 0) 0 = idleRead round c := by
  rw [refresh_idle hround]
  simp [updateNonCPU, nonCPUObservation, idleRead, idle, GovernorPolicy.reset, unset, hround.zero]

theorem predicted_idleRead (hround : IsRounding round) {c : PolicyConfig} (hc : c.Sane round) :
    (predict round (idleRead round c)).snapshot.predictedInputW = c.leastPrediction round := by
  simp [predict, idleRead, idle, GovernorPolicy.reset, PolicyConfig.leastPrediction, hround.zero,
    hc.intercept]

theorem leastPrediction_nonneg (hround : IsRounding round) {c : PolicyConfig} (hc : c.Sane round) :
    0 ≤ c.leastPrediction round :=
  hround.nonneg (add_nonneg (le_max_left _ _) hc.reserve)

/-- The band of an idle machine is cruise, unless the least prediction is an emergency. -/
theorem band_idle (hround : IsRounding round) {c : PolicyConfig} (hc : c.Sane round) :
    (updateBand round (predict round (idleRead round c)) 0).snapshot.band =
      if c.Leaves round then .cruise else .emergency := by
  have hemergency : (predict round (idleRead round c)).emergency = decide (¬ c.Leaves round) := by
    unfold GovernorPolicy.emergency
    rw [predicted_idleRead hround hc, decide_eq_decide, PolicyConfig.Leaves, not_lt]
    constructor
    · rintro (hinput | hpredicted)
      · exact hinput.trans (leastPrediction_nonneg hround hc)
      · exact hpredicted
    · exact .inr
  unfold updateBand
  rw [hemergency]
  by_cases hleaves : c.Leaves round
  · rw [if_neg (by simpa using hleaves), if_pos hleaves]
    -- whatever is high is so since now
    have hsince : ∀ condition, elapsedOrZero 0 (updateCondition condition 0 unset) = 0 := by
      intro condition
      cases condition with
      | false => rfl
      | true =>
          unfold elapsedOrZero
          split
          · rfl
          · exact sub_self 0
    have hguard : (predict round (idleRead round c)).guardHighSince = unset := rfl
    have hshed : (predict round (idleRead round c)).shedHighSince = unset := rfl
    have hband : (predict round (idleRead round c)).snapshot.band = .cruise := rfl
    unfold switchBand GovernorPolicy.switchBand
    dsimp only
    rw [hband]
    dsimp only
    rw [hguard, hshed, hsince, hsince, if_neg (by norm_num), if_neg (by norm_num)]
    exact hband
  · rw [if_neg hleaves, if_pos (by simpa using hleaves)]
    rfl

/-- An idle machine at 250 W has the highest limits. -/
theorem evaluate_idle (hround : IsRounding round) (exp : ℚ → ℚ) {c : PolicyConfig}
    (hc : c.Sane round) :
    (evaluate round exp (idle round c) 0).snapshot.ready = true ∧
      (evaluate round exp (idle round c) 0).snapshot.pl1W = c.topPL1 round ∧
      (evaluate round exp (idle round c) 0).snapshot.pl2W = c.topPL2 round := by
  have hready : (refresh round (idle round c) 0).snapshot.ready = true := by
    rw [refresh_idle hround]
  have hband := band_idle hround hc
  have hsame := @sameBounds_updateBand round (predict round (idleRead round c)) 0
  have hinitialized : (updateBand round (predict round (idleRead round c)) 0).limitInitialized =
      false := hsame.limit.limitInitialized
  have hconfig : (updateBand round (predict round (idleRead round c)) 0).config = c :=
    hsame.limit.config
  have hnonCPU : (updateBand round (predict round (idleRead round c)) 0).snapshot.nonCPUW = 0 :=
    hsame.nonCPUW
  have hcapacity : (updateBand round (predict round (idleRead round c)) 0).snapshot.capacityW = 250 :=
    hsame.capacityW
  have hreadyBand : (updateBand round (predict round (idleRead round c)) 0).snapshot.ready = true :=
    hsame.ready
  unfold evaluate
  rw [if_neg (lt_irrefl _)]
  dsimp only
  rw [if_neg (by rw [hready]; decide), updateNonCPU_idle hround]
  generalize updateBand round (predict round (idleRead round c)) 0 = p at *
  unfold updateLimits
  dsimp only [flagOverBudget]
  rw [nextPL1, if_pos hinitialized, targetForBand, hband, hconfig, hnonCPU, hcapacity, sub_zero]
  refine ⟨hreadyBand, ?_⟩
  by_cases hleaves : c.Leaves round
  · simp only [if_pos hleaves, PolicyConfig.topPL1, PolicyConfig.topPL2, and_self, if_true,
      hround.idem]
  · have hreserve : round (round c.raplFloorW - c.reserveW) ≤ c.raplFloorW :=
      hround.le_of_le hc.floor (by rw [hc.floor]; linarith [hc.reserve])
    simp only [if_neg hleaves, PolicyConfig.topPL1, PolicyConfig.topPL2]
    rw [clampValue_of_le hreserve]
    constructor
    · rfl
    · exact clampValue_of_le (le_refl _)

end Rounded

end TurboMac.Daemon
