import TurboMac.Daemon.Daemon
import TurboMac.Daemon.Readiness

/-! # The policy and its profile in doubles

The policy derives its limits in doubles: here each operation on a power is followed
by a rounding, under the names of the exact ones. Without rounding they are the exact
ones. Times, which decide what samples there are, are exact.
-/

namespace TurboMac.Daemon.Rounded

open Window

variable (round : ℚ → ℚ)

/-! ## `Policy.cpp` -/

/-- The middle of a sorted vector, or the mean of its two middles. -/
def middleValue (sorted : List ℚ) : ℚ :=
  let middle := sorted.length / 2
  if sorted.length % 2 = 0 then
    round (round (sorted.getD (middle - 1) 0 + sorted.getD middle 0) / 2)
  else sorted.getD middle 0

/-- `median`. -/
def median (samples : List Sample) : ℚ :=
  if samples = [] then 0 else middleValue round (sortedValues samples)

/-- `updateThresholds`. -/
def updateThresholds (p : GovernorPolicy) : GovernorPolicy :=
  let capacityW := median round p.capacitySamples
  { p with
    snapshot := { p.snapshot with
      capacityW := capacityW
      guardW := round (p.config.guardRatio * capacityW)
      shedW := round (p.config.shedRatio * capacityW)
      emergencyW := round (p.config.emergencyRatio * capacityW) } }

/-- `updateSMC`, or none if it returns false. -/
def updateSMC (p : GovernorPolicy) (nowSeconds inputW capacityW : ℚ) : Option GovernorPolicy :=
  if nowSeconds < 0 ∨ (p.lastSMCTime ≠ unset ∧ nowSeconds < p.lastSMCTime) ∨
      validPower inputW 250 = false ∨ validPower capacityW 250 = false ∨ capacityW < 10 then
    none
  else
    let p : GovernorPolicy := { p with
      inputSamples := p.inputSamples ++ [⟨nowSeconds, inputW⟩]
      capacitySamples := p.capacitySamples ++ [⟨nowSeconds, capacityW⟩]
      lastSMCTime := nowSeconds
      snapshot := { p.snapshot with inputW := inputW } }
    some (updateThresholds round (p.expireSamples nowSeconds))

/-- `filteredInput`. -/
def filteredInput (p : GovernorPolicy) : ℚ :=
  if p.inputSamples = [] then 0
  else
    round (p.inputSamples.foldl (fun total s => round (total + s.value)) 0 / p.inputSamples.length)

/-- `filteredPackage`. -/
def filteredPackage (p : GovernorPolicy) (now : ℚ) : ℚ :=
  median round (p.packageSamples.filter fun s =>
    decide (s.time ≤ now ∧ now - s.time ≤ packageWindowSeconds))

/-- `recoveryInterval`. -/
def recoveryInterval (p : GovernorPolicy) : ℚ :=
  let headroom := round (p.snapshot.guardW - max p.snapshot.inputW p.snapshot.predictedInputW)
  if p.snapshot.capacityW ≤ 0 then conservativeRecoveryIntervalSeconds
  else if round (round (1 / 10) * p.snapshot.capacityW) ≤ headroom then fastRecoveryIntervalSeconds
  else if round (round (1 / 20) * p.snapshot.capacityW) ≤ headroom then
    moderateRecoveryIntervalSeconds
  else conservativeRecoveryIntervalSeconds

/-- `targetForBand`. -/
def targetForBand (p : GovernorPolicy) : ℚ :=
  match p.snapshot.band with
  | .cruise => round (p.config.cruiseTargetRatio * p.snapshot.capacityW)
  | .guard => round (p.config.guardTargetRatio * p.snapshot.capacityW)
  | .shed => round (p.config.shedTargetRatio * p.snapshot.capacityW)
  | .emergency => p.config.raplFloorW

/-- The observation `updateNonCPU` filters. -/
def nonCPUObservation (p : GovernorPolicy) (rawObservation : ℚ) : ℚ :=
  if p.nonCPUInitialized ∧ p.snapshot.nonCPUW < rawObservation ∧
      packageAlignmentDeltaW ≤ round (p.snapshot.alignedPackageW - p.snapshot.filteredPackageW) then
    p.snapshot.nonCPUW
  else rawObservation

/-- The filter step of `updateNonCPU`. -/
def filteredNonCPU (exp : ℚ → ℚ) (p : GovernorPolicy) (now observation : ℚ) : ℚ :=
  let elapsed := clampValue (now - p.lastNonCPUTime) 0 2
  let tau := if p.snapshot.nonCPUW < observation then nonCPURiseTauSeconds else nonCPUFallTauSeconds
  -- `exp` is any function, that of the rounded quotient included
  let alpha := if elapsed ≤ 0 then 0 else round (1 - exp (-elapsed / tau))
  max 0 (round (p.snapshot.nonCPUW + round (alpha * round (observation - p.snapshot.nonCPUW))))

/-- `updateNonCPU`. -/
def updateNonCPU (exp : ℚ → ℚ) (p : GovernorPolicy) (now : ℚ) : GovernorPolicy :=
  if p.lastSMCTime = p.lastNonCPUSMCTime then p
  else
    let rawObservation := max 0 (round (p.snapshot.filteredInputW - p.snapshot.filteredPackageW))
    let observation := nonCPUObservation round p rawObservation
    { p with
      snapshot := { p.snapshot with
        rawNonCPUObservationW := rawObservation
        nonCPUObservationW := observation
        nonCPUW :=
          if p.nonCPUInitialized then filteredNonCPU round exp p now observation else observation }
      nonCPUInitialized := true
      lastNonCPUTime := now
      lastNonCPUSMCTime := p.lastSMCTime }

/-- The `switch` of `updateBand`. -/
def switchBand (p : GovernorPolicy) (now : ℚ) : GovernorPolicy :=
  match p.snapshot.band with
  | .guard =>
    if 1 ≤ elapsedOrZero now p.shedHighSince then
      { p.setBand .shed with belowCruiseSince := unset }
    else
      let cruiseRecovery :=
        round (p.snapshot.guardW - round (round (3 / 100) * p.snapshot.capacityW))
      let since := updateCondition (decide (p.snapshot.filteredInputW < cruiseRecovery)) now
        p.belowCruiseSince
      if 15 ≤ elapsedOrZero now since then { p.setBand .cruise with belowCruiseSince := unset }
      else { p with belowCruiseSince := since }
  -- no arithmetic in the others
  | .cruise | .shed | .emergency => p.switchBand now

/-- `updateBand`. -/
def updateBand (p : GovernorPolicy) (now : ℚ) : GovernorPolicy :=
  if p.emergency then
    { p.setBand .emergency with
      belowShedSince := unset
      belowGuardSince := unset
      belowCruiseSince := unset }
  else
    switchBand round { p with
      guardHighSince := updateCondition (decide (p.snapshot.guardW ≤ p.snapshot.filteredInputW)) now
        p.guardHighSince
      shedHighSince := updateCondition (decide (p.snapshot.shedW ≤ p.snapshot.filteredInputW)) now
        p.shedHighSince } now

/-- The new `pl1W` and `lastIncreaseTime_` of `updateLimits`. -/
def nextPL1 (p : GovernorPolicy) (now desiredPL1 recoveryIntervalS : ℚ) : ℚ × ℚ :=
  if p.limitInitialized = false then (desiredPL1, now)
  else if desiredPL1 < round (p.snapshot.pl1W - limitDeadbandW) then (desiredPL1, now)
  else if round (p.snapshot.pl1W + limitDeadbandW) < desiredPL1 ∧
      recoveryIntervalS ≤ elapsedOrZero now p.lastIncreaseTime then
    (min desiredPL1 (round (p.snapshot.pl1W + 1)), now)
  else (p.snapshot.pl1W, p.lastIncreaseTime)

/-- `updateLimits`. -/
def updateLimits (p : GovernorPolicy) (now : ℚ) : GovernorPolicy :=
  let stateTargetW := targetForBand round p
  let desiredPL1 := clampValue (round (round (stateTargetW - p.snapshot.nonCPUW) - p.config.reserveW))
    p.config.raplFloorW p.config.raplCeilingPL1W
  let recoveryIntervalS := recoveryInterval round p
  let (pl1W, lastIncreaseTime) := nextPL1 round p now desiredPL1 recoveryIntervalS
  let desiredPL2 :=
    if p.snapshot.band = .cruise then round (pl1W + max 0 p.config.cruisePL2BurstW) else pl1W
  { p with
    snapshot := { p.snapshot with
      stateTargetW := stateTargetW
      desiredPL1W := desiredPL1
      recoveryIntervalS := recoveryIntervalS
      pl1W := pl1W
      pl2W := clampValue desiredPL2 pl1W p.config.raplCeilingPL2W }
    limitInitialized := true
    lastIncreaseTime := lastIncreaseTime }

/-- `evaluate`, up to `ready`. -/
def refresh (p : GovernorPolicy) (now : ℚ) : GovernorPolicy :=
  let p := updateThresholds round (p.expireSamples now)
  let p := { p with snapshot := { p.snapshot with
    filteredInputW := filteredInput round p
    filteredPackageW := filteredPackage round p now } }
  { p with snapshot := { p.snapshot with
    alignedPackageW := p.alignedPackage now
    ready := decide (p.inputSamples ≠ [] ∧ p.packageSamples ≠ [] ∧ p.capacitySamples ≠ []) &&
      sampleFresh now p.lastSMCTime telemetryFreshSeconds &&
      sampleFresh now p.lastPackageTime telemetryFreshSeconds &&
      decide (0 < p.snapshot.capacityW) } }

/-- `predictedInputW` of `evaluate`. -/
def predict (p : GovernorPolicy) : GovernorPolicy :=
  let railEstimate := round (p.snapshot.filteredPackageW + p.snapshot.nonCPUW)
  let calibratedEstimate := round (round (p.config.packageToInputSlope * p.snapshot.packageW) +
    p.config.packageToInputInterceptW)
  { p with snapshot := { p.snapshot with
    predictedInputW := round (max railEstimate calibratedEstimate + p.config.reserveW) } }

/-- `nonCPUOverBudget` of `evaluate`. -/
def flagOverBudget (p : GovernorPolicy) : GovernorPolicy :=
  { p with snapshot := { p.snapshot with
    nonCPUOverBudget := decide (p.snapshot.band = .emergency ∧
      p.snapshot.pl1W ≤ round (p.config.raplFloorW + round (1 / 20))) && p.emergency } }

/-- `evaluate`; its result is the snapshot. -/
def evaluate (exp : ℚ → ℚ) (p : GovernorPolicy) (nowSeconds : ℚ) : GovernorPolicy :=
  if nowSeconds < 0 then { p with snapshot := { p.snapshot with ready := false } }
  else
    let p := refresh round p nowSeconds
    if p.snapshot.ready = false then p
    else
      let p := predict round (updateNonCPU round exp p nowSeconds)
      let p := updateLimits round (updateBand round p nowSeconds) nowSeconds
      flagOverBudget round p

/-- The policy after a call; one that returns false leaves it. -/
def after (exp : ℚ → ℚ) (p : GovernorPolicy) : PolicyCall → GovernorPolicy
  | .updateSMC now inputW capacityW => (updateSMC round p now inputW capacityW).getD p
  | .updatePackagePower now packageW => (p.updatePackagePower now packageW).getD p
  | .evaluate now => evaluate round exp p now

/-- The policy after some calls, the first of them first. -/
def feed (exp : ℚ → ℚ) (calls : List PolicyCall) (p : GovernorPolicy) : GovernorPolicy :=
  calls.foldl (after round exp) p

/-- `armGovernor`. -/
def armGovernor (exp : ℚ → ℚ) (d : TurboMacDaemon) (reason : String) (answers : ArmAnswers) :
    Bool × TurboMacDaemon :=
  TurboMacDaemon.armEvaluated { d with policy := evaluate round exp d.policy answers.now } reason
    answers

/-! ### Without rounding -/

section

variable (exp : ℚ → ℚ) (p : GovernorPolicy) (now : ℚ)

theorem filteredInput_id : filteredInput id p = p.filteredInput := by
  have hsum : p.inputSamples.foldl (fun total s => id (total + s.value)) 0 =
      (p.inputSamples.map (·.value)).sum := by
    rw [List.sum_eq_foldl, List.foldl_map]
    rfl
  unfold filteredInput GovernorPolicy.filteredInput
  rw [hsum]
  rfl

theorem refresh_id : refresh id p now = p.refresh now := by
  unfold refresh GovernorPolicy.refresh
  simp only [filteredInput_id]
  rfl

theorem updateBand_id : updateBand id p now = p.updateBand now := by
  have hswitch : ∀ p : GovernorPolicy, switchBand id p now = p.switchBand now := by
    intro p
    unfold switchBand GovernorPolicy.switchBand
    cases p.snapshot.band <;> rfl
  unfold updateBand
  rw [hswitch]
  rfl

/-- The exact policy is the one without rounding. -/
theorem evaluate_id : evaluate id exp p now = p.evaluate exp now := by
  unfold evaluate GovernorPolicy.evaluate
  simp only [refresh_id, updateBand_id]
  rfl

theorem feed_id (calls : List PolicyCall) (f : Fed) :
    feed id exp calls f.policy = (Daemon.feed exp calls f).policy := by
  have hcall : ∀ (f : Fed) (call : PolicyCall),
      after id exp f.policy call = (call.after exp f).policy := by
    intro f call
    cases call with
    | updateSMC now inputW capacityW =>
        have hupdate : updateSMC id f.policy now inputW capacityW =
            f.policy.updateSMC now inputW capacityW := rfl
        unfold after PolicyCall.after
        dsimp only
        rw [hupdate]
        cases f.policy.updateSMC now inputW capacityW <;> rfl
    | updatePackagePower now packageW =>
        unfold after PolicyCall.after
        dsimp only
        cases f.policy.updatePackagePower now packageW <;> rfl
    | evaluate now => exact evaluate_id exp f.policy now
  induction calls generalizing f with
  | nil => rfl
  | cons call calls ih =>
      unfold feed Daemon.feed at ih ⊢
      rw [List.foldl_cons, List.foldl_cons, hcall, ih]

end

/-! ## The profile -/

/-- The numbers of a profile as `parseDouble` leaves them. -/
def roundNumbers (p : CalibrationProfile) : CalibrationProfile :=
  { p with
    calibratedCapacityW := round p.calibratedCapacityW
    reserveW := round p.reserveW
    raplFloorW := round p.raplFloorW
    raplCeilingPL1W := round p.raplCeilingPL1W
    raplCeilingPL2W := round p.raplCeilingPL2W
    cruisePL2BurstW := round p.cruisePL2BurstW
    packageToInputSlope := round p.packageToInputSlope
    packageToInputInterceptW := round p.packageToInputInterceptW
    guardRatio := round p.guardRatio
    shedRatio := round p.shedRatio
    emergencyRatio := round p.emergencyRatio
    cruiseTargetRatio := round p.cruiseTargetRatio
    guardTargetRatio := round p.guardTargetRatio
    shedTargetRatio := round p.shedTargetRatio }

/-- `load`, of what the protected file holds, if it can be read. -/
def load (file : Except String Text) : Except String CalibrationProfile := do
  let content ← file
  if 16384 < content.length then throw "profile is too large"
  let values ← ProfileStore.readLines (content.splitOn '\n')
  let read ← ProfileStore.readValues values
  let profile := roundNumbers round read
  -- to doubles the bounds of `validate` are those of the source, by `validate_bounds`
  if ProfileStore.validate profile then return profile
  else throw "calibration profile failed bounds validation"

/-- `profileFitsCapabilities`. -/
def profileFitsCapabilities (capabilities : Capabilities) (profile : CalibrationProfile) : Bool :=
  let driverFloor := round (capabilities.minimumPowerMW.toNat / 1000)
  let driverMaximum := round (capabilities.maximumPowerMW.toNat / 1000)
  decide (¬ (round (profile.raplFloorW + round (1 / 5)) < driverFloor ∨
    round (driverMaximum + round (1 / 5)) < profile.raplCeilingPL1W ∨
    round (driverMaximum + round (1 / 5)) < profile.raplCeilingPL2W))

/-- `loadProfile`: `profile_`, if it is valid. -/
def loadProfile (capabilities : Capabilities) (identity : MachineIdentity)
    (file : Except String Text) : Option CalibrationProfile :=
  match load round file with
  | .error _ => none
  | .ok profile =>
    if ProfileStore.«matches» profile identity && profileFitsCapabilities round capabilities profile then
      some profile
    else none

/-- `configurePolicy`, with a profile. -/
def policyConfig (capabilities : Capabilities) (profile : CalibrationProfile) : PolicyConfig :=
  -- a maximum or a minimum of doubles is one of them
  let currentPL1 := round (rawLimitW capabilities.currentPackageLimitRaw false
    capabilities.raplPowerExponent)
  let currentPL2 := round (rawLimitW capabilities.currentPackageLimitRaw true
    capabilities.raplPowerExponent)
  let floor : ℚ := max 1 (round (capabilities.minimumPowerMW.toNat / 1000))
  { reserveW := profile.reserveW
    raplFloorW := max floor profile.raplFloorW
    raplCeilingPL1W := min currentPL1 profile.raplCeilingPL1W
    raplCeilingPL2W := min currentPL2 profile.raplCeilingPL2W
    cruisePL2BurstW := profile.cruisePL2BurstW
    packageToInputSlope := profile.packageToInputSlope
    packageToInputInterceptW := profile.packageToInputInterceptW
    guardRatio := profile.guardRatio
    shedRatio := profile.shedRatio
    emergencyRatio := profile.emergencyRatio
    cruiseTargetRatio := profile.cruiseTargetRatio
    guardTargetRatio := profile.guardTargetRatio
    shedTargetRatio := profile.shedTargetRatio }

/-- The bounds of `validate` that are no doubles let the same doubles pass as their doubles. -/
theorem validate_bounds {x : ℚ} (hx : Double.round x = x) :
    (1 / 10 ≤ x ↔ Double.round (1 / 10) ≤ x) ∧ (x ≤ 95 / 100 ↔ x ≤ Double.round (95 / 100)) ∧
      (5 / 100 ≤ x ↔ Double.round (5 / 100) ≤ x) := by
  have htenth : 1 / 10 ≤ Double.round (1 / 10) := by decide +kernel
  have hhigh : Double.round (95 / 100) ≤ 95 / 100 := by decide +kernel
  have htwentieth : 5 / 100 ≤ Double.round (5 / 100) := by decide +kernel
  refine ⟨⟨?_, htenth.trans⟩, ⟨?_, fun hle => hle.trans hhigh⟩, ⟨?_, htwentieth.trans⟩⟩
  · exact Double.isRounding.le_of_le hx
  · exact Double.isRounding.ge_of_ge hx
  · exact Double.isRounding.le_of_le hx

section

variable (capabilities : Capabilities)

theorem load_id (file : Except String Text) : load id file = ProfileStore.load file := rfl

theorem loadProfile_id (identity : MachineIdentity) (file : Except String Text) :
    loadProfile id capabilities identity file = Daemon.loadProfile capabilities identity file := rfl

theorem policyConfig_id (d : TurboMacDaemon) (p : CalibrationProfile) (h : d.profile = some p) :
    policyConfig id d.capabilities p = d.policyConfig := by
  unfold TurboMacDaemon.policyConfig
  rw [h]
  rfl

end

end TurboMac.Daemon.Rounded
