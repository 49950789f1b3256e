import Mathlib.Data.List.Sort
import Mathlib.Data.Rat.Floor
import TurboMac.Lib.Window

/-! # `Policy.cpp`

`GovernorPolicy`, method by method, with exact rationals for `double`; times and
powers are always finite here. `exp` stands for `std::exp`.
-/

namespace TurboMac.Daemon

open Window

def unset : ℚ := -1
def inputWindowSeconds : ℚ := 1
def packageWindowSeconds : ℚ := 1
def packageAlignmentWindowSeconds : ℚ := 2
def capacityWindowSeconds : ℚ := 10
def telemetryFreshSeconds : ℚ := 2
def nonCPURiseTauSeconds : ℚ := 1 / 4
def nonCPUFallTauSeconds : ℚ := 5
def packageAlignmentDeltaW : ℚ := 5
def limitDeadbandW : ℚ := 1 / 4
def fastRecoveryIntervalSeconds : ℚ := 1
def moderateRecoveryIntervalSeconds : ℚ := 2
def conservativeRecoveryIntervalSeconds : ℚ := 5

def clampValue (value low high : ℚ) : ℚ := max low (min value high)

inductive GovernorBand where
  | cruise
  | guard
  | shed
  | emergency
deriving DecidableEq, Repr

structure PolicyConfig where
  reserveW : ℚ := 2
  raplFloorW : ℚ := 5
  raplCeilingPL1W : ℚ := 45
  raplCeilingPL2W : ℚ := 55
  cruisePL2BurstW : ℚ := 0
  packageToInputSlope : ℚ := 1
  packageToInputInterceptW : ℚ := 0
  guardRatio : ℚ := 5661 / 10000
  shedRatio : ℚ := 6541 / 10000
  emergencyRatio : ℚ := 7296 / 10000
  cruiseTargetRatio : ℚ := 5661 / 10000
  guardTargetRatio : ℚ := 5221 / 10000
  shedTargetRatio : ℚ := 4781 / 10000
deriving DecidableEq, Repr

structure PolicySnapshot where
  band : GovernorBand := .cruise
  capacityW : ℚ := 0
  inputW : ℚ := 0
  filteredInputW : ℚ := 0
  predictedInputW : ℚ := 0
  packageW : ℚ := 0
  filteredPackageW : ℚ := 0
  alignedPackageW : ℚ := 0
  nonCPUW : ℚ := 0
  rawNonCPUObservationW : ℚ := 0
  nonCPUObservationW : ℚ := 0
  guardW : ℚ := 0
  shedW : ℚ := 0
  emergencyW : ℚ := 0
  stateTargetW : ℚ := 0
  desiredPL1W : ℚ := 0
  pl1W : ℚ := 0
  pl2W : ℚ := 0
  recoveryIntervalS : ℚ := 5
  nonCPUOverBudget : Bool := false
  ready : Bool := false
deriving DecidableEq, Repr

abbrev Sample := TimedValue ℚ ℚ

structure GovernorPolicy where
  config : PolicyConfig
  snapshot : PolicySnapshot
  inputSamples : List Sample
  packageSamples : List Sample
  capacitySamples : List Sample
  lastSMCTime : ℚ
  lastPackageTime : ℚ
  lastNonCPUTime : ℚ
  lastNonCPUSMCTime : ℚ
  guardHighSince : ℚ
  shedHighSince : ℚ
  belowShedSince : ℚ
  belowGuardSince : ℚ
  belowCruiseSince : ℚ
  lastIncreaseTime : ℚ
  nonCPUInitialized : Bool
  limitInitialized : Bool
deriving DecidableEq, Repr

/-- `validPower`. -/
def validPower (value maximum : ℚ) : Bool := decide (0 ≤ value ∧ value ≤ maximum)

/-- The middle of a sorted vector, or the mean of its two middles. -/
def middleValue (sorted : List ℚ) : ℚ :=
  let middle := sorted.length / 2
  if sorted.length % 2 = 0 then (sorted.getD (middle - 1) 0 + sorted.getD middle 0) / 2
  else sorted.getD middle 0

/-- `std::sort` of the samples' values. -/
def sortedValues (samples : List Sample) : List ℚ :=
  (samples.map (·.value)).insertionSort (· ≤ ·)

/-- `median`. -/
def median (samples : List Sample) : ℚ :=
  if samples = [] then 0 else middleValue (sortedValues samples)

/-- `elapsedOrZero`. -/
def elapsedOrZero (now start : ℚ) : ℚ := if start = unset ∨ now < start then 0 else now - start

/-- `updateCondition`: the new `*since`. -/
def updateCondition (condition : Bool) (now since : ℚ) : ℚ :=
  if condition = false then unset else if since = unset then now else since

/-- `sampleFresh`. -/
def sampleFresh (now sampleTime maximumAge : ℚ) : Bool :=
  decide (sampleTime ≠ unset ∧ sampleTime ≤ now ∧ now - sampleTime ≤ maximumAge)

namespace GovernorPolicy

/-- `reset`. -/
def reset (config : PolicyConfig) : GovernorPolicy where
  config := config
  snapshot := {}
  inputSamples := []
  packageSamples := []
  capacitySamples := []
  lastSMCTime := unset
  lastPackageTime := unset
  lastNonCPUTime := unset
  lastNonCPUSMCTime := unset
  guardHighSince := unset
  shedHighSince := unset
  belowShedSince := unset
  belowGuardSince := unset
  belowCruiseSince := unset
  lastIncreaseTime := unset
  nonCPUInitialized := false
  limitInitialized := false

/-- `expireSamples`. -/
def expireSamples (p : GovernorPolicy) (now : ℚ) : GovernorPolicy :=
  { p with
    inputSamples := expire inputWindowSeconds now p.inputSamples
    packageSamples := expire packageAlignmentWindowSeconds now p.packageSamples
    capacitySamples := expire capacityWindowSeconds now p.capacitySamples }

/-- `updateThresholds`. -/
def updateThresholds (p : GovernorPolicy) : GovernorPolicy :=
  let capacityW := median p.capacitySamples
  { p with
    snapshot := { p.snapshot with
      capacityW := capacityW
      guardW := p.config.guardRatio * capacityW
      shedW := p.config.shedRatio * capacityW
      emergencyW := p.config.emergencyRatio * capacityW } }

/-- `updateSMC`, or none if it returns false. -/
def updateSMC (p : GovernorPolicy) (nowSeconds inputW capacityW : ℚ) : Option GovernorPolicy :=
  if nowSeconds < 0 ∨ (p.lastSMCTime ≠ unset ∧ nowSeconds < p.lastSMCTime) ∨
      validPower inputW 250 = false ∨ validPower capacityW 250 = false ∨ capacityW < 10 then
    none
  else
    let p : GovernorPolicy := { p with
      inputSamples := p.inputSamples ++ [⟨nowSeconds, inputW⟩]
      capacitySamples := p.capacitySamples ++ [⟨nowSeconds, capacityW⟩]
      lastSMCTime := nowSeconds
      snapshot := { p.snapshot with inputW := inputW } }
    some (p.expireSamples nowSeconds).updateThresholds

/-- `updatePackagePower`, or none if it returns false. -/
def updatePackagePower (p : GovernorPolicy) (nowSeconds packageW : ℚ) : Option GovernorPolicy :=
  if nowSeconds < 0 ∨ (p.lastPackageTime ≠ unset ∧ nowSeconds < p.lastPackageTime) ∨
      validPower packageW 200 = false then
    none
  else
    some { p with
      lastPackageTime := nowSeconds
      snapshot := { p.snapshot with packageW := packageW }
      packageSamples := p.packageSamples ++ [⟨nowSeconds, packageW⟩] }

/-- `filteredInput`. -/
def filteredInput (p : GovernorPolicy) : ℚ :=
  if p.inputSamples = [] then 0
  else (p.inputSamples.map (·.value)).sum / p.inputSamples.length

/-- `filteredPackage`. -/
def filteredPackage (p : GovernorPolicy) (now : ℚ) : ℚ :=
  median (p.packageSamples.filter fun s =>
    decide (s.time ≤ now ∧ now - s.time ≤ packageWindowSeconds))

/-- `alignedPackage`. -/
def alignedPackage (p : GovernorPolicy) (now : ℚ) : ℚ :=
  p.packageSamples.foldl (fun peak s =>
    if s.time ≤ now ∧ now - s.time ≤ packageAlignmentWindowSeconds then max peak s.value else peak)
    p.snapshot.filteredPackageW

/-- `recoveryInterval`. -/
def recoveryInterval (p : GovernorPolicy) : ℚ :=
  let headroom := p.snapshot.guardW - max p.snapshot.inputW p.snapshot.predictedInputW
  if p.snapshot.capacityW ≤ 0 then conservativeRecoveryIntervalSeconds
  else if 1 / 10 * p.snapshot.capacityW ≤ headroom then fastRecoveryIntervalSeconds
  else if 1 / 20 * p.snapshot.capacityW ≤ headroom then moderateRecoveryIntervalSeconds
  else conservativeRecoveryIntervalSeconds

/-- `targetForBand`. -/
def targetForBand (p : GovernorPolicy) : ℚ :=
  match p.snapshot.band with
  | .cruise => p.config.cruiseTargetRatio * p.snapshot.capacityW
  | .guard => p.config.guardTargetRatio * p.snapshot.capacityW
  | .shed => p.config.shedTargetRatio * p.snapshot.capacityW
  | .emergency => p.config.raplFloorW

/-- The observation `updateNonCPU` filters: an upward one is blocked while the
package envelope is well above the package power. -/
def nonCPUObservation (p : GovernorPolicy) (rawObservation : ℚ) : ℚ :=
  if p.nonCPUInitialized ∧ p.snapshot.nonCPUW < rawObservation ∧
      packageAlignmentDeltaW ≤ p.snapshot.alignedPackageW - p.snapshot.filteredPackageW then
    p.snapshot.nonCPUW
  else rawObservation

/-- The filter step of `updateNonCPU`. -/
def filteredNonCPU (exp : ℚ → ℚ) (p : GovernorPolicy) (now observation : ℚ) : ℚ :=
  let elapsed := clampValue (now - p.lastNonCPUTime) 0 2
  let tau := if p.snapshot.nonCPUW < observation then nonCPURiseTauSeconds else nonCPUFallTauSeconds
  let alpha := if elapsed ≤ 0 then 0 else 1 - exp (-elapsed / tau)
  max 0 (p.snapshot.nonCPUW + alpha * (observation - p.snapshot.nonCPUW))

/-- `updateNonCPU`. -/
def updateNonCPU (exp : ℚ → ℚ) (p : GovernorPolicy) (now : ℚ) : GovernorPolicy :=
  if p.lastSMCTime = p.lastNonCPUSMCTime then p
  else
    let rawObservation := max 0 (p.snapshot.filteredInputW - p.snapshot.filteredPackageW)
    let observation := p.nonCPUObservation rawObservation
    { p with
      snapshot := { p.snapshot with
        rawNonCPUObservationW := rawObservation
        nonCPUObservationW := observation
        nonCPUW := if p.nonCPUInitialized then p.filteredNonCPU exp now observation else observation }
      nonCPUInitialized := true
      lastNonCPUTime := now
      lastNonCPUSMCTime := p.lastSMCTime }

/-- `emergency` of `updateBand`. -/
def emergency (p : GovernorPolicy) : Bool :=
  decide (p.snapshot.emergencyW ≤ p.snapshot.inputW ∨
    p.snapshot.emergencyW ≤ p.snapshot.predictedInputW)

def setBand (p : GovernorPolicy) (band : GovernorBand) : GovernorPolicy :=
  { p with snapshot := { p.snapshot with band := band } }

/-- The `switch` of `updateBand`. -/
def switchBand (p : GovernorPolicy) (now : ℚ) : GovernorPolicy :=
  match p.snapshot.band with
  | .cruise =>
    if 1 ≤ elapsedOrZero now p.shedHighSince then p.setBand .shed
    else if 2 ≤ elapsedOrZero now p.guardHighSince then p.setBand .guard
    else p
  | .guard =>
    -- the only switch upwards that ends a recovery under way
    if 1 ≤ elapsedOrZero now p.shedHighSince then
      { p.setBand .shed with belowCruiseSince := unset }
    else
      let cruiseRecovery := p.snapshot.guardW - 3 / 100 * p.snapshot.capacityW
      let since := updateCondition (decide (p.snapshot.filteredInputW < cruiseRecovery)) now
        p.belowCruiseSince
      if 15 ≤ elapsedOrZero now since then { p.setBand .cruise with belowCruiseSince := unset }
      else { p with belowCruiseSince := since }
  | .shed =>
    let since := updateCondition (decide (p.snapshot.filteredInputW < p.snapshot.guardW)) now
      p.belowGuardSince
    if 10 ≤ elapsedOrZero now since then { p.setBand .guard with belowGuardSince := unset }
    else { p with belowGuardSince := since }
  | .emergency =>
    let since := updateCondition (decide (p.snapshot.filteredInputW < p.snapshot.shedW)) now
      p.belowShedSince
    if 5 ≤ elapsedOrZero now since then { p.setBand .shed with belowShedSince := unset }
    else { p with belowShedSince := since }

/-- `updateBand`. -/
def updateBand (p : GovernorPolicy) (now : ℚ) : GovernorPolicy :=
  if p.emergency then
    { p.setBand .emergency with
      belowShedSince := unset
      belowGuardSince := unset
      belowCruiseSince := unset }
  else
    switchBand { p with
      guardHighSince := updateCondition (decide (p.snapshot.guardW ≤ p.snapshot.filteredInputW)) now
        p.guardHighSince
      shedHighSince := updateCondition (decide (p.snapshot.shedW ≤ p.snapshot.filteredInputW)) now
        p.shedHighSince } now

/-- The new `pl1W` and `lastIncreaseTime_` of `updateLimits`. -/
def nextPL1 (p : GovernorPolicy) (now desiredPL1 recoveryIntervalS : ℚ) : ℚ × ℚ :=
  if p.limitInitialized = false then (desiredPL1, now)
  else if desiredPL1 < p.snapshot.pl1W - limitDeadbandW then (desiredPL1, now)
  else if p.snapshot.pl1W + limitDeadbandW < desiredPL1 ∧
      recoveryIntervalS ≤ elapsedOrZero now p.lastIncreaseTime then
    (min desiredPL1 (p.snapshot.pl1W + 1), now)
  else (p.snapshot.pl1W, p.lastIncreaseTime)

/-- `updateLimits`. -/
def updateLimits (p : GovernorPolicy) (now : ℚ) : GovernorPolicy :=
  let stateTargetW := p.targetForBand
  let desiredPL1 := clampValue (stateTargetW - p.snapshot.nonCPUW - p.config.reserveW)
    p.config.raplFloorW p.config.raplCeilingPL1W
  let recoveryIntervalS := p.recoveryInterval
  let (pl1W, lastIncreaseTime) := p.nextPL1 now desiredPL1 recoveryIntervalS
  let desiredPL2 := if p.snapshot.band = .cruise then pl1W + max 0 p.config.cruisePL2BurstW else pl1W
  { p with
    snapshot := { p.snapshot with
      stateTargetW := stateTargetW
      desiredPL1W := desiredPL1
      recoveryIntervalS := recoveryIntervalS
      pl1W := pl1W
      pl2W := clampValue desiredPL2 pl1W p.config.raplCeilingPL2W }
    limitInitialized := true
    lastIncreaseTime := lastIncreaseTime }

/-- `evaluate`, up to `ready`. -/
def refresh (p : GovernorPolicy) (now : ℚ) : GovernorPolicy :=
  let p := (p.expireSamples now).updateThresholds
  let p := { p with snapshot := { p.snapshot with
    filteredInputW := p.filteredInput
    filteredPackageW := p.filteredPackage now } }
  { p with snapshot := { p.snapshot with
    alignedPackageW := p.alignedPackage now
    ready := decide (p.inputSamples ≠ [] ∧ p.packageSamples ≠ [] ∧ p.capacitySamples ≠ []) &&
      sampleFresh now p.lastSMCTime telemetryFreshSeconds &&
      sampleFresh now p.lastPackageTime telemetryFreshSeconds &&
      decide (0 < p.snapshot.capacityW) } }

/-- `predictedInputW` of `evaluate`. -/
def predict (p : GovernorPolicy) : GovernorPolicy :=
  let railEstimate := p.snapshot.filteredPackageW + p.snapshot.nonCPUW
  let calibratedEstimate := p.config.packageToInputSlope * p.snapshot.packageW +
    p.config.packageToInputInterceptW
  { p with snapshot := { p.snapshot with
    predictedInputW := max railEstimate calibratedEstimate + p.config.reserveW } }

/-- `nonCPUOverBudget` of `evaluate`. -/
def flagOverBudget (p : GovernorPolicy) : GovernorPolicy :=
  { p with snapshot := { p.snapshot with
    nonCPUOverBudget := decide (p.snapshot.band = .emergency ∧
      p.snapshot.pl1W ≤ p.config.raplFloorW + 1 / 20) && p.emergency } }

/-- `evaluate`; its result is the snapshot. -/
def evaluate (exp : ℚ → ℚ) (p : GovernorPolicy) (nowSeconds : ℚ) : GovernorPolicy :=
  if nowSeconds < 0 then { p with snapshot := { p.snapshot with ready := false } }
  else
    let p := p.refresh nowSeconds
    if p.snapshot.ready = false then p
    else
      let p := (p.updateNonCPU exp nowSeconds).predict
      let p := (p.updateBand nowSeconds).updateLimits nowSeconds
      p.flagOverBudget

end GovernorPolicy

end TurboMac.Daemon
