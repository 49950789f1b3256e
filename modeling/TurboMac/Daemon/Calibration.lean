import TurboMac.Daemon.Load

/-! # `main.cpp`: the searches of `runCalibration`

The sweep raises both limits by 2 W until a load reaches the soft stop, the package no
longer responds or the ceiling is passed; the burst search then raises the second limit
over the last tier that leaves the reserve. What is fitted to the points and saved is
left out. The limits are whole watts, and the doubles of their bounds are rounded where
they are compared; what the loads average is exact.
-/

namespace TurboMac.Daemon

open Kext (U32)

/-! ## `Calibration.h` -/

structure CalibrationPoint where
  requestedLimitW : ℚ
  averagePackageW : ℚ
  averageInputW : ℚ

/-- `turboMacCalibrationTierResponsive`. -/
def calibrationTierResponsive (requestedLimitW averagePackageW : ℚ) : Bool :=
  decide (0 < requestedLimitW ∧ max 1 (requestedLimitW * (65 / 100)) ≤ averagePackageW ∧
    averagePackageW ≤ requestedLimitW + 2)

/-- `turboMacCalibrationBelowEffectiveFloor`. -/
def calibrationBelowEffectiveFloor (requestedLimitW averagePackageW : ℚ) : Bool :=
  decide (0 < requestedLimitW ∧ requestedLimitW + 2 < averagePackageW)

/-- `turboMacCalibrationBurstBase`. -/
def calibrationBurstBase (mapping : List CalibrationPoint) (guardW reserveW : ℚ) : ℚ :=
  if guardW ≤ 0 ∨ reserveW < 0 then 0
  else
    mapping.foldl (fun selected point =>
      if 0 < point.requestedLimitW ∧ point.averageInputW + reserveW ≤ guardW then
        max selected point.requestedLimitW
      else selected) 0

/-! ## What the loads and the client answer -/

/-- What a `runLoad` leaves. -/
structure LoadOutcome where
  result : LoadResult
  error : String
  statistics : LoadStatistics

/-- One run of a tier, and whether the client takes its announcement. -/
structure TierRun where
  told : Bool
  outcome : LoadOutcome

/-- One turn of the sweep: the flag as its test finds it, whether the client takes the
announcement, the runs, and whether it takes the result. -/
structure TierInput where
  stopRequested : Bool
  told : Bool
  runs : List TierRun
  accepted : Bool

/-- The answers of the searches: the HWP status, whether the client takes the report on it,
the turns of the sweep, the guard threshold after it, and the runs of each burst. -/
structure CalibrationInputs where
  passiveHWP : Option HWPStatus
  told : Bool
  tiers : List TierInput
  guardW : ℚ
  bursts : List (List LoadOutcome)

def disconnected : String := "supervising client disconnected"

/-- A bound of a loop, `+ 0.01`. -/
def withTolerance (watts : ℚ) : ℚ := Double.round (watts + Double.round (1 / 100))

/-! ## The sweep -/

namespace LoadStatistics

/-- The runs of a tier together. -/
def merge (step run : LoadStatistics) : LoadStatistics where
  inputTotal := step.inputTotal + run.inputTotal
  packageTotal := step.packageTotal + run.packageTotal
  peakInput := max step.peakInput run.peakInput
  peakTemperature := max step.peakTemperature run.peakTemperature
  worstTransientError := max step.worstTransientError run.worstTransientError
  samples := step.samples + run.samples

end LoadStatistics

/-- The variables of the loop over the runs of a tier, and the limits passed to
`setManualLimits` so far, newest first. -/
structure TierStep where
  statistics : LoadStatistics
  stopSweep : Bool
  error : String
  requests : List (ℚ × ℚ)

/-- The runs of a tier that are left; none if there are more than the answers. -/
def tierRuns (limit : ℚ) : ℕ → List TierRun → TierStep → Option TierStep
  | 0, _, s => some s
  | _ + 1, [], _ => none
  | runs + 1, input :: inputs, s =>
    if !input.told then some { s with error := disconnected }
    else
      let s := { s with error := input.outcome.error, requests := (limit, limit) :: s.requests }
      match input.outcome.result with
      | .abort => some { s with stopSweep := true }
      | .softCeiling => some { s with stopSweep := true, error := "" }
      | .complete =>
        tierRuns limit runs inputs { s with statistics := s.statistics.merge input.outcome.statistics }

/-- The variables of the sweep. -/
structure SweepState where
  limit : ℚ
  mapping : List CalibrationPoint
  responsiveFloor : ℚ
  lastSafeLimit : ℚ
  worstError : ℚ
  error : String
  requests : List (ℚ × ℚ)

/-- The verdict on a tier that has been run, and whether the sweep goes on. -/
def SweepState.tier (s : SweepState) (statistics : LoadStatistics) (accepted : Bool) :
    Bool × SweepState :=
  let averagePackage := statistics.averagePackage
  if !calibrationTierResponsive s.limit averagePackage then
    if s.responsiveFloor = 0 ∧ calibrationBelowEffectiveFloor s.limit averagePackage then
      (true, { s with limit := s.limit + 2 })
    else (false, s)
  else
    let s := { s with
      mapping := s.mapping ++ [⟨s.limit, averagePackage, statistics.averageInput⟩]
      worstError := max s.worstError statistics.worstTransientError
      lastSafeLimit := s.limit
      responsiveFloor := if s.responsiveFloor = 0 then s.limit else s.responsiveFloor }
    if !accepted then (false, { s with error := disconnected })
    else if softCalibrationInputW ≤ statistics.peakInput + 2 then (false, s)
    else (true, { s with limit := s.limit + 2 })

/-- The sweep; none if it turns once more than there are answers. -/
def sweep (sweepCeiling : ℚ) : List TierInput → SweepState → Option SweepState
  | [], _ => none
  | input :: inputs, s =>
    if withTolerance sweepCeiling < s.limit ∨ input.stopRequested then some s
    else if !input.told then some { s with error := disconnected }
    else
      (tierRuns s.limit 3 input.runs ⟨{}, false, s.error, s.requests⟩).bind fun step =>
        let s := { s with error := step.error, requests := step.requests }
        if step.stopSweep then some s
        else
          let (continues, s) := s.tier step.statistics input.accepted
          if continues then sweep sweepCeiling inputs s else some s

/-! ## The burst search -/

/-- The variables of the burst search. -/
structure BurstState where
  burst : ℚ
  selectedBurst : ℚ
  worstError : ℚ
  error : String
  requests : List (ℚ × ℚ)

/-- The runs of a burst that are left, and whether they have all been accepted. -/
def burstRuns (burstBase : ℚ) : ℕ → List LoadOutcome → BurstState → Option (Bool × BurstState)
  | 0, _, s => some (true, s)
  | _ + 1, [], _ => none
  | runs + 1, outcome :: outcomes, s =>
    let s := { s with
      error := outcome.error
      requests := (burstBase, burstBase + s.burst) :: s.requests }
    if outcome.result ≠ .complete then some (false, s)
    else burstRuns burstBase runs outcomes
      { s with worstError := max s.worstError outcome.statistics.worstTransientError }

/-- The burst search; none if it turns once more than there are answers. -/
def burstSearch (burstBase burstMaximum : ℚ) : List (List LoadOutcome) → BurstState → Option BurstState
  | [], s => if withTolerance burstMaximum < s.burst then some s else none
  | runs :: inputs, s =>
    if withTolerance burstMaximum < s.burst then some s
    else
      (burstRuns burstBase 3 runs s).bind fun (accepted, s) =>
        if !accepted then some s
        else burstSearch burstBase burstMaximum inputs
          { s with burst := s.burst + 2, selectedBurst := s.burst }

/-! ## The searches together -/

namespace Capabilities

def driverFloor (current : Capabilities) : ℚ :=
  max 1 (Double.round (current.minimumPowerMW.toNat / 1000))

/-- `capturedPL1` and `capturedPL2`. -/
def capturedW (current : Capabilities) (second : Bool) : ℚ :=
  Double.round (rawLimitW current.currentPackageLimitRaw second current.raplPowerExponent)

def driverMaximum (current : Capabilities) : ℚ :=
  Double.round (current.maximumPowerMW.toNat / 1000)

def sweepCeiling (current : Capabilities) : ℚ :=
  min (min (current.capturedW false) (current.capturedW true)) current.driverMaximum

def burstMaximum (current : Capabilities) (burstBase : ℚ) : ℚ :=
  min 10 (Double.round (current.capturedW true - burstBase))

/-- The limit the sweep starts with. -/
def firstLimit (current : Capabilities) : ℚ := (⌈max current.driverFloor 5⌉ : ℤ)

/-- The checks of `runCalibration` on the capabilities. -/
def calibratable (current : Capabilities) : Bool :=
  current.flags &&& capabilityBidirProchotEnabled != 0 &&
    current.flags &&& capabilityLimitLocked == 0 &&
    decide (current.firstLimit ≤ current.sweepCeiling)

end Capabilities

/-- `reserve`. -/
def calibrationReserve (worstError : ℚ) : ℚ := max 2 (⌈(max 0 worstError + 1 / 2) * 2⌉ / 2)

/-- What the searches come to. -/
structure CalibrationSearch where
  mapping : List CalibrationPoint
  lastSafeLimit : ℚ
  selectedBurst : ℚ
  worstError : ℚ
  error : String
  requests : List (ℚ × ℚ)

/-- After the sweep. -/
def SweepState.search (s : SweepState) (current : Capabilities) (inputs : CalibrationInputs) :
    Option CalibrationSearch :=
  let burstBase := calibrationBurstBase s.mapping inputs.guardW (calibrationReserve s.worstError)
  if s.error ≠ "" ∨ s.responsiveFloor = 0 ∨ s.lastSafeLimit = 0 ∨ burstBase ≤ 0 then
    some ⟨s.mapping, s.lastSafeLimit, 0, s.worstError, s.error, s.requests⟩
  else
    (burstSearch burstBase (current.burstMaximum burstBase) inputs.bursts
      ⟨2, 0, s.worstError, s.error, s.requests⟩).map fun b =>
        ⟨s.mapping, s.lastSafeLimit, b.selectedBurst, b.worstError, b.error, b.requests⟩

/-- The searches of `runCalibration`; none if they take other turns. -/
def Capabilities.calibrate (current : Capabilities) (inputs : CalibrationInputs) :
    Option CalibrationSearch :=
  if !current.calibratable || (passiveHWPReady inputs.passiveHWP).isNone || !inputs.told then
    some ⟨[], 0, 0, 0, "", []⟩
  else
    (sweep current.sweepCeiling inputs.tiers
      ⟨current.firstLimit, [], 0, 0, 0, "", []⟩).bind fun s => s.search current inputs

end TurboMac.Daemon
