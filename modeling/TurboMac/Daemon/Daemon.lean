import TurboMac.Daemon.Energy
import TurboMac.Daemon.Policy
import TurboMac.Daemon.Profile
import TurboMac.Kext.Hardware
import TurboMac.Lib.Double

/-! # `main.cpp`: `TurboMacDaemon`

The daemon's methods between `initialize` and the end of `run`, without those of
the calibration. What the driver, AppleSMC and the clock answer is an argument
of each method, and what the daemon does is logged, newest first. The member
`profile` is `profile_` where `profileValid_` holds; members that only the log
and the status read have no counterpart.
-/

namespace TurboMac.Daemon

open Kext (U32 U64 protocolVersion)

def raplSampleInterval : ℚ := 1 / 10
def raplFallbackInterval : ℚ := 1
def smcFastInterval : ℚ := 1 / 4
def smcFallbackInterval : ℚ := 1
def telemetryRecoverySamples : U32 := 20
def autoArmTelemetrySeconds : ℚ := 10

def driverArmed : U32 := 1
def capabilityLimitLocked : U32 := BitVec.twoPow 32 2
def capabilityBidirProchotEnabled : U32 := BitVec.twoPow 32 3
def hwpStatusSupported : U32 := BitVec.twoPow 32 0
def hwpStatusEnabled : U32 := BitVec.twoPow 32 1
def hwpStatusMaximumRestricted : U32 := BitVec.twoPow 32 4
def hwpStatusOverrideActive : U32 := BitVec.twoPow 32 5
def hwpStatusCaptureValid : U32 := BitVec.twoPow 32 6
def hwpStatusReadbackValid : U32 := BitVec.twoPow 32 7
def hwpStatusEnabledByTurboMac : U32 := BitVec.twoPow 32 8
def hwpStatusFailsafeRequestActive : U32 := BitVec.twoPow 32 10

/-! ## What the driver and AppleSMC answer -/

/-- `TurboMacCapabilities`. -/
structure Capabilities where
  flags : U32
  raplPowerExponent : U32
  raplEnergyExponent : U32
  minimumPowerMW : U32
  maximumPowerMW : U32
  currentPackageLimitRaw : U64

/-- `TurboMacTelemetry`. -/
structure Telemetry where
  version : U32
  size : U32
  packageEnergyRaw : U64
  appliedPL1MW : U32
  appliedPL2MW : U32
  driverState : U32

def telemetrySize : U32 := 64

/-- `TurboMacDriverStatus`. -/
structure DriverStatus where
  driverState : U32
  appliedPL1MW : U32
  appliedPL2MW : U32

/-- `TurboMacHWPStatus`. -/
structure HWPStatus where
  version : U32
  size : U32
  flags : U32
  hwpMode : U32

def hwpStatusSize : U32 := 1600

/-- A value that `readSMCValue` has read and decoded, with its four-character type. -/
structure SMCValue where
  value : ℚ
  type : U32

/-- The keys `sampleSMC` reads, none where `readSMCValue` returns false. -/
structure SMCReading where
  pdtr : Option SMCValue
  acpw : Option SMCValue

/-- The answers of one `armGovernor`. -/
structure ArmAnswers where
  now : ℚ
  capabilities : Option Capabilities
  passiveHWP : Option HWPStatus
  arm : Bool
  status : Option DriverStatus
  armedHWP : Option HWPStatus
  disarm : Bool

/-- The answers of one `tick`. -/
structure TickInput where
  now : ℚ
  telemetry : Option Telemetry
  smc : SMCReading
  update : Bool
  disarm : Bool
  arm : ArmAnswers

/-- What the daemon does: samples, evaluations of `tick` and resets of the policy, calls
of the driver, and entries of the log. -/
inductive Event where
  | smcSample (time : ℚ) (accepted : Bool)
  | packageSample (time : ℚ)
  | raplInvalid
  | ticked (time : ℚ) (ready : Bool) (smcFailures : U32)
  | policyReset
  | driverArm (pl1MW pl2MW hwpMode : U32)
  | driverUpdate (pl1MW pl2MW : U32)
  | driverDisarm
  | driverRestoredGuard
  | governorArmed (reason : String)
  | governorDisarmed (reason : String)
  | controlFailure
  | autoArmRefused

structure TurboMacDaemon where
  driverOpen : Bool
  policy : GovernorPolicy
  capabilities : Capabilities
  telemetry : Telemetry
  profile : Option CalibrationProfile
  armed : Bool
  operationActive : Bool
  stopRequested : Bool
  nextRAPLTime : ℚ
  nextSMCTime : ℚ
  lastDriverUpdateTime : ℚ
  validTelemetrySince : ℚ
  /-- none for `NAN` -/
  latestCPUDieTemperatureC : Option ℚ
  lastCPUDieReadTime : ℚ
  latestInputW : ℚ
  energyTracker : EnergyTracker
  smcFailures : U32
  smcSuccesses : U32
  smcErrorSerial : U64
  raplSuccesses : U32
  raplErrorSerial : U64
  smcSampleSerial : U64
  pdtrType : U32
  acpwType : U32
  log : List Event

/-- `wattsToMW` of the double nearest to `watts`; `llround` rounds half away from zero. -/
def wattsToMW (watts : ℚ) : U32 :=
  if watts ≤ 0 then 0
  else BitVec.ofInt 32 ⌊Double.round (Double.round watts * 1000) + 1 / 2⌋

/-- `rawLimitW`. -/
def rawLimitW (raw : U64) (second : Bool) (exponent : U32) : ℚ :=
  let field := if second then Kext.raplPl2Raw raw else Kext.raplPl1Raw raw
  (Kext.raplRawToMW field exponent).toNat / 1000

/-- `passiveHWPReady`: the mode to arm with. -/
def passiveHWPReady (status : Option HWPStatus) : Option U32 :=
  match status with
  | none => none
  | some status =>
    let required := hwpStatusEnabled ||| hwpStatusMaximumRestricted ||| hwpStatusReadbackValid
    if status.version ≠ protocolVersion ∨ status.size ≠ hwpStatusSize then none
    else if status.flags &&& hwpStatusSupported = 0 ∨ status.flags &&& hwpStatusOverrideActive ≠ 0 then
      none
    else if status.flags &&& hwpStatusEnabled = 0 then some Kext.hwpBootstrapAndReleaseMaximum
    else if status.flags &&& required ≠ required ∨
        (status.flags &&& hwpStatusEnabledByTurboMac ≠ 0 ∧
          status.flags &&& hwpStatusFailsafeRequestActive = 0) then none
    else some Kext.hwpReleaseMaximum

/-- `armedHWPVerified`. -/
def armedHWPVerified (status : Option HWPStatus) : Bool :=
  match status with
  | none => false
  | some status =>
    let required := hwpStatusSupported ||| hwpStatusEnabled ||| hwpStatusOverrideActive |||
      hwpStatusCaptureValid ||| hwpStatusReadbackValid
    decide (status.version = protocolVersion ∧ status.size = hwpStatusSize ∧
      status.flags &&& required = required ∧
      (status.hwpMode = Kext.hwpReleaseMaximum ∨
        status.hwpMode = Kext.hwpBootstrapAndReleaseMaximum))

/-- The readback of `armGovernor`. -/
def armReadback (status : Option DriverStatus) (pl1MW pl2MW : U32) : Bool :=
  match status with
  | none => false
  | some status =>
    decide (status.driverState = driverArmed ∧
      |(status.appliedPL1MW.toNat : ℤ) - pl1MW.toNat| ≤ 200 ∧
      |(status.appliedPL2MW.toNat : ℤ) - pl2MW.toNat| ≤ 200)

/-- `profileFitsCapabilities`. -/
def profileFitsCapabilities (capabilities : Capabilities) (profile : CalibrationProfile) : Bool :=
  let driverFloor : ℚ := capabilities.minimumPowerMW.toNat / 1000
  let driverMaximum : ℚ := capabilities.maximumPowerMW.toNat / 1000
  decide (¬ (profile.raplFloorW + 1 / 5 < driverFloor ∨
    driverMaximum + 1 / 5 < profile.raplCeilingPL1W ∨
    driverMaximum + 1 / 5 < profile.raplCeilingPL2W))

/-- `loadProfile`: `profile_`, if it is valid. A file that is missing cannot be read. -/
def loadProfile (capabilities : Capabilities) (identity : MachineIdentity)
    (file : Except String Text) : Option CalibrationProfile :=
  match ProfileStore.load file with
  | .error _ => none
  | .ok profile =>
    if ProfileStore.«matches» profile identity && profileFitsCapabilities capabilities profile then
      some profile
    else none

namespace TurboMacDaemon

def write (d : TurboMacDaemon) (e : Event) : TurboMacDaemon := { d with log := e :: d.log }

/-- What the driver returns: nothing once its connection is closed. -/
def answer {α : Type} (d : TurboMacDaemon) (a : Option α) : Option α :=
  if d.driverOpen then a else none

/-- A command to the driver, and whether it succeeds. -/
def command (d : TurboMacDaemon) (e : Event) (success : Bool) : Bool × TurboMacDaemon :=
  if d.driverOpen then (success, d.write e) else (false, d)

/-- The configuration `configurePolicy` gives the policy. -/
def policyConfig (d : TurboMacDaemon) : PolicyConfig :=
  let currentPL1 := rawLimitW d.capabilities.currentPackageLimitRaw false
    d.capabilities.raplPowerExponent
  let currentPL2 := rawLimitW d.capabilities.currentPackageLimitRaw true
    d.capabilities.raplPowerExponent
  let floor : ℚ := max 1 (d.capabilities.minimumPowerMW.toNat / 1000)
  match d.profile with
  | none => { raplFloorW := floor, raplCeilingPL1W := currentPL1, raplCeilingPL2W := currentPL2 }
  | some profile =>
    { reserveW := profile.reserveW
      raplFloorW := max floor profile.raplFloorW
      raplCeilingPL1W := min currentPL1 profile.raplCeilingPL1W
      raplCeilingPL2W := min currentPL2 profile.raplCeilingPL2W
      cruisePL2BurstW := profile.cruisePL2BurstW
      packageToInputSlope := profile.packageToInputSlope
      packageToInputInterceptW := profile.packageToInputInterceptW
      guardRatio := profile.guardRatio
      shedRatio := profile.shedRatio
      emergencyRatio := profile.emergencyRatio
      cruiseTargetRatio := profile.cruiseTargetRatio
      guardTargetRatio := profile.guardTargetRatio
      shedTargetRatio := profile.shedTargetRatio }

/-- `configurePolicy`. -/
def configurePolicy (d : TurboMacDaemon) : TurboMacDaemon :=
  { d with
    policy := .reset d.policyConfig
    energyTracker := .reset
    raplSuccesses := 0
    validTelemetrySince := -1
    log := .policyReset :: d.log }

/-- The readings `sampleSMC` hands to the policy. -/
def smcPower (d : TurboMacDaemon) (initial : Bool) (reading : SMCReading) :
    Option (SMCValue × SMCValue) :=
  match reading.pdtr, reading.acpw with
  | some pdtr, some acpw =>
    if pdtr.value < 0 ∨ 250 < pdtr.value ∨ acpw.value < 10 ∨ 250 < acpw.value then none
    else if initial = false ∧ (pdtr.type ≠ d.pdtrType ∨ acpw.type ≠ d.acpwType) then none
    else some (pdtr, acpw)
  | _, _ => none

/-- `sampleSMC`. -/
def sampleSMC (d : TurboMacDaemon) (now : ℚ) (initial : Bool) (reading : SMCReading) :
    Bool × TurboMacDaemon :=
  let sample := do
    let (pdtr, acpw) ← d.smcPower initial reading
    -- a sample that `updateSMC` refuses counts as one that could not be read
    let policy ← d.policy.updateSMC now pdtr.value acpw.value
    return (pdtr, acpw, policy)
  match sample with
  | none =>
    (false, { d with
      smcFailures := d.smcFailures + 1
      smcSuccesses := 0
      smcErrorSerial := d.smcErrorSerial + 1
      nextSMCTime := now + smcFallbackInterval
      log := .smcSample now false :: d.log })
  | some (pdtr, acpw, policy) =>
    (true, { d with
      policy := policy
      pdtrType := if initial then pdtr.type else d.pdtrType
      acpwType := if initial then acpw.type else d.acpwType
      latestInputW := pdtr.value
      smcFailures := 0
      smcSuccesses := d.smcSuccesses + 1
      smcSampleSerial := d.smcSampleSerial + 1
      nextSMCTime := now +
        if telemetryRecoverySamples ≤ d.smcSuccesses + 1 ∨ d.smcErrorSerial = 0 then smcFastInterval
        else smcFallbackInterval
      log := .smcSample now true :: d.log })

/-- The policy after an energy sample, or none if the sample is not accepted. -/
def packagePolicy (d : TurboMacDaemon) (now : ℚ) : EnergySampleResult → Option GovernorPolicy
  | .invalid => none
  | .baseline => some d.policy
  | .valid watts => d.policy.updatePackagePower now watts

/-- The end of an accepted `sampleRAPL`. -/
def raplAccepted (d : TurboMacDaemon) (now : ℚ) (driverState : U32) : TurboMacDaemon :=
  let d := { d with
    raplSuccesses := d.raplSuccesses + 1
    nextRAPLTime := now +
      if telemetryRecoverySamples ≤ d.raplSuccesses + 1 ∨ d.raplErrorSerial = 0 then
        raplSampleInterval
      else raplFallbackInterval }
  if d.armed && driverState != driverArmed then
    { d with
      armed := false
      validTelemetrySince := -1
      log := .driverRestoredGuard :: d.log }
  else d

/-- `sampleRAPL`. -/
def sampleRAPL (d : TurboMacDaemon) (now : ℚ) (telemetry : Option Telemetry) :
    Bool × TurboMacDaemon :=
  let current := (d.answer telemetry).filter fun current =>
    decide (current.version = protocolVersion ∧ current.size = telemetrySize)
  match current with
  -- `nextRAPLTime` stays, so the next tick asks again
  | none =>
    (false, { d with
      raplErrorSerial := d.raplErrorSerial + 1
      log := .raplInvalid :: d.log })
  | some current =>
    let (result, tracker) := d.energyTracker.sample (current.packageEnergyRaw.setWidth 32)
      d.capabilities.raplEnergyExponent now
    match d.packagePolicy now result with
    -- the tracker has moved on even where its sample is refused
    | none =>
      (false, { d with
        energyTracker := tracker
        telemetry := current
        raplSuccesses := 0
        raplErrorSerial := d.raplErrorSerial + 1
        nextRAPLTime := now + raplFallbackInterval
        log := .raplInvalid :: d.log })
    | some policy =>
      let d := { d with
        energyTracker := tracker
        telemetry := current
        policy := policy
        log := match result with
          | .valid _ => .packageSample now :: d.log
          | _ => d.log }
      (true, d.raplAccepted now current.driverState)

/-- `refreshCPUDieTemperature`, with what `readCPUDie` reads and the time after it. -/
def refreshCPUDieTemperature (d : TurboMacDaemon) (temperatureC : Option ℚ) (now : ℚ) :
    Bool × TurboMacDaemon :=
  match temperatureC with
  | none => (false, d)
  | some temperatureC =>
    (true, { d with
      latestCPUDieTemperatureC := some temperatureC
      lastCPUDieReadTime := now })

/-- `applyPolicy`. -/
def applyPolicy (d : TurboMacDaemon) (snapshot : PolicySnapshot) (now : ℚ) (success : Bool) :
    Bool × TurboMacDaemon :=
  let pl1MW := wattsToMW snapshot.pl1W
  let pl2MW := wattsToMW snapshot.pl2W
  let changed := pl1MW != d.telemetry.appliedPL1MW || pl2MW != d.telemetry.appliedPL2MW
  if !changed && decide (now - d.lastDriverUpdateTime < 1) then (true, d)
  else
    let (updated, d) := d.command (.driverUpdate pl1MW pl2MW) success
    if !updated then (false, d) else (true, { d with lastDriverUpdateTime := now })

/-- `armGovernor`, past the evaluation. -/
def armEvaluated (d : TurboMacDaemon) (reason : String) (answers : ArmAnswers) :
    Bool × TurboMacDaemon :=
  let now := answers.now
  let snapshot := d.policy.snapshot
  let permitted := (d.answer answers.capabilities).any fun current =>
    current.flags &&& capabilityBidirProchotEnabled != 0 &&
      current.flags &&& capabilityLimitLocked == 0
  if d.profile.isNone || !snapshot.ready || decide (d.validTelemetrySince < 0) ||
      decide (now - d.validTelemetrySince < autoArmTelemetrySeconds) || !permitted then
    (false, d)
  else
    match passiveHWPReady (d.answer answers.passiveHWP) with
    | none => (false, d)
    | some hwpMode =>
      let pl1MW := wattsToMW snapshot.pl1W
      let pl2MW := wattsToMW snapshot.pl2W
      let (armed, d) := d.command (.driverArm pl1MW pl2MW hwpMode) answers.arm
      -- from here on the driver is armed, so a readback that differs disarms it
      if !armed then (false, d)
      else if !armReadback (d.answer answers.status) pl1MW pl2MW ||
          !armedHWPVerified (d.answer answers.armedHWP) then
        (false, (d.command .driverDisarm answers.disarm).2)
      else
        (true, { d with
          armed := true
          lastDriverUpdateTime := now
          log := .governorArmed reason :: d.log })

/-- `armGovernor`. -/
def armGovernor (exp : ℚ → ℚ) (d : TurboMacDaemon) (reason : String) (answers : ArmAnswers) :
    Bool × TurboMacDaemon :=
  armEvaluated { d with policy := d.policy.evaluate exp answers.now } reason answers

/-- `disarmGovernor`. -/
def disarmGovernor (d : TurboMacDaemon) (reason : String) (success : Bool) :
    Bool × TurboMacDaemon :=
  let (success, d) := if d.driverOpen then d.command .driverDisarm success else (true, d)
  let d := { d with armed := false, validTelemetrySince := -1 }.configurePolicy
  (success, d.write (.governorDisarmed reason))

/-- The samples that are due at the start of `tick`. -/
def sampleTelemetry (d : TurboMacDaemon) (input : TickInput) : TurboMacDaemon :=
  let d := if d.nextRAPLTime ≤ input.now then (d.sampleRAPL input.now input.telemetry).2 else d
  if d.nextSMCTime ≤ input.now then (d.sampleSMC input.now false input.smc).2 else d

/-- The evaluation of `tick`, and the time since which its telemetry is valid. -/
def evaluate (exp : ℚ → ℚ) (d : TurboMacDaemon) (now : ℚ) : TurboMacDaemon :=
  let policy := d.policy.evaluate exp now
  { d with
    policy := policy
    validTelemetrySince :=
      if policy.snapshot.ready && d.smcFailures == 0 then
        if d.validTelemetrySince < 0 then now else d.validTelemetrySince
      else -1
    log := .ticked now policy.snapshot.ready d.smcFailures :: d.log }

/-- Whether `tick` arms by itself. -/
def autoArms (d : TurboMacDaemon) (allowAutoArm : Bool) (now : ℚ) : Bool :=
  allowAutoArm && !d.operationActive && d.profile.any (·.autoArm) &&
    decide (0 ≤ d.validTelemetrySince ∧ autoArmTelemetrySeconds ≤ now - d.validTelemetrySince)

/-- `tick`, past the evaluation. -/
def control (exp : ℚ → ℚ) (d : TurboMacDaemon) (applyControl allowAutoArm : Bool)
    (input : TickInput) : TurboMacDaemon :=
  let snapshot := d.policy.snapshot
  if d.armed then
    if decide (3 ≤ d.smcFailures) || !snapshot.ready then
      (d.disarmGovernor (if 3 ≤ d.smcFailures then "three invalid SMC samples"
        else "telemetry stale over two seconds") input.disarm).2
    else if applyControl then
      let (applied, d) := d.applyPolicy snapshot input.now input.update
      -- `driver_.close()`: it is the client's end that makes the driver restore
      if !applied then
        { d with
          driverOpen := false
          armed := false
          stopRequested := true
          log := .controlFailure :: d.log }
      else d
    else d
  else if d.autoArms allowAutoArm input.now then
    let (armed, d) := d.armGovernor exp "auto-arm" input.arm
    -- ten more seconds until the next try
    if !armed then
      { d with
        validTelemetrySince := input.now
        log := .autoArmRefused :: d.log }
    else d
  else d

/-- `tick`. -/
def tick (exp : ℚ → ℚ) (d : TurboMacDaemon) (applyControl allowAutoArm : Bool)
    (input : TickInput) : TurboMacDaemon :=
  ((d.sampleTelemetry input).evaluate exp input.now).control exp applyControl allowAutoArm input

/-! ## `initialize` and `run` -/

/-- The constructor, and the driver opened. -/
def opened (capabilities : Capabilities) : TurboMacDaemon where
  driverOpen := true
  policy := .reset {}
  capabilities := capabilities
  telemetry := ⟨0, 0, 0, 0, 0, 0⟩
  profile := none
  armed := false
  operationActive := false
  stopRequested := false
  nextRAPLTime := 0
  nextSMCTime := 0
  lastDriverUpdateTime := 0
  validTelemetrySince := -1
  latestCPUDieTemperatureC := none
  lastCPUDieReadTime := -1
  latestInputW := 0
  energyTracker := .reset
  smcFailures := 0
  smcSuccesses := 0
  smcErrorSerial := 0
  raplSuccesses := 0
  raplErrorSerial := 0
  smcSampleSerial := 0
  pdtrType := 0
  acpwType := 0
  log := []

/-- `initialize`, with the profile `loadProfile` accepts; none if it fails. -/
def initialized (capabilities : Capabilities) (profile : Option CalibrationProfile) (now : ℚ)
    (reading : SMCReading) : Option TurboMacDaemon :=
  let (success, d) := (opened capabilities).sampleSMC now true reading
  if !success then none
  else
    let d := { d with profile := profile }.configurePolicy
    some { d with nextRAPLTime := now, nextSMCTime := now + smcFastInterval }

end TurboMacDaemon

/-- The calls of the daemon's methods by `run`, its commands and the validation. -/
inductive Op where
  | tick (applyControl allowAutoArm : Bool) (input : TickInput)
  | armGovernor (reason : String) (answers : ArmAnswers)
  | disarmGovernor (reason : String) (success : Bool)
  /-- a status, or a look at the policy between two ticks -/
  | evaluate (now : ℚ)
  /-- a supervised operation begins or ends -/
  | supervise (active : Bool)
  /-- the end of `waitForValidTelemetry` -/
  | telemetryValid (since : ℚ)

/-- The readings of the clock. -/
def Op.times : Op → List ℚ
  | .tick _ _ input => [input.now, input.arm.now]
  | .armGovernor _ answers => [answers.now]
  | .evaluate now => [now]
  | .disarmGovernor _ _ | .supervise _ | .telemetryValid _ => []

/-- The daemon after a call. -/
def Op.after (exp : ℚ → ℚ) (op : Op) (d : TurboMacDaemon) : TurboMacDaemon :=
  match op with
  | .tick applyControl allowAutoArm input => d.tick exp applyControl allowAutoArm input
  | .armGovernor reason answers => (d.armGovernor exp reason answers).2
  | .disarmGovernor reason success => (d.disarmGovernor reason success).2
  | .evaluate now => { d with policy := d.policy.evaluate exp now }
  | .supervise active => { d with operationActive := active }
  | .telemetryValid since => { d with validTelemetrySince := since }

/-- The daemon after some calls, the first of them first. -/
def run (exp : ℚ → ℚ) (ops : List Op) (d : TurboMacDaemon) : TurboMacDaemon :=
  ops.foldl (fun d op => op.after exp d) d

end TurboMac.Daemon
