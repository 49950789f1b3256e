import TurboMac.Kext.Hardware

/-! # `TurboMac.cpp`

The operations of the driver, function by function. `arm`, `update`, `disarm`
and the three notifications end in one of two ways: they return, or they call
`restoreLocked` and return; each is therefore an `Exit`, and `leave` is its end.
The lock is held throughout each of them and has no counterpart here, nor have
`IOLog` and the copies of status.
-/

namespace TurboMac.Kext

def watchdogTimeoutMS : U32 := 5000
def watchdogPollMS : U32 := 250
def passiveGuardPollMS : U32 := 1000
def hwpBootstrapLimitMW : U32 := 5000
def supportedFamily : U32 := 6
def supportedModel : U32 := 0x9e
def hwpFeatureSupported : U32 := BitVec.twoPow 32 7
def hwpFeatureEPP : U32 := BitVec.twoPow 32 10
def hwpFeaturePackageRequest : U32 := BitVec.twoPow 32 11
def hwpFeatureFlexibleRequestFields : U32 := BitVec.twoPow 32 17

/-- `tm_validate_limit_request`. -/
def validateLimitRequest (request : Option LimitRequest) (lastSequence : U64)
    (floorMW ceilingPL1MW ceilingPL2MW timeoutMS : U32) : Bool :=
  match request with
  | none => false
  | some request =>
    decide (request.version = protocolVersion ∧ request.size = limitRequestSize ∧
      request.watchdogTimeoutMS = timeoutMS ∧
      (request.hwpMode = hwpReleaseMaximum ∨ request.hwpMode = hwpBootstrapAndReleaseMaximum) ∧
      lastSequence < request.sequence ∧ floorMW ≤ request.pl1MW ∧
      request.pl1MW ≤ request.pl2MW ∧ 0 < ceilingPL1MW ∧ 0 < ceilingPL2MW ∧
      request.pl1MW ≤ ceilingPL1MW ∧ request.pl2MW ≤ ceilingPL2MW)

/-- `tm_watchdog_expired`. -/
def watchdogExpired (elapsedNanoseconds : U64) (timeoutMilliseconds : U32) : Bool :=
  decide (timeoutMilliseconds.setWidth 64 * 1000000 ≤ elapsedNanoseconds)

/-- `minimumNonZero`. -/
def minimumNonZero (first second : U32) : U32 :=
  if first = 0 then second else if second = 0 then first else if first < second then first else second

/-! ## The timer -/

def cancelTimeout : DriverM Unit :=
  assign fun d => { d with watchdog := d.watchdog.map fun _ => ⟨none⟩ }

def setTimeoutMS (timeout : U32) : DriverM Unit :=
  assign fun d => { d with watchdog := d.watchdog.map fun _ => ⟨some timeout⟩ }

/-- `scheduleWatchdogLocked`. -/
def scheduleWatchdogLocked : DriverM Unit := setTimeoutMS watchdogPollMS

/-- `schedulePassiveGuardLocked`. -/
def schedulePassiveGuardLocked : DriverM Unit := do
  let d ← getDriver
  doIf (d.supported && d.state != .armed) (setTimeoutMS passiveGuardPollMS)

section

variable (P : Platform)

/-! ## The guard -/

/-- What `readPowerControlLocked` returns through its result and its pointers,
whose targets all start as false or zero. -/
structure PowerControlRead where
  ok : Bool
  allEnabled : Bool
  allDisabled : Bool
  representative : U64

/-- Some CPU ran, none too many. -/
def PowerControlBroadcast.complete (broadcast : PowerControlBroadcast) : Bool :=
  decide (broadcast.overflow = 0 ∧ 0 < broadcast.count ∧ broadcast.count ≤ maximumLogicalCPUs)

/-- Every value of the broadcast has the guard bit set, or clear. -/
def PowerControlBroadcast.all (broadcast : PowerControlBroadcast) (enabled : Bool) : Bool :=
  decide (∀ index : CPU, index.val < broadcast.count →
    (broadcast.values index &&& enableBidirProchot != 0) = enabled)

/-- `readPowerControlLocked`. -/
def readPowerControlLocked : DriverM PowerControlRead := do
  let broadcast ← rendezvousPowerControl P .read
  if !broadcast.complete then return ⟨false, false, false, 0⟩
  assign fun d => { d with
    logicalCPUCount := BitVec.ofNat 32 broadcast.count
    currentPowerControl := broadcast.values 0 }
  return ⟨true, broadcast.all true, broadcast.all false, broadcast.values 0⟩

/-- `setPowerControlGuardLocked`. -/
def setPowerControlGuardLocked (enabled : Bool) : DriverM Bool := do
  let broadcast ← rendezvousPowerControl P (if enabled then .setGuard else .clearGuard)
  if !broadcast.complete then return false
  if !broadcast.all enabled then return false
  assign fun d => { d with
    logicalCPUCount := BitVec.ofNat 32 broadcast.count
    currentPowerControl := broadcast.values 0 }
  return true

/-- `ensurePassiveGuardLocked`. -/
def ensurePassiveGuardLocked : DriverM Bool := do
  let guard ← readPowerControlLocked P
  if !guard.ok then return false
  if guard.allEnabled then return true
  setPowerControlGuardLocked P true

/-! ## The package limit -/

/-- `validateRequestLocked`. -/
def validateRequestLocked (request : Option LimitRequest) (isArm : Bool) : DriverM Bool := do
  let d ← getDriver
  if isArm && !d.captured then
    let packageLimit ← rdmsr64 P msrPackagePowerLimit
    return validateLimitRequest request d.lastSequence d.floorMW
      (minimumNonZero (raplRawToMW (raplPl1Raw packageLimit) d.powerExponent)
        d.capabilityMaximumMW)
      (minimumNonZero (raplRawToMW (raplPl2Raw packageLimit) d.powerExponent)
        d.capabilityMaximumMW)
      watchdogTimeoutMS
  return validateLimitRequest request d.lastSequence d.floorMW
    (minimumNonZero d.ceilingPL1MW d.capabilityMaximumMW)
    (minimumNonZero d.ceilingPL2MW d.capabilityMaximumMW)
    watchdogTimeoutMS

/-- What `verifyLimitsLocked` asks of the register. -/
def limitsMatch (readback expected : U64) : Bool :=
  readback &&& limitReadbackMask == expected &&& limitReadbackMask && !raplLocked readback

/-- `verifyLimitsLocked`. -/
def verifyLimitsLocked (expected : U64) : DriverM Bool := do
  let readback ← rdmsr64 P msrPackagePowerLimit
  return limitsMatch readback expected

/-- The checks of `installLimitsLocked` before its write. -/
def limitsRefused (d : Driver) (current : U64) (pl1Raw pl2Raw : U32) : Bool :=
  raplLocked current ||
    (d.captured && (decide (raplPl1Raw d.capturedPackageLimit < pl1Raw) ||
      decide (raplPl2Raw d.capturedPackageLimit < pl2Raw))) ||
    raplLocked (raplWithPowerLimits current pl1Raw pl2Raw)

/-- `installLimitsLocked`. -/
def installLimitsLocked (pl1MW pl2MW : U32) : DriverM Bool := do
  let current ← rdmsr64 P msrPackagePowerLimit
  let d ← getDriver
  let pl1Raw := raplMWToRaw pl1MW d.powerExponent
  let pl2Raw := raplMWToRaw pl2MW d.powerExponent
  if limitsRefused d current pl1Raw pl2Raw then return false
  let requested := raplWithPowerLimits current pl1Raw pl2Raw
  wrmsr64 msrPackagePowerLimit requested
  if !(← verifyLimitsLocked P requested) then return false
  assign fun d => { d with
    expectedPackageLimit := requested
    appliedPL1MW := raplRawToMW pl1Raw d.powerExponent
    appliedPL2MW := raplRawToMW pl2Raw d.powerExponent }
  return true

/-! ## HWP -/

/-- The CPUs in a presence array. -/
def cpusPresent (present : CPU → Bool) : List CPU := (List.finRange maximumLogicalCPUs).filter present

/-- `readHWPEnableStateLocked`: its result and `*allEnabled`. `representative`
is `&hwpPMEnableRaw_` at every call. -/
def readHWPEnableStateLocked : DriverM (Bool × Bool) := do
  let hwp ← getHWP
  if !hwp.supported then return (false, false)
  let broadcast ← rendezvousHWPEnable P
  if broadcast.overflow ≠ 0 ∨ broadcast.count = 0 ∨ maximumLogicalCPUs < broadcast.count then
    return (false, false)
  let present := cpusPresent broadcast.present
  let allEnabled := present.all fun index => broadcast.values index &&& hwpEnableBit != 0
  assignHWP fun hwp => { hwp with
    pmEnableRaw := (present.head?.map broadcast.values).getD 0 }
  if present = [] ∨ present.length ≠ broadcast.count then return (false, allEnabled)
  assign fun d => { d with logicalCPUCount := BitVec.ofNat 32 present.length }
  return (true, allEnabled)

/-- `enableHWPPackageLocked`. -/
def enableHWPPackageLocked : DriverM Bool := do
  let hwp ← getHWP
  if !hwp.supported then return false
  assignHWP fun hwp => { hwp with enabled := false }
  let pmEnable ← rdmsr64 P msrHWPEnable
  assignHWP fun hwp => { hwp with pmEnableRaw := pmEnable }
  doIf (pmEnable &&& hwpEnableBit == 0) (wrmsr64 msrHWPEnable hwpEnableBit)
  let (ok, allEnabled) ← readHWPEnableStateLocked P
  if !ok || !allEnabled then return false
  assignHWP fun hwp => { hwp with enabled := true }
  return true

/-- `hwpEnabledOnCurrentCPULocked`. -/
def hwpEnabledOnCurrentCPULocked : DriverM Bool := do
  let hwp ← getHWP
  if !hwp.supported then return false
  let value ← rdmsr64 P msrHWPEnable
  return value &&& hwpEnableBit != 0

/-- `readHWPPackageRequestLocked`. -/
def readHWPPackageRequestLocked : DriverM (Option U64) := do
  let hwp ← getHWP
  if !hwp.packageRequestSupported then return none
  if !(← hwpEnabledOnCurrentCPULocked P) then return none
  return some (← rdmsr64 P msrHWPPackageRequest)

/-- `writeHWPPackageRequestLocked`. -/
def writeHWPPackageRequestLocked (value : U64) : DriverM Bool := do
  if (← readHWPPackageRequestLocked P).isNone then return false
  wrmsr64 msrHWPPackageRequest value
  return (← readHWPPackageRequestLocked P) == some value

/-- The arrays `readHWPRequestsLocked` fills in, and its count. -/
structure HWPRequests where
  values : CPU → U64
  present : CPU → Bool
  count : ℕ

/-- The arrays and the count a caller starts with. -/
def HWPRequests.zero : HWPRequests := ⟨fun _ => 0, fun _ => false, 0⟩

/-- `readHWPRequestsLocked`, from the arrays the caller passes. -/
def readHWPRequestsLocked (out : HWPRequests) : DriverM (Bool × HWPRequests) := do
  let hwp ← getHWP
  if !hwp.supported || !hwp.enabled then return (false, out)
  let broadcast ← rendezvousHWPRequest P .read
  if broadcast.overflow ≠ 0 ∨ broadcast.count = 0 ∨ maximumLogicalCPUs < broadcast.count then
    return (false, out)
  let out := { out with values := broadcast.values, present := broadcast.present }
  let presentCount := (cpusPresent broadcast.present).length
  if presentCount ≠ broadcast.count then return (false, out)
  return (true, { out with count := presentCount })

/-- `writeHWPRequestsLocked`. -/
def writeHWPRequestsLocked (values : CPU → U64) (present : CPU → Bool) : DriverM Bool := do
  let hwp ← getHWP
  if !hwp.supported || !hwp.enabled then return false
  let targets : CPU → U64 := values
  let broadcast ← rendezvousHWPRequest P (.write targets present)
  if broadcast.overflow ≠ 0 ∨ broadcast.count = 0 ∨
      broadcast.count ≠ (cpusPresent present).length then
    return false
  return decide (∀ index, present index = broadcast.present index ∧
    (present index = true → broadcast.values index = values index))

/-- `initializeHWPLocked`. -/
def initializeHWPLocked : DriverM Bool := do
  let maximumLeaf ← cpuid P 0
  -- nothing is assigned, so an earlier leaf's flags stay
  if maximumLeaf < 6 then return false
  let eax ← cpuid P 6
  assignHWP fun hwp => { hwp with
    cpuidEAX := eax
    supported := eax &&& hwpFeatureSupported != 0
    eppSupported := eax &&& hwpFeatureEPP != 0
    packageRequestSupported := eax &&& hwpFeaturePackageRequest != 0
    flexibleRequestFields := eax &&& hwpFeatureFlexibleRequestFields != 0 }
  let hwp ← getHWP
  if !hwp.supported then return false
  let (ok, allEnabled) ← readHWPEnableStateLocked P
  if !ok then
    assignHWP fun hwp => { hwp with enabled := false }
    return false
  assignHWP fun hwp => { hwp with enabled := allEnabled }
  if !allEnabled then return false
  let capabilities ← rdmsr64 P msrHWPCapabilities
  assignHWP fun hwp => { hwp with capabilitiesRaw := capabilities }
  if !hwpCapabilitiesSane capabilities then return false
  assignHWP fun hwp => { hwp with
    failSafeRequest := hwpFailsafeRequest capabilities hwp.eppSupported }
  let (ok, requests) ← readHWPRequestsLocked P .zero
  if !ok then return false
  assign fun d => { d with logicalCPUCount := BitVec.ofNat 32 requests.count }
  return true

/-- The loop of `captureHWPStateLocked`: a CPU under package control needs the
package request. Copies up to the first that does not have it. -/
def copyCapturedRequests (hwp : HWP) : Bool × HWP :=
  let refused := (cpusPresent hwp.capturedPresent).find? fun index =>
    hwpPackageControl (hwp.capturedRequests index) && !hwp.packageRequestSupported
  match refused with
  | some last =>
    (false, { hwp with expectedRequests := fun index =>
      if index < last then hwp.capturedRequests index else hwp.expectedRequests index })
  | none => (true, { hwp with expectedRequests := hwp.capturedRequests })

/-- `captureHWPStateLocked`. -/
def captureHWPStateLocked : DriverM Bool := do
  -- `hwpSupported_` is checked there as well
  let (ok, allEnabled) ← readHWPEnableStateLocked P
  if !ok || !allEnabled then
    assignHWP fun hwp => { hwp with enabled := false, capabilitiesRaw := 0 }
    return false
  assignHWP fun hwp => { hwp with enabled := true }
  let capabilities ← rdmsr64 P msrHWPCapabilities
  assignHWP fun hwp => { hwp with capabilitiesRaw := capabilities }
  if !hwpCapabilitiesSane capabilities then return false
  let hwp ← getHWP
  let (ok, requests) ← readHWPRequestsLocked P ⟨hwp.capturedRequests, hwp.capturedPresent, 0⟩
  assignHWP fun hwp => { hwp with
    capturedRequests := requests.values
    capturedPresent := requests.present }
  if !ok then return false
  assignHWP fun hwp => { hwp with capturedPackageRequest := 0 }
  if hwp.packageRequestSupported then
    match ← readHWPPackageRequestLocked P with
    | some packageRequest =>
      assignHWP fun hwp => { hwp with capturedPackageRequest := packageRequest }
      finish requests.count
    | none => return false
  else finish requests.count
where
  /-- From the loop on. -/
  finish (count : ℕ) : DriverM Bool := do
    let hwp ← getHWP
    let (ok, hwp) := copyCapturedRequests hwp
    assignHWP fun _ => hwp
    if !ok then return false
    assign fun d => { d with logicalCPUCount := BitVec.ofNat 32 count }
    assignHWP fun hwp => { hwp with
      expectedPackageRequest := hwp.capturedPackageRequest
      captured := true
      overrideActive := false
      mode := hwpModeInvalid }
    return true

/-- `verifyHWPFailSafeLocked`. -/
def verifyHWPFailSafeLocked : DriverM Bool := do
  let d ← getDriver
  if !d.hwp.enabledByTurboMac || !d.hwp.enabled || !d.hwp.failSafeActive then return false
  let (ok, current) ← readHWPRequestsLocked P .zero
  if !ok || BitVec.ofNat 32 current.count != d.logicalCPUCount then return false
  return decide (∀ index, current.present index = true →
    current.values index = d.hwp.failSafeRequest)

/-- `ensureHWPFailSafeLocked`. -/
def ensureHWPFailSafeLocked : DriverM Bool := do
  let hwp ← getHWP
  if !hwp.enabledByTurboMac || !hwp.enabled || !hwpCapabilitiesSane hwp.capabilitiesRaw ||
      decide (hwpHighest hwp.capabilitiesRaw ≤ hwpLowest hwp.capabilitiesRaw) then
    return false
  let failSafeRequest := hwpFailsafeRequest hwp.capabilitiesRaw hwp.eppSupported
  assignHWP fun hwp => { hwp with failSafeRequest := failSafeRequest }
  let (ok, current) ← readHWPRequestsLocked P .zero
  if !ok then return false
  let targets : CPU → U64 := fun index => if current.present index then failSafeRequest else 0
  if !(← writeHWPRequestsLocked P targets current.present) then return false
  assign fun d => { d with logicalCPUCount := BitVec.ofNat 32 current.count }
  assignHWP fun hwp => { hwp with
    mode := hwpModeInvalid
    overrideActive := false
    failSafeActive := true }
  verifyHWPFailSafeLocked P

/-- `bootstrapHWPLocked`, from `hwpEnabledByTurboMac_ = true` on. -/
def bootstrapEnableHWPLocked : DriverM Bool := do
  assignHWP fun hwp => { hwp with enabledByTurboMac := true }
  if !(← enableHWPPackageLocked P) then return false
  if !(← initializeHWPLocked P) then return false
  let hwp ← getHWP
  if hwpHighest hwp.capabilitiesRaw ≤ hwpLowest hwp.capabilitiesRaw then return false
  if !(← captureHWPStateLocked P) then return false
  if !(← ensureHWPFailSafeLocked P) then return false
  verifyLimitsLocked P (← getDriver).expectedPackageLimit

/-- `bootstrapHWPLocked`. -/
def bootstrapHWPLocked : DriverM Bool := do
  let d ← getDriver
  if !d.captured || !d.hwp.supported || d.hwp.enabled then return false
  if !(← verifyLimitsLocked P d.expectedPackageLimit) then return false
  let guard ← readPowerControlLocked P
  if !guard.ok || !guard.allEnabled then return false
  let (ok, allEnabled) ← readHWPEnableStateLocked P
  if !ok || allEnabled then return false
  bootstrapEnableHWPLocked P

/-- `hwpMaximumRestrictedLocked`, on the captured requests as at its only call. -/
def hwpMaximumRestricted (hwp : HWP) : Bool :=
  hwp.supported && hwp.enabled &&
    (cpusPresent hwp.capturedPresent).all (fun index =>
      let effective := hwpEffectiveMaximum (hwp.capturedRequests index)
        hwp.capturedPackageRequest hwp.flexibleRequestFields
      decide (hwpLowest hwp.capabilitiesRaw ≤ effective ∧
        effective < hwpHighest hwp.capabilitiesRaw)) &&
    decide (cpusPresent hwp.capturedPresent ≠ [])

/-- The request `applyHWPMaximumLocked` expects of a CPU. -/
def hwpMaximumRequest (hwp : HWP) (index : CPU) : U64 :=
  let captured := hwp.capturedRequests index
  if hwp.capturedPresent index = false then hwp.expectedRequests index
  else if hwp.enabledByTurboMac then hwpActiveRequest hwp.capabilitiesRaw hwp.eppSupported
  else if hwpPackageControl captured && !hwp.flexibleRequestFields then captured
  else hwpWithLocalMaximumOverride captured (hwpHighest hwp.capabilitiesRaw)
    hwp.flexibleRequestFields

/-- `packageMaximumNeeded` of `applyHWPMaximumLocked`. -/
def packageMaximumNeeded (hwp : HWP) : Bool :=
  (cpusPresent hwp.capturedPresent).any fun index =>
    !hwp.enabledByTurboMac && hwpPackageControl (hwp.capturedRequests index) &&
      !hwp.flexibleRequestFields

/-- `verifyHWPOverrideLocked`, past the package request. -/
def verifyHWPRequestsLocked : DriverM Bool := do
  let d ← getDriver
  let (ok, current) ← readHWPRequestsLocked P .zero
  if !ok || BitVec.ofNat 32 current.count != d.logicalCPUCount then return false
  return decide (∀ index, current.present index = d.hwp.capturedPresent index ∧
    (current.present index = true →
      current.values index = d.hwp.expectedRequests index ∧
      hwpEffectiveMaximum (current.values index) d.hwp.expectedPackageRequest
        d.hwp.flexibleRequestFields = hwpHighest d.hwp.capabilitiesRaw))

/-- `verifyHWPOverrideLocked`. -/
def verifyHWPOverrideLocked : DriverM Bool := do
  let hwp ← getHWP
  if !hwp.captured || !hwp.overrideActive ||
      (hwp.mode != hwpReleaseMaximum && hwp.mode != hwpBootstrapAndReleaseMaximum) then
    return false
  if hwp.packageRequestSupported then
    if (← readHWPPackageRequestLocked P) != some hwp.expectedPackageRequest then return false
    verifyHWPRequestsLocked P
  else verifyHWPRequestsLocked P

/-- The end of `applyHWPMaximumLocked`, past the package request. -/
def applyHWPRequestsLocked (mode : U32) : DriverM Bool := do
  let hwp ← getHWP
  if !(← writeHWPRequestsLocked P hwp.expectedRequests hwp.capturedPresent) then return false
  assignHWP fun hwp => { hwp with mode := mode, overrideActive := true, failSafeActive := false }
  verifyHWPOverrideLocked P

/-- `applyHWPMaximumLocked`. -/
def applyHWPMaximumLocked (mode : U32) : DriverM Bool := do
  let hwp ← getHWP
  if !hwp.captured || hwp.mode != hwpModeInvalid ||
      (mode != hwpReleaseMaximum && mode != hwpBootstrapAndReleaseMaximum) then
    return false
  let packageRequest :=
    if packageMaximumNeeded hwp then
      hwpWithMaximum hwp.capturedPackageRequest (hwpHighest hwp.capabilitiesRaw)
    else hwp.capturedPackageRequest
  assignHWP fun hwp => { hwp with
    expectedRequests := hwpMaximumRequest hwp
    expectedPackageRequest := packageRequest }
  if packageMaximumNeeded hwp then
    if !(← writeHWPPackageRequestLocked P packageRequest) then return false
    applyHWPRequestsLocked P mode
  else applyHWPRequestsLocked P mode

/-- The requests part of `restoreHWPLocked`, and its end. -/
def restoreHWPRequestsLocked (packageRestored : Bool) : DriverM Bool := do
  let hwp ← getHWP
  let requestsRestored ← writeHWPRequestsLocked P hwp.capturedRequests hwp.capturedPresent
  assignHWP fun hwp => { hwp with overrideActive := false, mode := hwpModeInvalid }
  return packageRestored && requestsRestored

/-- `restoreHWPLocked`. -/
def restoreHWPLocked : DriverM Bool := do
  let hwp ← getHWP
  if hwp.enabledByTurboMac then
    assignHWP fun hwp => { hwp with
      overrideActive := false
      mode := hwpModeInvalid
      failSafeActive := false }
    ensureHWPFailSafeLocked P
  else if !hwp.captured then return true
  else if hwp.packageRequestSupported then
    let packageRestored ← writeHWPPackageRequestLocked P hwp.capturedPackageRequest
    restoreHWPRequestsLocked P packageRestored
  else restoreHWPRequestsLocked P true

/-! ## Restore -/

/-- `verifyArmedStateLocked`. -/
def verifyArmedStateLocked : DriverM Bool := do
  let guard ← readPowerControlLocked P
  if !guard.ok || !guard.allDisabled then return false
  if !(← verifyLimitsLocked P (← getDriver).expectedPackageLimit) then return false
  verifyHWPOverrideLocked P

/-- `restoreLocked` with nothing captured. -/
def restorePassiveLocked (reason : RestoreReason) : DriverM Bool := do
  let d ← getDriver
  let guardRestored ← pure d.supported <&&> ensurePassiveGuardLocked P
  let hwpRestored ← pure (!d.hwp.enabledByTurboMac) <||> ensureHWPFailSafeLocked P
  assign fun d => { d with
    state := if guardRestored && hwpRestored && reason == .requested then .passive else .failsafe
    restoreReason := reason }
  schedulePassiveGuardLocked
  return guardRestored && hwpRestored

/-- The package-limit part of `restoreLocked`. -/
def restoreLimitsLocked (hwpRestored : Bool) : DriverM Bool := do
  let currentLimit ← rdmsr64 P msrPackagePowerLimit
  if hwpRestored && !raplLocked currentLimit then
    let captured := (← getDriver).capturedPackageLimit &&& ~~~raplLock
    wrmsr64 msrPackagePowerLimit captured
    verifyLimitsLocked P captured
  else return false

/-- `restoreLocked` of a capture. -/
def restoreCapturedLocked (reason : RestoreReason) : DriverM Bool := do
  let guardRestored ← setPowerControlGuardLocked P true
  let hwpRestored ← restoreHWPLocked P
  let limitsRestored ← restoreLimitsLocked P hwpRestored
  assign fun d => { d with
    captured := false
    appliedPL1MW := 0
    appliedPL2MW := 0
    expectedPackageLimit := 0
    lastHeartbeat := 0
    state :=
      if guardRestored && hwpRestored && limitsRestored && reason == .requested then .passive
      else .failsafe
    restoreReason := reason
    hwp := { d.hwp with captured := false, capturedPresent := fun _ => false } }
  schedulePassiveGuardLocked
  return guardRestored && hwpRestored && limitsRestored

/-- `restoreLocked`. -/
def restoreLocked (reason : RestoreReason) : DriverM Bool := do
  cancelTimeout
  let d ← getDriver
  if !d.captured then restorePassiveLocked P reason else restoreCapturedLocked P reason

/-- How an operation ends. -/
inductive Exit where
  | done (code : IOReturn)
  | restore (reason : RestoreReason) (onRestored onFailed : IOReturn)
deriving DecidableEq, Repr

/-- The end of an operation. -/
def leave : Exit → DriverM IOReturn
  | .done code => pure code
  | .restore reason onRestored onFailed => do
    let restored ← restoreLocked P reason
    return if restored then onRestored else onFailed

/-! ## `arm` -/

/-- A request `arm` turns down before it captures anything. -/
def rejectArm (code : IOReturn) : DriverM Exit := do
  assign fun d => { d with restoreReason := .invalidRequest }
  return .done code

/-- What `arm` captures. -/
structure ArmCapture where
  packageLimit : U64
  powerControl : U64
  hwpWasEnabled : Bool

/-- `arm` from the validated request to the capture, or none if it is not
permitted. -/
def armCheck (request : LimitRequest) : DriverM (Option ArmCapture) := do
  let packageLimit ← rdmsr64 P msrPackagePowerLimit
  let guard ← readPowerControlLocked P
  doIf (!(← getHWP).enabled) (discard (initializeHWPLocked P))
  let hwp ← getHWP
  let hwpWasEnabled := hwp.enabled
  let hwpModeValid := request.hwpMode ==
    (if hwpWasEnabled then hwpReleaseMaximum else hwpBootstrapAndReleaseMaximum)
  if raplLocked packageLimit || !guard.ok || !guard.allEnabled || !hwp.supported ||
      !hwpModeValid || !packageLimit.getLsbD 15 || !packageLimit.getLsbD 47 then
    return none
  if hwpWasEnabled then
    let captured ← captureHWPStateLocked P
    let hwp ← getHWP
    if !captured || !hwpMaximumRestricted hwp then
      assignHWP fun hwp => { hwp with captured := false, capturedPresent := fun _ => false }
      return none
    return some ⟨packageLimit, guard.representative, hwpWasEnabled⟩
  return some ⟨packageLimit, guard.representative, hwpWasEnabled⟩

/-- The limit HWP is bootstrapped under. -/
def bootstrapLimitMW (d : Driver) (request : LimitRequest) (hwpWasEnabled : Bool) : U32 :=
  if hwpWasEnabled then request.pl1MW
  else
    let conservativeLimitMW :=
      if hwpBootstrapLimitMW < d.floorMW then d.floorMW else hwpBootstrapLimitMW
    if conservativeLimitMW < request.pl1MW then conservativeLimitMW else request.pl1MW

/-- The short-circuit chain of `arm` that leaves the requested limits in force. -/
def armInstall (request : LimitRequest) (hwpWasEnabled : Bool) : DriverM Bool := do
  let limitMW := bootstrapLimitMW (← getDriver) request hwpWasEnabled
  if !(← validateRequestLocked P (some request) true) then return false
  if !(← installLimitsLocked P limitMW (if hwpWasEnabled then request.pl2MW else limitMW)) then
    return false
  if hwpWasEnabled then return true
  if !(← bootstrapHWPLocked P) then return false
  if limitMW = request.pl1MW ∧ limitMW = request.pl2MW then return true
  installLimitsLocked P request.pl1MW request.pl2MW

/-- `arm` from the capture on. -/
def armCaptured (request : LimitRequest) (capture : ArmCapture) : DriverM Exit := do
  assign fun d => { d with
    capturedPackageLimit := capture.packageLimit
    capturedPowerControl := capture.powerControl
    ceilingPL1MW := raplRawToMW (raplPl1Raw capture.packageLimit) d.powerExponent
    ceilingPL2MW := raplRawToMW (raplPl2Raw capture.packageLimit) d.powerExponent
    captured := true }
  if !(← armInstall P request capture.hwpWasEnabled) then
    return .restore .readbackMismatch .error .error
  if !(← applyHWPMaximumLocked P request.hwpMode) then
    return .restore .readbackMismatch .error .error
  if !(← setPowerControlGuardLocked P false) then
    return .restore .readbackMismatch .error .error
  -- only now, with limit, HWP and guard in place, is the driver armed
  assign fun d => { d with
    state := .armed
    restoreReason := .none
    lastSequence := request.sequence
    watchdogTimeoutMS := request.watchdogTimeoutMS }
  let now ← readAbsoluteTime P
  assign fun d => { d with lastHeartbeat := now }
  scheduleWatchdogLocked
  return .done .success

/-- `arm`, up to `leave`. -/
def armExit (request : Option LimitRequest) : DriverM Exit := do
  let d ← getDriver
  if !d.supported then return .done .unsupported
  if d.captured || d.state == .armed then return .done .busy
  if !(← validateRequestLocked P request true) then rejectArm .badArgument
  else
    match request with
    -- a null request is never valid
    | none => rejectArm .badArgument
    | some request =>
      match ← armCheck P request with
      | none => rejectArm .notPermitted
      | some capture => armCaptured P request capture

def arm (request : Option LimitRequest) : DriverM IOReturn := armExit P request >>= leave P

/-! ## The other operations -/

/-- `update` of a valid request, up to `leave`. -/
def updateValidated (request : LimitRequest) : DriverM Exit := do
  if request.hwpMode ≠ hwpReleaseMaximum then
    return .restore .invalidRequest .badArgument .badArgument
  if !(← verifyArmedStateLocked P) then return .restore .readbackMismatch .error .error
  if !(← validateRequestLocked P (some request) false) then
    return .restore .readbackMismatch .error .error
  if !(← installLimitsLocked P request.pl1MW request.pl2MW) then
    return .restore .readbackMismatch .error .error
  assign fun d => { d with lastSequence := request.sequence }
  let now ← readAbsoluteTime P
  assign fun d => { d with lastHeartbeat := now }
  scheduleWatchdogLocked
  return .done .success

/-- `update`, up to `leave`. -/
def updateExit (request : Option LimitRequest) : DriverM Exit := do
  let d ← getDriver
  if !d.captured || d.state != .armed then return .done .notOpen
  if !(← validateRequestLocked P request false) then
    return .restore .invalidRequest .badArgument .badArgument
  match request with
  -- a null request is never valid
  | none => return .restore .invalidRequest .badArgument .badArgument
  | some request => updateValidated P request

def update (request : Option LimitRequest) : DriverM IOReturn := updateExit P request >>= leave P

/-- `disarm`, up to `leave`. -/
def disarmExit (request : Option CommandRequest) : DriverM Exit := do
  let d ← getDriver
  match request with
  | none => return .restore .invalidRequest .badArgument .badArgument
  | some request =>
    if request.version ≠ protocolVersion ∨ request.size ≠ commandRequestSize ∨
        request.sequence ≤ d.lastSequence then
      return .restore .invalidRequest .badArgument .badArgument
    assign fun d => { d with lastSequence := request.sequence }
    return .restore .requested .success .error

def disarm (request : Option CommandRequest) : DriverM IOReturn := disarmExit request >>= leave P

/-- `watchdogExpiredLocked`. -/
def watchdogExpiredLocked (d : Driver) (now : U64) : Bool :=
  decide (d.lastHeartbeat = 0 ∨ now < d.lastHeartbeat) ||
    watchdogExpired (P.absolutetimeToNanoseconds (now - d.lastHeartbeat)) d.watchdogTimeoutMS

/-- The part of `watchdogFired` outside Armed. -/
def watchdogPassive : DriverM Exit := do
  doIf (!(← getHWP).enabled) (discard (initializeHWPLocked P))
  let guardSafe ← ensurePassiveGuardLocked P
  let hwp ← getHWP
  let hwpSafe ← pure (!hwp.enabledByTurboMac) <||> verifyHWPFailSafeLocked P <||>
    ensureHWPFailSafeLocked P
  doIf (!guardSafe || !hwpSafe) <| assign fun d => { d with
    state := .failsafe
    restoreReason := .readbackMismatch }
  setTimeoutMS passiveGuardPollMS
  return .done .success

/-- `watchdogFired`, up to `leave`: the timer has fired, so it is not set. -/
def watchdogFiredExit : DriverM Exit := do
  cancelTimeout
  let d ← getDriver
  if d.captured && d.state == .armed then
    let now ← readAbsoluteTime P
    if watchdogExpiredLocked P (← getDriver) now then return .restore .watchdog .success .success
    if !(← verifyArmedStateLocked P) then
      return .restore .readbackMismatch .success .success
    setTimeoutMS watchdogPollMS
    return .done .success
  if d.supported then watchdogPassive P
  else return .done .success

/-- The calls into the driver between `start` and `stop`. -/
inductive Op where
  | arm (request : Option LimitRequest)
  | update (request : Option LimitRequest)
  | disarm (request : Option CommandRequest)
  | invalidClientCommand
  | clientDisconnected
  | watchdogFired

/-- A call up to `leave`. -/
def Op.exit : Op → DriverM Exit
  | .arm request => armExit P request
  | .update request => updateExit P request
  | .disarm request => disarmExit request
  | .invalidClientCommand => return .restore .invalidRequest .success .success
  | .clientDisconnected => return .restore .clientClosed .success .success
  | .watchdogFired => watchdogFiredExit P

/-- What follows `leave`: `clientDisconnected` releases the client. -/
def Op.finish : Op → DriverM Unit
  | .clientDisconnected => assign fun d => { d with clientReserved := false }
  | _ => pure ()

/-- A whole call. Those without a result return `success`. -/
def Op.call (op : Op) : DriverM IOReturn := do
  let code ← op.exit P >>= leave P
  op.finish
  return code

/-! ## `start` -/

/-- `readCPUIdentity`: family, model and stepping. -/
def readCPUIdentity : DriverM (U32 × U32 × U32) := do
  let eax ← cpuid P 1
  let baseFamily := (eax >>> 8) &&& 0xf
  let extendedFamily := (eax >>> 20) &&& 0xff
  let baseModel := (eax >>> 4) &&& 0xf
  let extendedModel := (eax >>> 16) &&& 0xf
  return (if baseFamily = 0xf then baseFamily + extendedFamily else baseFamily,
    if baseFamily = 6 ∨ baseFamily = 0xf then baseModel ||| (extendedModel <<< 4) else baseModel,
    eax &&& 0xf)

/-- The guard part of `initializeCapabilitiesLocked`. -/
def initializeGuardLocked : DriverM Bool := do
  let guard ← readPowerControlLocked P
  assign fun d => { d with supported := guard.ok }
  if guard.ok && !guard.allEnabled then
    let restored ← setPowerControlGuardLocked P true
    assign fun d => { d with supported := restored }
    return restored
  return guard.ok

/-- `capabilityMaximumMW_`: where the power info has none, the higher limit. -/
def capabilityMaximum (maximum : U32) : DriverM U32 := do
  if maximum ≠ 0 then return maximum
  let currentLimit ← rdmsr64 P msrPackagePowerLimit
  let d ← getDriver
  let currentPL1 := raplRawToMW (raplPl1Raw currentLimit) d.powerExponent
  let currentPL2 := raplRawToMW (raplPl2Raw currentLimit) d.powerExponent
  return if currentPL2 < currentPL1 then currentPL1 else currentPL2

/-- `initializeCapabilitiesLocked`. -/
def initializeCapabilitiesLocked : DriverM Bool := do
  let (family, model, stepping) ← readCPUIdentity P
  assign fun d => { d with cpuFamily := family, cpuModel := model, cpuStepping := stepping }
  if family ≠ supportedFamily ∨ model ≠ supportedModel then return false
  let units ← rdmsr64 P msrRAPLPowerUnit
  let powerInfo ← rdmsr64 P msrPackagePowerInfo
  let field (shift : ℕ) : U32 := ((powerInfo >>> shift) &&& raplPowerFieldMask).setWidth 32
  let powerExponent : U32 := (units &&& 0xf).setWidth 32
  assign fun d => { d with
    unitsRaw := units
    powerInfoRaw := powerInfo
    powerExponent := powerExponent
    energyExponent := ((units >>> (8 : ℕ)) &&& 0x1f).setWidth 32
    thermalSpecMW := raplRawToMW (field 0) powerExponent
    floorMW :=
      let floor := raplRawToMW (field 16) powerExponent
      if floor = 0 then 1000 else floor }
  let maximum ← capabilityMaximum P (raplRawToMW (field 32) powerExponent)
  assign fun d => { d with
    capabilityMaximumMW := maximum
    supported := decide (d.powerExponent < 31 ∧ d.energyExponent < 32 ∧ 0 < d.thermalSpecMW ∧
      d.floorMW ≤ maximum) }
  -- without HWP the driver is supported all the same, but will not arm
  discard (initializeHWPLocked P)
  if (← getDriver).supported then initializeGuardLocked P else return false

/-- The driver part of `start`, with the timer allocated. -/
def startLocked : DriverM Unit := do
  assign fun d => { d with watchdog := some ⟨none⟩ }
  let initialized ← initializeCapabilitiesLocked P
  doIf initialized schedulePassiveGuardLocked

end

/-- `init`. -/
def initialHWP : HWP where
  cpuidEAX := 0
  mode := hwpModeInvalid
  pmEnableRaw := 0
  capabilitiesRaw := 0
  capturedPackageRequest := 0
  expectedPackageRequest := 0
  failSafeRequest := 0
  capturedRequests := fun _ => 0
  expectedRequests := fun _ => 0
  capturedPresent := fun _ => false
  supported := false
  enabled := false
  eppSupported := false
  flexibleRequestFields := false
  packageRequestSupported := false
  captured := false
  overrideActive := false
  enabledByTurboMac := false
  failSafeActive := false

/-- `init`. -/
def initialDriver : Driver where
  watchdog := none
  clientReserved := false
  supported := false
  captured := false
  state := .passive
  restoreReason := .none
  powerExponent := 0
  energyExponent := 0
  floorMW := 0
  capabilityMaximumMW := 0
  thermalSpecMW := 0
  ceilingPL1MW := 0
  ceilingPL2MW := 0
  appliedPL1MW := 0
  appliedPL2MW := 0
  watchdogTimeoutMS := watchdogTimeoutMS
  cpuFamily := 0
  cpuModel := 0
  cpuStepping := 0
  logicalCPUCount := 0
  unitsRaw := 0
  powerInfoRaw := 0
  capturedPackageLimit := 0
  capturedPowerControl := 0
  currentPowerControl := 0
  expectedPackageLimit := 0
  lastSequence := 0
  lastHeartbeat := 0
  hwp := initialHWP

end TurboMac.Kext
