import TurboMac.Kext.Guard

/-! # What the driver tells its client

`copyCapabilities`, `copyTelemetry`, `copyStatus` and `copyHWPStatus` hold the lock
like every other call, and read the hardware. The pointer they fill in is never null:
the user client passes one of its own.
-/

namespace TurboMac.Kext

open Program

/-! ## What is told -/

/-- `TurboMacCapabilities`; `version`, `size` and `reserved0` are constants. -/
structure TurboMacCapabilities where
  cpuFamily : U32
  cpuModel : U32
  cpuStepping : U32
  flags : U32
  raplPowerExponent : U32
  raplEnergyExponent : U32
  minimumPowerMW : U32
  maximumPowerMW : U32
  thermalSpecPowerMW : U32
  logicalCPUCount : U32
  raplUnitsRaw : U64
  packagePowerInfoRaw : U64
  currentPackageLimitRaw : U64
  currentPowerControlRaw : U64
  hwpCPUIDEAX : U32
  hwpPMEnableRaw : U64
  hwpCapabilitiesRaw : U64
  currentHWPPackageRequestRaw : U64

/-- `TurboMacTelemetry`, without `version` and `size`. -/
structure TurboMacTelemetry where
  machAbsoluteTime : U64
  packageEnergyRaw : U64
  packageLimitRaw : U64
  powerControlRaw : U64
  appliedPL1MW : U32
  appliedPL2MW : U32
  driverState : DriverState
  restoreReason : RestoreReason
  lastSequence : U64

/-- `TurboMacDriverStatus`, without `version` and `size`. -/
structure TurboMacDriverStatus where
  driverState : DriverState
  restoreReason : RestoreReason
  appliedPL1MW : U32
  appliedPL2MW : U32
  floorMW : U32
  ceilingPL1MW : U32
  ceilingPL2MW : U32
  watchdogTimeoutMS : U32
  lastSequence : U64
  capturedPackageLimitRaw : U64
  capturedPowerControlRaw : U64
  currentPackageLimitRaw : U64
  currentPowerControlRaw : U64

/-- `TurboMacHWPEntry`; `cpu_index` is its place in the array. -/
structure TurboMacHWPEntry where
  flags : U32
  capturedRequestRaw : U64
  currentRequestRaw : U64

/-- `TurboMacHWPStatus`, without `version` and `size`. -/
structure TurboMacHWPStatus where
  flags : U32
  logicalCPUCount : U32
  hwpCPUIDEAX : U32
  hwpMode : U32
  hwpPMEnableRaw : U64
  hwpCapabilitiesRaw : U64
  capturedPackageRequestRaw : U64
  currentPackageRequestRaw : U64
  failsafeRequestRaw : U64
  cpus : CPU → TurboMacHWPEntry

/-- The flags, each a bit and whether it is set. -/
def flagsOf (flags : List (Bool × ℕ)) : U32 :=
  flags.foldl (fun word flag => if flag.1 then word ||| BitVec.twoPow 32 flag.2 else word) 0

/-- `TurboMacCapabilityFlag`, by bit. -/
def capabilitySupportedCPU : ℕ := 0
def capabilityPowerInfoValid : ℕ := 1
def capabilityLimitLocked : ℕ := 2
def capabilityBidirProchotEnabled : ℕ := 3
def capabilityHWPSupported : ℕ := 4
def capabilityHWPEnabled : ℕ := 5

/-- `TurboMacHWPStatusFlag`, by bit. -/
def statusSupported : ℕ := 0
def statusEnabled : ℕ := 1
def statusFlexibleRequestFields : ℕ := 2
def statusPackageControlSupported : ℕ := 3
def statusMaximumRestricted : ℕ := 4
def statusOverrideActive : ℕ := 5
def statusCaptureValid : ℕ := 6
def statusReadbackValid : ℕ := 7
def statusEnabledByTurboMac : ℕ := 8
def statusNativeRestoreRequiresReboot : ℕ := 9
def statusFailsafeRequestActive : ℕ := 10

/-- `TurboMacHWPEntryFlag`, by bit. -/
def entryPresent : ℕ := 0
def entryPackageControl : ℕ := 1
def entryMaximumFromLocalRequest : ℕ := 2
def entryModified : ℕ := 3

section

variable (P : Platform)

/-! ## The copies -/

/-- HWP is looked for again, outside Armed, until it is found enabled. -/
def detectHWPLocked : DriverM Unit := do
  let d ← getDriver
  doIf (d.state != .armed && !d.hwp.enabled) (discard (initializeHWPLocked P))

/-- The package request where HWP is enabled and it can be read, and else zero. -/
def currentPackageRequest : DriverM U64 := do
  let hwp ← getHWP
  if hwp.enabled then return (← readHWPPackageRequestLocked P).getD 0 else return 0

/-- A register that is only read on a supported CPU. -/
def rdmsrIfSupported (msr : U32) : DriverM U64 := do
  if (← getDriver).supported then rdmsr64 P msr else return 0

/-- So is the guard; nothing is found out of an unsupported CPU. -/
def readPowerControlIfSupported : DriverM PowerControlRead := do
  if (← getDriver).supported then readPowerControlLocked P else return ⟨false, false, false, 0⟩

/-- `copyCapabilities`. -/
def copyCapabilities : DriverM TurboMacCapabilities := do
  detectHWPLocked P
  let d ← getDriver
  let packageLimit ← rdmsrIfSupported P msrPackagePowerLimit
  let guard ← readPowerControlIfSupported P
  let counted ← getDriver
  let packageRequest ← currentPackageRequest P
  return {
    cpuFamily := d.cpuFamily
    cpuModel := d.cpuModel
    cpuStepping := d.cpuStepping
    flags := flagsOf [(d.supported, capabilitySupportedCPU),
      (d.powerInfoRaw != 0, capabilityPowerInfoValid),
      (d.hwp.supported, capabilityHWPSupported), (d.hwp.enabled, capabilityHWPEnabled),
      (raplLocked packageLimit, capabilityLimitLocked),
      (guard.allEnabled, capabilityBidirProchotEnabled)]
    raplPowerExponent := d.powerExponent
    raplEnergyExponent := d.energyExponent
    minimumPowerMW := d.floorMW
    maximumPowerMW := d.capabilityMaximumMW
    thermalSpecPowerMW := d.thermalSpecMW
    logicalCPUCount := counted.logicalCPUCount
    raplUnitsRaw := d.unitsRaw
    packagePowerInfoRaw := d.powerInfoRaw
    currentPackageLimitRaw := packageLimit
    currentPowerControlRaw := guard.representative
    hwpCPUIDEAX := d.hwp.cpuidEAX
    hwpPMEnableRaw := d.hwp.pmEnableRaw
    hwpCapabilitiesRaw := d.hwp.capabilitiesRaw
    currentHWPPackageRequestRaw := packageRequest }

/-- `MSR_PKG_ENERGY_STATUS`. -/
def msrPackageEnergyStatus : U32 := 0x611

/-- `copyTelemetry`; none is `kIOReturnUnsupported`. -/
def copyTelemetry : DriverM (Option TurboMacTelemetry) := do
  let d ← getDriver
  if !d.supported then return none
  let now ← readAbsoluteTime P
  let energy ← rdmsr64 P msrPackageEnergyStatus
  let packageLimit ← rdmsr64 P msrPackagePowerLimit
  return some {
    machAbsoluteTime := now
    packageEnergyRaw := energy &&& 0xffffffff
    packageLimitRaw := packageLimit
    powerControlRaw := d.currentPowerControl
    appliedPL1MW := d.appliedPL1MW
    appliedPL2MW := d.appliedPL2MW
    driverState := d.state
    restoreReason := d.restoreReason
    lastSequence := d.lastSequence }

/-- `copyStatus`. -/
def copyStatus : DriverM TurboMacDriverStatus := do
  let d ← getDriver
  let packageLimit ← rdmsrIfSupported P msrPackagePowerLimit
  -- a successful read has already assigned `currentPowerControl_`
  discard (readPowerControlIfSupported P)
  let powerControl := (← getDriver).currentPowerControl
  return {
    driverState := d.state
    restoreReason := d.restoreReason
    appliedPL1MW := d.appliedPL1MW
    appliedPL2MW := d.appliedPL2MW
    floorMW := d.floorMW
    ceilingPL1MW := d.ceilingPL1MW
    ceilingPL2MW := d.ceilingPL2MW
    watchdogTimeoutMS := d.watchdogTimeoutMS
    lastSequence := d.lastSequence
    capturedPackageLimitRaw := d.capturedPackageLimit
    capturedPowerControlRaw := d.capturedPowerControl
    currentPackageLimitRaw := packageLimit
    currentPowerControlRaw := powerControl }

/-- `hwpMaximumRestrictedLocked`. -/
def hwpMaximumRestrictedLocked (hwp : HWP) (values : CPU → U64) (present : CPU → Bool)
    (packageRequest : U64) : Bool :=
  hwp.supported && hwp.enabled &&
    (cpusPresent present).all (fun index =>
      let effective := hwpEffectiveMaximum (values index) packageRequest hwp.flexibleRequestFields
      decide (hwpLowest hwp.capabilitiesRaw ≤ effective ∧
        effective < hwpHighest hwp.capabilitiesRaw)) &&
    decide (cpusPresent present ≠ [])

/-- `failSafeReadback` of `copyHWPStatus`. -/
def failSafeReadback (d : Driver) (current : HWPRequests) : Bool :=
  d.hwp.failSafeActive && BitVec.ofNat 32 current.count == d.logicalCPUCount &&
    (cpusPresent current.present).all fun index => current.values index == d.hwp.failSafeRequest

/-- An entry of the array of `copyHWPStatus`. -/
def hwpEntry (hwp : HWP) (readback : Option HWPRequests) (index : CPU) : TurboMacHWPEntry :=
  let captured := hwp.captured && hwp.capturedPresent index
  let current := (readback.filter fun current => current.present index).map (·.values index)
  { flags := flagsOf [(current.isSome, entryPresent),
      (current.any hwpPackageControl, entryPackageControl),
      (current.any fun value => !hwpPackageControl value ||
        (hwp.flexibleRequestFields && hwpMaximumValid value), entryMaximumFromLocalRequest),
      (hwp.overrideActive && hwp.capturedPresent index &&
        hwp.expectedRequests index != hwp.capturedRequests index, entryModified)]
    capturedRequestRaw := if captured then hwp.capturedRequests index else 0
    currentRequestRaw := current.getD 0 }

/-- The requests of all CPUs where HWP is enabled and they can be read. -/
def hwpReadback : DriverM (Option HWPRequests) := do
  let hwp ← getHWP
  if !hwp.enabled then return none
  let (ok, current) ← readHWPRequestsLocked P .zero
  return if ok then some current else none

/-- `copyHWPStatus`. -/
def copyHWPStatus : DriverM TurboMacHWPStatus := do
  detectHWPLocked P
  let d ← getDriver
  let packageRequest ← currentPackageRequest P
  let readback ← hwpReadback P
  return {
    flags := flagsOf [(d.hwp.supported, statusSupported), (d.hwp.enabled, statusEnabled),
      (d.hwp.flexibleRequestFields, statusFlexibleRequestFields),
      (d.hwp.packageRequestSupported, statusPackageControlSupported),
      (d.hwp.overrideActive, statusOverrideActive), (d.hwp.captured, statusCaptureValid),
      (d.hwp.enabledByTurboMac, statusEnabledByTurboMac),
      (d.hwp.enabledByTurboMac, statusNativeRestoreRequiresReboot),
      (readback.isSome, statusReadbackValid),
      (readback.any (failSafeReadback d), statusFailsafeRequestActive),
      (readback.any fun current =>
        hwpMaximumRestrictedLocked d.hwp current.values current.present packageRequest,
        statusMaximumRestricted)]
    logicalCPUCount := BitVec.ofNat 32 ((readback.map (·.count)).getD 0)
    hwpCPUIDEAX := d.hwp.cpuidEAX
    hwpMode := d.hwp.mode
    hwpPMEnableRaw := d.hwp.pmEnableRaw
    hwpCapabilitiesRaw := d.hwp.capabilitiesRaw
    capturedPackageRequestRaw := if d.hwp.captured then d.hwp.capturedPackageRequest else 0
    currentPackageRequestRaw := packageRequest
    failsafeRequestRaw := d.hwp.failSafeRequest
    cpus := hwpEntry d.hwp readback }

end

end TurboMac.Kext
