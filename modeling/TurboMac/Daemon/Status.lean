import TurboMac.Daemon.Daemon
import TurboMac.Lib.Members

/-! # `statusJSON`

The text the daemon answers a status request with. A temperature that could not be read
is written as `null`; what the driver does not answer is written as zero, and its states
as the largest number.
-/

namespace TurboMac.Daemon

open Decimal Members
open Kext (U32 U64 protocolVersion)

def hwpStatusFlexibleRequestFields : U32 := BitVec.twoPow 32 2
def hwpStatusNativeRestoreRequiresReboot : U32 := BitVec.twoPow 32 9
def hwpEntryPresent : U32 := BitVec.twoPow 32 0
def maxLogicalCPUs : ℕ := 64

/-! ## What the driver answers -/

/-- `TurboMacCapabilities`, as the status reads it. -/
structure ReportedCapabilities extends Capabilities where
  thermalSpecPowerMW : U32

/-- `TurboMacDriverStatus`, as the status reads it. -/
structure ReportedDriver extends DriverStatus where
  restoreReason : U32
  ceilingPL1MW : U32
  ceilingPL2MW : U32
  currentPackageLimitRaw : U64
  currentPowerControlRaw : U64

/-- `TurboMacHWPEntry`. -/
structure HWPEntry where
  cpuIndex : U32
  flags : U32
  capturedRequestRaw : U64
  currentRequestRaw : U64

/-- `TurboMacHWPStatus`, as the status reads it. -/
structure ReportedHWP extends HWPStatus where
  logicalCPUCount : U32
  hwpCapabilitiesRaw : U64
  currentPackageRequestRaw : U64
  failsafeRequestRaw : U64
  cpus : Vector HWPEntry maxLogicalCPUs

/-- The answers of one `statusJSON`. -/
structure StatusInput where
  now : ℚ
  driverStatus : Option ReportedDriver
  capabilities : Option ReportedCapabilities
  hwpStatus : Option ReportedHWP

/-- The daemon with the member that only the status reads. -/
structure StatusDaemon extends TurboMacDaemon where
  /-- none for `NAN` -/
  latestTemperatureC : Option ℚ

/-- `sampleSMC`; an accepted sample keeps the temperature of `TC0D` or else `TC0P`, if one
could be read. -/
def StatusDaemon.sampleSMC (d : StatusDaemon) (now : ℚ) (initial : Bool) (reading : SMCReading)
    (tc0d tc0p : Option ℚ) : Bool × StatusDaemon :=
  let (accepted, sampled) := d.toTurboMacDaemon.sampleSMC now initial reading
  (accepted, { sampled with
    latestTemperatureC := if accepted then tc0d.or tc0p else d.latestTemperatureC })

/-! ## The text -/

/-- `bandName`. -/
def bandName : GovernorBand → String
  | .cruise => "cruise"
  | .guard => "guard"
  | .shed => "shed"
  | .emergency => "emergency"

def flag (b : Bool) : Value := .bare (if b then "true" else "false").toList

/-- Three decimals. -/
def decimals (v : ℚ) : Value := .bare (ofRat 3 v)

def natural {w : ℕ} (value : BitVec w) : Value := .bare (Nat.toDigits 10 value.toNat)

/-- A temperature, or that it is not finite. -/
def temperature : Option ℚ → Value
  | some v => decimals v
  | none => .bare "null".toList

def milliwattsW (mw : U32) : ℚ := mw.toNat / 1000

/-- A bit of the flags, where they have been read. -/
def flagSet (flags : Option U32) (mask : U32) : Bool := flags.any fun flags => flags &&& mask != 0

def testFlag (flags : Option U32) (mask : U32) : Value := flag (flagSet flags mask)

namespace StatusDaemon

/-- The members of the daemon and the policy. -/
def policyMembers (d : StatusDaemon) (snapshot : PolicySnapshot) : List (String × Value) :=
  [("ok", flag true),
    ("armed", flag d.armed),
    ("profile_valid", flag d.profile.isSome),
    ("auto_arm", flag (d.profile.any (·.autoArm))),
    ("validation_passed", flag (d.profile.any (·.validationPassed))),
    ("telemetry_ready", flag snapshot.ready),
    ("band", .string (bandName snapshot.band).toList),
    ("input_w", decimals snapshot.inputW),
    ("capacity_w", decimals snapshot.capacityW),
    ("package_w", decimals snapshot.packageW),
    ("filtered_package_w", decimals snapshot.filteredPackageW),
    ("aligned_package_w", decimals snapshot.alignedPackageW),
    ("non_cpu_w", decimals snapshot.nonCPUW),
    ("raw_non_cpu_observation_w", decimals snapshot.rawNonCPUObservationW),
    ("non_cpu_observation_w", decimals snapshot.nonCPUObservationW),
    ("filtered_input_w", decimals snapshot.filteredInputW),
    ("predicted_input_w", decimals snapshot.predictedInputW),
    ("guard_w", decimals snapshot.guardW),
    ("shed_w", decimals snapshot.shedW),
    ("emergency_w", decimals snapshot.emergencyW),
    ("state_target_w", decimals snapshot.stateTargetW),
    ("desired_pl1_w", decimals snapshot.desiredPL1W),
    ("pl1_w", decimals snapshot.pl1W),
    ("pl2_w", decimals snapshot.pl2W),
    ("recovery_interval_s", decimals snapshot.recoveryIntervalS),
    ("cpu_temp_c", temperature d.latestTemperatureC),
    ("cpu_die_temp_c", temperature d.latestCPUDieTemperatureC),
    ("non_cpu_over_budget", flag snapshot.nonCPUOverBudget),
    ("smc_invalid_consecutive", natural d.smcFailures)]

end StatusDaemon

/-- The members of the capabilities' flags and the HWP status. -/
def hwpMembers (capabilities : Option ReportedCapabilities) (hwpStatus : Option ReportedHWP) :
    List (String × Value) :=
  let capabilityFlags := capabilities.map (·.flags)
  let hwpFlags := hwpStatus.map (·.flags)
  [("apple_guard_enabled", testFlag capabilityFlags capabilityBidirProchotEnabled),
    ("rapl_locked", testFlag capabilityFlags capabilityLimitLocked),
    ("hwp_supported", testFlag hwpFlags hwpStatusSupported),
    ("hwp_enabled", testFlag hwpFlags hwpStatusEnabled),
    ("hwp_maximum_restricted", testFlag hwpFlags hwpStatusMaximumRestricted),
    ("hwp_override_active", testFlag hwpFlags hwpStatusOverrideActive),
    ("hwp_enabled_by_turbomac", testFlag hwpFlags hwpStatusEnabledByTurboMac),
    ("hwp_native_restore_requires_reboot", testFlag hwpFlags hwpStatusNativeRestoreRequiresReboot),
    ("hwp_failsafe_active", testFlag hwpFlags hwpStatusFailsafeRequestActive),
    ("hwp_readback_valid", testFlag hwpFlags hwpStatusReadbackValid),
    ("hwp_status_flags", natural (hwpFlags.getD 0)),
    ("hwp_logical_cpu_count", natural (hwpStatus.elim 0 (·.logicalCPUCount))),
    ("hwp_capabilities_raw", natural (hwpStatus.elim 0 (·.hwpCapabilitiesRaw))),
    ("hwp_package_request_raw", natural (hwpStatus.elim 0 (·.currentPackageRequestRaw))),
    ("hwp_failsafe_request_raw", natural (hwpStatus.elim 0 (·.failsafeRequestRaw)))]

/-- The members of the driver. -/
def driverMembers (capabilities : Option ReportedCapabilities) (driverStatus : Option ReportedDriver) :
    List (String × Value) :=
  [("driver_capability_flags", natural (capabilities.elim 0 (·.flags))),
    ("driver_minimum_power_w", decimals (capabilities.elim 0 (milliwattsW ·.minimumPowerMW))),
    ("driver_maximum_power_w", decimals (capabilities.elim 0 (milliwattsW ·.maximumPowerMW))),
    ("driver_thermal_spec_power_w", decimals (capabilities.elim 0 (milliwattsW ·.thermalSpecPowerMW))),
    ("driver_ceiling_pl1_w", decimals (driverStatus.elim 0 (milliwattsW ·.ceilingPL1MW))),
    ("driver_ceiling_pl2_w", decimals (driverStatus.elim 0 (milliwattsW ·.ceilingPL2MW))),
    ("driver_state", natural (driverStatus.elim (BitVec.allOnes 32) (·.driverState))),
    ("driver_restore_reason", natural (driverStatus.elim (BitVec.allOnes 32) (·.restoreReason))),
    ("current_package_limit_raw", natural (driverStatus.elim 0 (·.currentPackageLimitRaw))),
    ("current_power_control_raw", natural (driverStatus.elim 0 (·.currentPowerControlRaw)))]

/-- The object of one logical CPU. -/
def entryText (hwpStatus : ReportedHWP) (entry : HWPEntry) : Text :=
  let request := entry.currentRequestRaw
  let flexible := hwpStatus.flags &&& hwpStatusFlexibleRequestFields != 0
  let members : List (String × Value) :=
    [("cpu", natural entry.cpuIndex),
      ("flags", natural entry.flags),
      ("captured_request_raw", natural entry.capturedRequestRaw),
      ("current_request_raw", natural request),
      ("minimum", natural (Kext.hwpField request 0)),
      ("maximum", natural (Kext.hwpMaximum request)),
      ("desired", natural (Kext.hwpField request 16)),
      ("epp", natural (Kext.hwpField request 24)),
      ("package_control", flag (Kext.hwpPackageControl request)),
      ("maximum_valid", flag (Kext.hwpMaximumValid request)),
      ("effective_maximum",
        natural (Kext.hwpEffectiveMaximum request hwpStatus.currentPackageRequestRaw flexible))]
  '{' :: (List.intercalate [','] (members.map member) ++ ['}'])

/-- The logical CPUs that are present, and the end of the text. -/
def cpusText (hwpStatus : Option ReportedHWP) : Text :=
  let entries := hwpStatus.elim [] fun hwpStatus =>
    (hwpStatus.cpus.toList.filter fun entry => entry.flags &&& hwpEntryPresent != 0).map
      (entryText hwpStatus)
  quoted "hwp_cpus".toList ++ [':', '['] ++ List.intercalate [','] entries ++ [']', '}']

namespace StatusDaemon

/-- `hwpStatus`, if `hwpStatusValid`. -/
def hwpStatus (d : StatusDaemon) (input : StatusInput) : Option ReportedHWP :=
  (d.answer input.hwpStatus).filter fun status =>
    decide (status.version = protocolVersion ∧ status.size = hwpStatusSize)

/-- The members before `hwp_cpus`. -/
def members (d : StatusDaemon) (snapshot : PolicySnapshot) (input : StatusInput) : List (String × Value) :=
  let capabilities := d.answer input.capabilities
  d.policyMembers snapshot ++ hwpMembers capabilities (d.hwpStatus input) ++
    driverMembers capabilities (d.answer input.driverStatus)

/-- `statusJSON`; it evaluates the policy. -/
def statusJSON (exp : ℚ → ℚ) (d : StatusDaemon) (input : StatusInput) : Text × StatusDaemon :=
  let policy := d.policy.evaluate exp input.now
  ('{' :: (render (d.members policy.snapshot input) ++ cpusText (d.hwpStatus input)),
    { d with policy := policy })

end StatusDaemon

end TurboMac.Daemon
