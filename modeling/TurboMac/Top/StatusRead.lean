import TurboMac.Daemon.Disarm
import TurboMac.Top.Status

/-! # What the cockpit reads of a status

Each key is found at its own member, so the cockpit reads what the daemon has written,
to three decimals. A temperature that could not be read is no number to it: it refuses
the status with everything else in it.
-/

namespace TurboMac.Top

open Members Decimal Daemon
open Strtod (InRange)
open Kext (U32)

/-! ## Every key is found at its member -/

/-- The values that a status is made of. -/
def Reported (v : Value) : Prop :=
  (∃ text, v = .bare text ∧ '"' ∉ text) ∨ ∃ band, v = .string (bandName band).toList

theorem reported_flag (b : Bool) : Reported (flag b) := by
  refine .inl ⟨_, rfl, ?_⟩
  cases b with
  | true => decide
  | false => decide

theorem quote_notMem_digits {digits : Text} (h : digits.all Char.isDigit = true) : '"' ∉ digits := by
  rw [List.all_eq_true] at h
  intro hmem
  exact absurd (h _ hmem) (by decide)

theorem reported_natural {w : ℕ} (value : BitVec w) : Reported (natural value) :=
  .inl ⟨_, rfl, quote_notMem_digits (all_toDigits _)⟩

theorem reported_decimals (v : ℚ) : Reported (decimals v) := by
  obtain ⟨hall, -, -⟩ := fraction_spec 3 (roundHalfEven (|v| * 10 ^ 3)).toNat
  refine .inl ⟨_, rfl, ?_⟩
  unfold ofRat fixed
  simp only [List.mem_append, List.mem_cons, not_or]
  have hminus : '"' ∉ minus (decide (v < 0)) := by
    cases decide (v < 0) with
    | true => decide
    | false => decide
  have hpart := quote_notMem_digits hall
  simp only [List.mem_append, not_or] at hpart
  exact ⟨hminus, quote_notMem_digits (all_toDigits _), by decide, hpart.1, hpart.2⟩

theorem reported_temperature (v : Option ℚ) : Reported (temperature v) := by
  cases v with
  | some v => exact reported_decimals v
  | none => exact .inl ⟨_, rfl, by decide⟩

theorem reported_testFlag (flags : Option U32) (mask : U32) : Reported (testFlag flags mask) :=
  reported_flag _

section

variable {d : StatusDaemon} {snapshot : PolicySnapshot} {input : StatusInput} {key : String}
  {tail : Text}

theorem reported_members (d : StatusDaemon) (snapshot : PolicySnapshot) (input : StatusInput) :
    ∀ m ∈ d.members snapshot input, Reported m.2 := by
  unfold StatusDaemon.members StatusDaemon.policyMembers hwpMembers driverMembers
  simp only [List.forall_mem_append, List.forall_mem_cons, reported_flag, reported_natural,
    reported_decimals, reported_temperature, reported_testFlag, true_and, List.not_mem_nil,
    IsEmpty.forall_iff, implies_true, and_true]
  exact .inr ⟨_, rfl⟩

/-- The keys of a status. -/
def statusKeys : List String :=
  ["ok", "armed", "profile_valid", "auto_arm", "validation_passed", "telemetry_ready", "band",
    "input_w", "capacity_w", "package_w", "filtered_package_w", "aligned_package_w", "non_cpu_w",
    "raw_non_cpu_observation_w", "non_cpu_observation_w", "filtered_input_w", "predicted_input_w",
    "guard_w", "shed_w", "emergency_w", "state_target_w", "desired_pl1_w", "pl1_w", "pl2_w",
    "recovery_interval_s", "cpu_temp_c", "cpu_die_temp_c", "non_cpu_over_budget",
    "smc_invalid_consecutive", "apple_guard_enabled", "rapl_locked", "hwp_supported", "hwp_enabled",
    "hwp_maximum_restricted", "hwp_override_active", "hwp_enabled_by_turbomac",
    "hwp_native_restore_requires_reboot", "hwp_failsafe_active", "hwp_readback_valid",
    "hwp_status_flags", "hwp_logical_cpu_count", "hwp_capabilities_raw", "hwp_package_request_raw",
    "hwp_failsafe_request_raw", "driver_capability_flags", "driver_minimum_power_w",
    "driver_maximum_power_w", "driver_thermal_spec_power_w", "driver_ceiling_pl1_w",
    "driver_ceiling_pl2_w", "driver_state", "driver_restore_reason", "current_package_limit_raw",
    "current_power_control_raw"]

theorem keys_members (d : StatusDaemon) (snapshot : PolicySnapshot) (input : StatusInput) :
    (d.members snapshot input).map (·.1) = statusKeys := rfl

/-- A key is a word, and no band is called so. -/
theorem statusKeys_words : ∀ key ∈ statusKeys, Word key.toList ∧
    key ∉ ["cruise", "guard", "shed", "emergency"] := by
  decide +kernel

theorem quote_notMem_bandName (band : GovernorBand) : '"' ∉ (bandName band).toList := by
  cases band <;> decide

theorem bandName_mem (band : GovernorBand) : bandName band ∈ ["cruise", "guard", "shed", "emergency"] := by
  cases band <;> decide

theorem bandName_known (band : GovernorBand) :
    (bandName band).toList = "cruise".toList ∨ (bandName band).toList = "guard".toList ∨
      (bandName band).toList = "shed".toList ∨ (bandName band).toList = "emergency".toList := by
  cases band with
  | cruise => exact .inl rfl
  | guard => exact .inr (.inl rfl)
  | shed => exact .inr (.inr (.inl rfl))
  | emergency => exact .inr (.inr (.inr rfl))

theorem searchable_members (hkey : key ∈ statusKeys) : Searchable key (d.members snapshot input) := by
  have hreported := reported_members d snapshot input
  refine ⟨?_, ?_, ?_⟩
  · intro m hm
    have hmem : m.1 ∈ statusKeys := by
      rw [← keys_members d snapshot input]
      exact List.mem_map_of_mem hm
    exact (statusKeys_words _ hmem).1.1
  · intro m hm
    rcases hreported m hm with ⟨text, hv, htext⟩ | ⟨band, hv⟩
    · rw [hv]
      exact htext
    · rw [hv]
      exact quote_notMem_bandName band
  · intro m hm
    rcases hreported m hm with ⟨text, hv, htext⟩ | ⟨band, hv⟩
    · rw [hv]
      intro heq
      apply htext
      have heq' : text = quoted key.toList := heq
      rw [heq']
      exact List.mem_cons_self
    · rw [hv]
      intro heq
      have heq' : (bandName band).toList ++ ['"'] = key.toList ++ ['"'] := (List.cons.inj heq).2
      rw [List.append_cancel_right_eq, String.toList_inj] at heq'
      apply (statusKeys_words key hkey).2
      rw [← heq']
      exact bandName_mem band

theorem mem_statusKeys {v : Value} (h : (d.members snapshot input).lookup key = some v) :
    key ∈ statusKeys := by
  rw [← keys_members d snapshot input]
  obtain ⟨before, behind, hmembers, -⟩ := List.lookup_eq_some_iff.mp h
  rw [hmembers]
  simp

/-! ## The fields -/

/-- The text up to the logical CPUs, and the rest. -/
def openText (d : StatusDaemon) (snapshot : PolicySnapshot) (input : StatusInput) (tail : Text) : Text :=
  '{' :: (render (d.members snapshot input) ++ tail)

theorem readBool_status {b : Bool} (hlookup : (d.members snapshot input).lookup key = some (flag b)) :
    readBool (openText d snapshot input tail) key = some b := by
  have hkey := mem_statusKeys hlookup
  exact readBool_members (statusKeys_words key hkey).1 (searchable_members hkey) hlookup

theorem readDouble_status {v : ℚ} (hv : InRange v)
    (hlookup : (d.members snapshot input).lookup key = some (decimals v)) :
    readDouble (openText d snapshot input tail) key = some (rounded 3 v) := by
  have hkey := mem_statusKeys hlookup
  exact readDouble_members (statusKeys_words key hkey).1 (searchable_members hkey) hv hlookup

theorem readUnsigned_status {v : U32}
    (hlookup : (d.members snapshot input).lookup key = some (natural v)) :
    readUnsigned (openText d snapshot input tail) key = some v := by
  have hkey := mem_statusKeys hlookup
  exact readUnsigned_members (statusKeys_words key hkey).1 (searchable_members hkey) hlookup

theorem readBand_status :
    readString (openText d snapshot input tail) "band" = some (bandName snapshot.band).toList := by
  have hlookup : (d.members snapshot input).lookup "band" = some (.string (bandName snapshot.band).toList) := rfl
  have hkey := mem_statusKeys hlookup
  exact readString_members (statusKeys_words _ hkey).1 (searchable_members hkey)
    (quote_notMem_bandName _) hlookup

/-- A temperature that could not be read is no number. -/
theorem readDouble_null (h : d.latestTemperatureC = none) :
    readDouble (openText d snapshot input tail) "cpu_temp_c" = none := by
  have hlookup : (d.members snapshot input).lookup "cpu_temp_c" = some (temperature none) := by
    rw [← h]
    rfl
  have hkey := mem_statusKeys hlookup
  have hblank : ∀ c rest, (temperature none).text = c :: rest → isBlank c = false := by
    intro c rest heq
    cases heq
    decide
  obtain ⟨rest, hfind⟩ := findValue_members (statusKeys_words _ hkey).1 (searchable_members hkey) hlookup
    hblank tail
  unfold readDouble openText
  rw [hfind]
  rfl

/-- The numbers that the cockpit reads are finite doubles. -/
structure FiniteSnapshot (snapshot : PolicySnapshot) : Prop where
  inputW : InRange snapshot.inputW
  capacityW : InRange snapshot.capacityW
  packageW : InRange snapshot.packageW
  nonCPUW : InRange snapshot.nonCPUW
  guardW : InRange snapshot.guardW
  shedW : InRange snapshot.shedW
  emergencyW : InRange snapshot.emergencyW
  pl1W : InRange snapshot.pl1W
  pl2W : InRange snapshot.pl2W

/-- What is parsed is what the daemon has, its numbers to three decimals. -/
structure Agrees (d : StatusDaemon) (snapshot : PolicySnapshot) (input : StatusInput) (parsed : Snapshot) :
    Prop where
  valid : parsed.valid = true
  ok : parsed.ok = true
  armed : parsed.armed = d.armed
  profileValid : parsed.profileValid = d.profile.isSome
  autoArm : parsed.autoArm = d.profile.any (·.autoArm)
  validationPassed : parsed.validationPassed = d.profile.any (·.validationPassed)
  telemetryReady : parsed.telemetryReady = snapshot.ready
  nonCPUOverBudget : parsed.nonCPUOverBudget = snapshot.nonCPUOverBudget
  appleGuardEnabled : parsed.appleGuardEnabled =
    flagSet ((d.answer input.capabilities).map (·.flags)) capabilityBidirProchotEnabled
  raplLocked : parsed.raplLocked =
    flagSet ((d.answer input.capabilities).map (·.flags)) capabilityLimitLocked
  hwpEnabled : parsed.hwpEnabled = flagSet ((d.hwpStatus input).map (·.flags)) hwpStatusEnabled
  hwpReadbackValid : parsed.hwpReadbackValid =
    flagSet ((d.hwpStatus input).map (·.flags)) hwpStatusReadbackValid
  hwpFailsafeActive : parsed.hwpFailsafeActive =
    flagSet ((d.hwpStatus input).map (·.flags)) hwpStatusFailsafeRequestActive
  band : parsed.band = (bandName snapshot.band).toList
  inputW : parsed.inputW = rounded 3 snapshot.inputW
  capacityW : parsed.capacityW = rounded 3 snapshot.capacityW
  packageW : parsed.packageW = rounded 3 snapshot.packageW
  nonCPUW : parsed.nonCPUW = rounded 3 snapshot.nonCPUW
  guardW : parsed.guardW = rounded 3 snapshot.guardW
  shedW : parsed.shedW = rounded 3 snapshot.shedW
  emergencyW : parsed.emergencyW = rounded 3 snapshot.emergencyW
  pl1W : parsed.pl1W = rounded 3 snapshot.pl1W
  pl2W : parsed.pl2W = rounded 3 snapshot.pl2W
  cpuTempC : ∀ t, d.latestTemperatureC = some t → parsed.cpuTempC = rounded 3 t
  smcInvalidConsecutive : parsed.smcInvalidConsecutive = d.smcFailures
  hwpLogicalCPUCount : parsed.hwpLogicalCPUCount = (d.hwpStatus input).elim 0 (·.logicalCPUCount)

/-- The daemon's own values, its numbers to three decimals. -/
def shown (d : StatusDaemon) (snapshot : PolicySnapshot) (input : StatusInput) (cpuTempC : ℚ) : Snapshot where
  valid := true
  ok := true
  armed := d.armed
  profileValid := d.profile.isSome
  autoArm := d.profile.any (·.autoArm)
  validationPassed := d.profile.any (·.validationPassed)
  telemetryReady := snapshot.ready
  band := (bandName snapshot.band).toList
  inputW := rounded 3 snapshot.inputW
  capacityW := rounded 3 snapshot.capacityW
  packageW := rounded 3 snapshot.packageW
  nonCPUW := rounded 3 snapshot.nonCPUW
  guardW := rounded 3 snapshot.guardW
  shedW := rounded 3 snapshot.shedW
  emergencyW := rounded 3 snapshot.emergencyW
  pl1W := rounded 3 snapshot.pl1W
  pl2W := rounded 3 snapshot.pl2W
  cpuTempC := rounded 3 cpuTempC
  nonCPUOverBudget := snapshot.nonCPUOverBudget
  smcInvalidConsecutive := d.smcFailures
  appleGuardEnabled := flagSet ((d.answer input.capabilities).map (·.flags)) capabilityBidirProchotEnabled
  raplLocked := flagSet ((d.answer input.capabilities).map (·.flags)) capabilityLimitLocked
  hwpEnabled := flagSet ((d.hwpStatus input).map (·.flags)) hwpStatusEnabled
  hwpFailsafeActive := flagSet ((d.hwpStatus input).map (·.flags)) hwpStatusFailsafeRequestActive
  hwpReadbackValid := flagSet ((d.hwpStatus input).map (·.flags)) hwpStatusReadbackValid
  hwpLogicalCPUCount := (d.hwpStatus input).elim 0 (·.logicalCPUCount)

/-- A status with a temperature is read. -/
theorem parse_status (h : FiniteSnapshot snapshot) {t : ℚ} (ht : InRange t)
    (htemperature : d.latestTemperatureC = some t) :
    ∃ parsed, parseStatusJSON (openText d snapshot input tail) = .ok parsed ∧
      Agrees d snapshot input parsed := by
  have htemp : (d.members snapshot input).lookup "cpu_temp_c" = some (decimals t) := by
    have hvalue : decimals t = temperature d.latestTemperatureC := by rw [htemperature]; rfl
    rw [hvalue]
    rfl
  have hread : readFields (openText d snapshot input tail) =
      some { shown d snapshot input t with valid := false } := by
    unfold readFields
    rw [readBool_status (b := true) rfl, readBool_status (b := d.armed) rfl,
      readBool_status (b := d.profile.isSome) rfl, readBool_status (b := d.profile.any (·.autoArm)) rfl,
      readBool_status (b := d.profile.any (·.validationPassed)) rfl,
      readBool_status (b := snapshot.ready) rfl, readBand_status,
      readDouble_status h.inputW rfl, readDouble_status h.capacityW rfl, readDouble_status h.packageW rfl,
      readDouble_status h.nonCPUW rfl, readDouble_status h.guardW rfl, readDouble_status h.shedW rfl,
      readDouble_status h.emergencyW rfl, readDouble_status h.pl1W rfl, readDouble_status h.pl2W rfl,
      readDouble_status ht htemp, readBool_status (b := snapshot.nonCPUOverBudget) rfl,
      readUnsigned_status (v := d.smcFailures) rfl,
      readBool_status (b := flagSet ((d.answer input.capabilities).map (·.flags)) _) rfl,
      readBool_status (b := flagSet ((d.answer input.capabilities).map (·.flags)) _) rfl,
      readBool_status (b := flagSet ((d.hwpStatus input).map (·.flags)) _) rfl,
      readBool_status (b := flagSet ((d.hwpStatus input).map (·.flags)) _) rfl,
      readBool_status (b := flagSet ((d.hwpStatus input).map (·.flags)) _) rfl,
      readUnsigned_status (v := (d.hwpStatus input).elim 0 (·.logicalCPUCount)) rfl]
    rfl
  refine ⟨shown d snapshot input t, ?_, ?_⟩
  · unfold parseStatusJSON
    rw [hread]
    exact if_pos (bandName_known snapshot.band)
  · constructor
    case cpuTempC =>
      intro t' ht'
      rw [htemperature] at ht'
      cases ht'
      rfl
    all_goals rfl

/-- A status without one is refused. -/
theorem parse_status_null (h : d.latestTemperatureC = none) :
    parseStatusJSON (openText d snapshot input tail) = .error "missing or malformed status field" := by
  have hread : readFields (openText d snapshot input tail) = none := by
    unfold readFields
    rw [readDouble_null h]
    simp only [Option.bind_eq_bind, Option.bind_none, Option.bind_fun_none]
  unfold parseStatusJSON
  rw [hread]

end

/-- The daemon after a first sample of 30 W at 80 W. -/
def sampledDaemon (temperature : Option ℚ) : StatusDaemon :=
  ((⟨TurboMacDaemon.opened sampleCapabilities, none⟩ : StatusDaemon).sampleSMC 0 true sampleReading
    temperature none).2

/-- Nothing is answered by the driver. -/
def silentDriver (now : ℚ) : StatusInput := ⟨now, none, none, none⟩

/-- **The status is read back**: the cockpit accepts it and has what the daemon has iff the
temperature could be read. -/
theorem status_read_iff (exp : ℚ → ℚ) (d : StatusDaemon) (input : StatusInput)
    (hsnapshot : FiniteSnapshot (d.policy.evaluate exp input.now).snapshot)
    (htemperature : ∀ t, d.latestTemperatureC = some t → InRange t) :
    (∃ parsed, parseStatusJSON (d.statusJSON exp input).1 = .ok parsed ∧
      Agrees d (d.policy.evaluate exp input.now).snapshot input parsed) ↔
    d.latestTemperatureC.isSome = true := by
  have htext : (d.statusJSON exp input).1 =
      openText d (d.policy.evaluate exp input.now).snapshot input (cpusText (d.hwpStatus input)) := rfl
  rw [htext]
  constructor
  · rintro ⟨parsed, hparsed, -⟩
    cases htemp : d.latestTemperatureC with
    | some t => rfl
    | none =>
        rw [parse_status_null htemp] at hparsed
        cases hparsed
  · intro hsome
    obtain ⟨t, ht⟩ := Option.isSome_iff_exists.mp hsome
    exact parse_status hsnapshot (htemperature t ht) ht

theorem status_read_sample : ∃ parsed,
    parseStatusJSON ((sampledDaemon (some 55)).statusJSON id (silentDriver 1)).1 = .ok parsed ∧
      Agrees (sampledDaemon (some 55)) ((sampledDaemon (some 55)).policy.evaluate id 1).snapshot
        (silentDriver 1) parsed := by
  have hsnapshot : FiniteSnapshot ((sampledDaemon (some 55)).policy.evaluate id 1).snapshot := by
    constructor
    all_goals decide +kernel
  have hread : (sampledDaemon (some 55)).latestTemperatureC = some 55 := by decide +kernel
  have htemperature : ∀ t, (sampledDaemon (some 55)).latestTemperatureC = some t → InRange t := by
    intro t ht
    rw [hread] at ht
    cases ht
    decide +kernel
  exact (status_read_iff id _ (silentDriver 1) hsnapshot htemperature).mpr (hread ▸ rfl)

/-- The first sample is accepted without a temperature, and the status is then refused. -/
theorem unread_temperature :
    ((⟨TurboMacDaemon.opened sampleCapabilities, none⟩ : StatusDaemon).sampleSMC 0 true sampleReading
      none none).1 = true ∧
    parseStatusJSON ((sampledDaemon none).statusJSON id (silentDriver 1)).1 =
      .error "missing or malformed status field" := by
  have hunread : (sampledDaemon none).latestTemperatureC = none := by decide +kernel
  exact ⟨by decide +kernel, parse_status_null hunread⟩

end TurboMac.Top
