import TurboMac.Daemon.Disarm
import TurboMac.Daemon.Milliwatts
import TurboMac.Daemon.ProfileRoundTrip
import TurboMac.Daemon.TopRequest
import TurboMac.Kext.Driver

/-! # Whether daemon and driver agree on the bounds

The daemon derives its requests within a configuration of profile, capabilities
and package limit; the driver checks them against its own floor and ceilings. Both
meet in the highest limits of the configuration: what the driver says to them, it
says to every request. The powers of the daemon are doubles.
-/

namespace TurboMac.Daemon

open Kext (Platform World U32 U64 validateRequestLocked)
open Program (exec)

/-! ## The driver's side -/

/-- The request of `DriverClient::arm` and `DriverClient::update`. -/
def limitRequest (pl1MW pl2MW hwpMode : U32) (sequence : U64) : Kext.LimitRequest where
  version := Kext.protocolVersion
  size := Kext.limitRequestSize
  pl1MW := pl1MW
  pl2MW := pl2MW
  watchdogTimeoutMS := 5000
  hwpMode := hwpMode
  sequence := sequence

namespace Capabilities

/-- The package limit the daemon has read, in milliwatts. -/
def packageLimitMW (capabilities : Capabilities) (second : Bool) : U32 :=
  Kext.raplRawToMW
    (if second then Kext.raplPl2Raw capabilities.currentPackageLimitRaw
      else Kext.raplPl1Raw capabilities.currentPackageLimitRaw)
    capabilities.raplPowerExponent

/-- What the checks of the driver rest on is as the daemon has read it: the package
limit is in the register before it is captured, and in the ceilings from then on. -/
structure Unchanged (P : Platform) (capabilities : Capabilities) (w : World) : Prop where
  floorMW : w.driver.floorMW = capabilities.minimumPowerMW
  maximumMW : w.driver.capabilityMaximumMW = capabilities.maximumPowerMW
  powerExponent : w.driver.powerExponent = capabilities.raplPowerExponent
  register : w.driver.captured = false →
    P.rdmsr w.log Kext.msrPackagePowerLimit = capabilities.currentPackageLimitRaw
  ceilings : w.driver.captured = true →
    w.driver.ceilingPL1MW = capabilities.packageLimitMW false ∧
      w.driver.ceilingPL2MW = capabilities.packageLimitMW true

/-- The driver accepts the limits: `arm` by its first check and, with the package limit
captured, by its second one, and `update` by both of its checks. -/
def Accepted (capabilities : Capabilities) (pl1MW pl2MW : U32) : Prop :=
  ∀ (P : Platform) (w : World) (isArm : Bool) (hwpMode : U32) (sequence : U64),
    capabilities.Unchanged P w → (isArm = true ∨ w.driver.captured = true) →
    (hwpMode = Kext.hwpReleaseMaximum ∨ hwpMode = Kext.hwpBootstrapAndReleaseMaximum) →
    w.driver.lastSequence < sequence →
    (exec (validateRequestLocked P (some (limitRequest pl1MW pl2MW hwpMode sequence)) isArm) w).1 =
      true

/-- The ceiling the driver makes of a package limit. -/
def ceilingMW (capabilities : Capabilities) (second : Bool) : U32 :=
  Kext.minimumNonZero (capabilities.packageLimitMW second) capabilities.maximumPowerMW

/-- The floor and the ceilings of the driver. -/
def admits (capabilities : Capabilities) (pl1MW pl2MW : U32) : Bool :=
  decide (capabilities.minimumPowerMW ≤ pl1MW ∧ pl1MW ≤ pl2MW ∧
    0 < capabilities.ceilingMW false ∧ 0 < capabilities.ceilingMW true ∧
    pl1MW ≤ capabilities.ceilingMW false ∧ pl2MW ≤ capabilities.ceilingMW true)

variable {capabilities : Capabilities} {pl1MW pl2MW : U32}

/-- The driver's answer, where nothing has changed since the daemon read the capabilities. -/
theorem validateRequestLocked_eq_admits {P : Platform} {w : World} {isArm : Bool} {hwpMode : U32}
    {sequence : U64} (h : capabilities.Unchanged P w)
    (hcaptured : isArm = true ∨ w.driver.captured = true)
    (hmode : hwpMode = Kext.hwpReleaseMaximum ∨ hwpMode = Kext.hwpBootstrapAndReleaseMaximum)
    (hsequence : w.driver.lastSequence < sequence) :
    (exec (validateRequestLocked P (some (limitRequest pl1MW pl2MW hwpMode sequence)) isArm) w).1 =
      capabilities.admits pl1MW pl2MW := by
  have hheader : ∀ ceilingPL1MW ceilingPL2MW : U32,
      Kext.validateLimitRequest (some (limitRequest pl1MW pl2MW hwpMode sequence))
          w.driver.lastSequence w.driver.floorMW ceilingPL1MW ceilingPL2MW Kext.watchdogTimeoutMS =
        decide (capabilities.minimumPowerMW ≤ pl1MW ∧ pl1MW ≤ pl2MW ∧ 0 < ceilingPL1MW ∧
          0 < ceilingPL2MW ∧ pl1MW ≤ ceilingPL1MW ∧ pl2MW ≤ ceilingPL2MW) := by
    intro ceilingPL1MW ceilingPL2MW
    rw [h.floorMW]
    unfold Kext.validateLimitRequest limitRequest
    simp [hmode, hsequence, Kext.watchdogTimeoutMS]
  unfold validateRequestLocked
  rw [Program.exec_bind, Kext.exec_getDriver, Program.exec_ite]
  cases hcase : w.driver.captured with
  | false =>
    -- without a capture the ceilings are those of the live register
    have hisArm : isArm = true := by
      rcases hcaptured with hisArm | hcontra
      · exact hisArm
      · rw [hcase] at hcontra
        cases hcontra
    rw [if_pos (by rw [hisArm]; rfl)]
    rw [Program.exec_bind]
    have hread : (exec (Kext.rdmsr64 P Kext.msrPackagePowerLimit) w).1 =
        capabilities.currentPackageLimitRaw := h.register hcase
    rw [hread, Program.exec_pure]
    dsimp only
    rw [hheader, h.maximumMW, h.powerExponent]
    rfl
  | true =>
    -- with one they are those captured
    have hceilings := h.ceilings hcase
    rw [if_neg (by simp), Program.exec_pure]
    dsimp only
    rw [hheader, h.maximumMW, hceilings.1, hceilings.2]
    rfl

/-- Hardware and a driver as the daemon has read them. -/
theorem exists_unchanged (capabilities : Capabilities) :
    ∃ P w, capabilities.Unchanged P w ∧ w.driver.lastSequence < 1 := by
  refine ⟨⟨fun _ _ => capabilities.currentPackageLimitRaw, fun _ _ => [], fun _ => [], fun _ _ => [],
    fun _ _ => 0, fun _ => 0, id⟩, ⟨{ Kext.initialDriver with
      floorMW := capabilities.minimumPowerMW
      capabilityMaximumMW := capabilities.maximumPowerMW
      powerExponent := capabilities.raplPowerExponent }, []⟩, ?_, ?_⟩
  · constructor
    · rfl
    · rfl
    · rfl
    · intro _
      rfl
    · intro hcaptured
      cases hcaptured
  · show (0 : U64) < 1
    decide

theorem accepted_iff : capabilities.Accepted pl1MW pl2MW ↔ capabilities.admits pl1MW pl2MW = true := by
  constructor
  · intro haccepted
    rcases exists_unchanged capabilities with ⟨P, w, hunchanged, hsequence⟩
    rw [← validateRequestLocked_eq_admits hunchanged (.inl rfl) (.inl rfl) hsequence]
    exact haccepted P w true _ 1 hunchanged (.inl rfl) (.inl rfl) hsequence
  · intro hadmits P w isArm hwpMode sequence hunchanged hcaptured hmode hsequence
    rw [validateRequestLocked_eq_admits hunchanged hcaptured hmode hsequence]
    exact hadmits

end Capabilities

/-! ## The configuration -/

/-- What `configurePolicy` makes of a profile. -/
def configOf (capabilities : Capabilities) (profile : CalibrationProfile) : PolicyConfig :=
  Rounded.policyConfig Double.round capabilities profile

/-- The highest limits of the configuration. -/
def topPL1 (capabilities : Capabilities) (profile : CalibrationProfile) : ℚ :=
  (configOf capabilities profile).topPL1 Double.round

def topPL2 (capabilities : Capabilities) (profile : CalibrationProfile) : ℚ :=
  (configOf capabilities profile).topPL2 Double.round

/-- The driver admits the highest limits that the profile can ask for. -/
def TopFits (capabilities : Capabilities) (profile : CalibrationProfile) : Prop :=
  capabilities.admits (wattsToMW (topPL1 capabilities profile))
    (wattsToMW (topPL2 capabilities profile)) = true

instance (capabilities : Capabilities) (profile : CalibrationProfile) :
    Decidable (TopFits capabilities profile) := inferInstanceAs (Decidable (_ = _))

section

variable {capabilities : Capabilities} {profile : CalibrationProfile}

/-- The configuration of a profile that has been validated, and whose numbers are doubles. -/
theorem sane_configOf (h : profile.Validated)
    (hdoubles : Rounded.roundNumbers Double.round profile = profile) :
    (configOf capabilities profile).Sane Double.round := by
  have hguard := h.guard_ge
  have hshed := h.guard_lt
  have hemergency := h.shed_lt
  have hshedTarget := h.shedTarget_ge
  have hguardTarget := h.shedTarget_lt
  have hcruiseTarget := h.guardTarget_lt
  have hfloor : Double.round profile.raplFloorW = profile.raplFloorW :=
    congrArg CalibrationProfile.raplFloorW hdoubles
  have hone : Double.round 1 = 1 := by exact_mod_cast @Double.round_intCast 1 (by norm_num)
  constructor
  · exact IsRounding.max_eq (IsRounding.max_eq hone (Double.round_round _)) hfloor
  · exact congrArg CalibrationProfile.packageToInputInterceptW hdoubles
  · exact le_trans (by norm_num) h.reserve_ge
  · exact le_trans (by norm_num) h.slope_ge
  · show 0 ≤ profile.emergencyRatio
    linarith
  · show 0 ≤ profile.cruiseTargetRatio
    linarith
  · exact hcruiseTarget.le
  · exact (hguardTarget.trans hcruiseTarget).le

theorem floor_configOf : (configOf capabilities profile).raplFloorW =
    max (max 1 (Double.round ((capabilities.minimumPowerMW.toNat : ℚ) / 1000))) profile.raplFloorW :=
  rfl

theorem floor_pos : 0 < (configOf capabilities profile).raplFloorW := by
  rw [floor_configOf]
  exact lt_of_lt_of_le one_pos ((le_max_left _ _).trans (le_max_left _ _))

theorem minimum_le_floor : Double.round ((capabilities.minimumPowerMW.toNat : ℚ) / 1000) ≤
    (configOf capabilities profile).raplFloorW := by
  rw [floor_configOf]
  exact (le_max_right _ _).trans (le_max_left _ _)

theorem ceilingPL1_le : (configOf capabilities profile).raplCeilingPL1W ≤
    Double.round (((capabilities.packageLimitMW false).toNat : ℚ) / 1000) := min_le_left _ _

theorem ceilingPL2_le : (configOf capabilities profile).raplCeilingPL2W ≤
    Double.round (((capabilities.packageLimitMW true).toNat : ℚ) / 1000) := min_le_left _ _

/-! ## The highest limits -/

/-- What does not fit in 32 bits is not of a ceiling. -/
theorem clampValue_eq_of_wraps {x low high : ℚ} {mw : U32}
    (hhigh : high ≤ Double.round (mw.toNat / 1000))
    (hwraps : ¬ milliwatts (clampValue x low high) < 2 ^ 32) : clampValue x low high = low := by
  rcases max_choice low (min x high) with hlow | hother
  · exact hlow
  · have hle := milliwatts_mono ((min_le_right x high).trans hhigh)
    have hfits := milliwatts_lt_of_le (le_refl ((mw.toNat : ℚ) / 1000))
    rw [milliwatts_round] at hle
    unfold clampValue at hwraps
    rw [hother] at hwraps
    exact absurd (hle.trans_lt hfits) hwraps

theorem topPL1_eq_floor (hwraps : ¬ milliwatts (topPL1 capabilities profile) < 2 ^ 32) :
    topPL1 capabilities profile = (configOf capabilities profile).raplFloorW := by
  unfold topPL1 PolicyConfig.topPL1 at hwraps ⊢
  split
  · rename_i hleaves
    rw [if_pos hleaves] at hwraps
    exact clampValue_eq_of_wraps ceilingPL1_le hwraps
  · rfl

theorem topPL2_eq_topPL1 (hwraps : ¬ milliwatts (topPL2 capabilities profile) < 2 ^ 32) :
    topPL2 capabilities profile = topPL1 capabilities profile := by
  unfold topPL2 PolicyConfig.topPL2 at hwraps ⊢
  split
  · rename_i hleaves
    rw [if_pos hleaves] at hwraps
    exact clampValue_eq_of_wraps ceilingPL2_le hwraps
  · rfl

/-- What is between the floor and the top is admitted with the top. -/
theorem admits_of_within {snapshot : PolicySnapshot} (htop : TopFits capabilities profile)
    (h : Rounded.Within Double.round (configOf capabilities profile) snapshot) :
    capabilities.admits (wattsToMW snapshot.pl1W) (wattsToMW snapshot.pl2W) = true := by
  have hfloor : 0 < (configOf capabilities profile).raplFloorW := floor_pos
  have hpl1 : 0 < snapshot.pl1W := hfloor.trans_le h.floor_le
  by_cases hfits : milliwatts (topPL2 capabilities profile) < 2 ^ 32
  · -- nothing wraps, and rounding keeps the order
    have hpl2Fits : milliwatts snapshot.pl2W < 2 ^ 32 := (milliwatts_mono h.pl2_le).trans_lt hfits
    have hpl1Fits : milliwatts snapshot.pl1W < 2 ^ 32 := (milliwatts_mono h.pl1_le_pl2).trans_lt hpl2Fits
    have htopFits : milliwatts (topPL1 capabilities profile) < 2 ^ 32 :=
      (milliwatts_mono (PolicyConfig.topPL1_le_topPL2 _ _)).trans_lt hfits
    have hle₁ := wattsToMW_mono hpl1 h.pl1_le htopFits
    have hle₂ := wattsToMW_mono (hpl1.trans_le h.pl1_le_pl2) h.pl2_le hfits
    unfold TopFits Capabilities.admits at htop
    unfold Capabilities.admits
    rw [decide_eq_true_eq] at htop ⊢
    rcases htop with ⟨_, _, hceiling₁, hceiling₂, htop₁, htop₂⟩
    refine ⟨?_, ?_, hceiling₁, hceiling₂, BitVec.le_trans hle₁ htop₁, BitVec.le_trans hle₂ htop₂⟩
    · exact le_wattsToMW hpl1 (minimum_le_floor.trans h.floor_le) hpl1Fits
    · exact wattsToMW_mono hpl1 h.pl1_le_pl2 hpl2Fits
  · -- the floor itself wraps, and there is but one request
    have htop₂ := topPL2_eq_topPL1 hfits
    have htop₁ := topPL1_eq_floor (htop₂ ▸ hfits)
    have hpl1W : snapshot.pl1W = topPL1 capabilities profile := by
      apply le_antisymm h.pl1_le
      exact htop₁.le.trans h.floor_le
    have hpl2W : snapshot.pl2W = topPL2 capabilities profile := by
      apply le_antisymm h.pl2_le
      exact (htop₂.trans hpl1W.symm).le.trans h.pl1_le_pl2
    rw [hpl1W, hpl2W]
    exact htop

end

/-! ## The requests of the daemon -/

/-- The limits a call of the driver asks for. -/
def Event.limits : Event → Option (U32 × U32)
  | .driverArm pl1MW pl2MW _ | .driverUpdate pl1MW pl2MW => some (pl1MW, pl2MW)
  | _ => none

/-- The driver accepts every limit that has been asked for. -/
def AllAccepted (capabilities : Capabilities) (log : List Event) : Prop :=
  ∀ e ∈ log, ∀ limits ∈ e.limits, capabilities.Accepted limits.1 limits.2

section

variable {capabilities : Capabilities} {d : TurboMacDaemon} {e : Event} {log : List Event}

theorem AllAccepted.cons (h : AllAccepted capabilities log)
    (he : ∀ limits ∈ e.limits, capabilities.Accepted limits.1 limits.2) :
    AllAccepted capabilities (e :: log) := by
  intro e' he'
  rcases List.mem_cons.1 he' with rfl | he'
  · exact he
  · exact h e' he'

theorem AllAccepted.quiet (h : AllAccepted capabilities log) (he : e.limits = none) :
    AllAccepted capabilities (e :: log) := by
  apply h.cons
  intro limits hlimits
  rw [he] at hlimits
  cases hlimits

theorem AllAccepted.command (h : AllAccepted capabilities d.log)
    (he : ∀ limits ∈ e.limits, capabilities.Accepted limits.1 limits.2) (success : Bool) :
    AllAccepted capabilities (d.command e success).2.log := by
  unfold TurboMacDaemon.command
  split
  · exact h.cons he
  · exact h

/-- What `applyPolicy` asks for is in the snapshot. -/
theorem AllAccepted.applyPolicy (h : AllAccepted capabilities d.log) {snapshot : PolicySnapshot}
    (haccepted : capabilities.Accepted (wattsToMW snapshot.pl1W) (wattsToMW snapshot.pl2W)) (now : ℚ)
    (success : Bool) : AllAccepted capabilities (d.applyPolicy snapshot now success).2.log := by
  unfold TurboMacDaemon.applyPolicy
  dsimp only
  split
  · exact h
  generalize hupdate : Event.driverUpdate (wattsToMW snapshot.pl1W) (wattsToMW snapshot.pl2W) = update
  have hcommand : AllAccepted capabilities (d.command update success).2.log := by
    apply h.command
    intro limits hlimits
    rw [← hupdate] at hlimits
    cases hlimits
    exact haccepted
  generalize d.command update success = x at hcommand ⊢
  rcases x with ⟨updated, d₁⟩
  dsimp only at hcommand ⊢
  split
  · exact hcommand
  · exact hcommand

/-- `armEvaluated` asks for the limits of a ready snapshot only. -/
theorem AllAccepted.armEvaluated (h : AllAccepted capabilities d.log)
    (haccepted : d.policy.snapshot.ready = true → capabilities.Accepted
      (wattsToMW d.policy.snapshot.pl1W) (wattsToMW d.policy.snapshot.pl2W)) (reason : String)
    (answers : ArmAnswers) : AllAccepted capabilities (d.armEvaluated reason answers).2.log := by
  unfold TurboMacDaemon.armEvaluated
  dsimp only
  split
  · exact h
  rename_i hpermitted
  simp only [Bool.or_eq_true, not_or] at hpermitted
  rcases hpermitted with ⟨⟨⟨⟨_, hready⟩, _⟩, _⟩, _⟩
  have haccepted := haccepted (by simpa using hready)
  split
  · exact h
  rename_i hwpMode _
  generalize harm : Event.driverArm (wattsToMW d.policy.snapshot.pl1W)
    (wattsToMW d.policy.snapshot.pl2W) hwpMode = arm
  have hcommand : AllAccepted capabilities (d.command arm answers.arm).2.log := by
    apply h.command
    intro limits hlimits
    rw [← harm] at hlimits
    cases hlimits
    exact haccepted
  generalize d.command arm answers.arm = x at hcommand ⊢
  rcases x with ⟨armed, d₁⟩
  dsimp only at hcommand ⊢
  split
  · exact hcommand
  split
  · exact hcommand.command (fun limits hlimits => by cases hlimits) answers.disarm
  · exact hcommand.quiet rfl

end

/-! ## Agreement -/

/-- Every request of a ready snapshot is accepted, after any calls of the policy. -/
def Agree (capabilities : Capabilities) (profile : CalibrationProfile) : Prop :=
  ∀ (exp : ℚ → ℚ) (calls : List PolicyCall),
    let snapshot :=
      (Rounded.feed Double.round exp calls (.reset (configOf capabilities profile))).snapshot
    snapshot.ready = true →
      capabilities.Accepted (wattsToMW snapshot.pl1W) (wattsToMW snapshot.pl2W)

section

variable {capabilities : Capabilities} {profile : CalibrationProfile}

/-- What has been loaded is valid, in doubles. -/
theorem Rounded.validate_of_load {file : Except String Text}
    (h : Rounded.load Double.round file = .ok profile) : ProfileStore.validate profile = true ∧
      Rounded.roundNumbers Double.round profile = profile := by
  unfold Rounded.load at h
  cases file with
  | error message => cases h
  | ok content =>
    simp only [bind, Except.bind] at h
    split at h
    · cases h
    cases hlines : ProfileStore.readLines (content.splitOn '\n') with
    | error message =>
      rw [hlines] at h
      cases h
    | ok values =>
      rw [hlines] at h
      dsimp only at h
      cases hvalues : ProfileStore.readValues values with
      | error message =>
        rw [hvalues] at h
        cases h
      | ok read =>
        rw [hvalues] at h
        dsimp only at h
        split at h
        · rename_i hvalid
          cases h
          refine ⟨hvalid, ?_⟩
          simp only [Rounded.roundNumbers, Double.round_round]
        · cases h

/-- `loadProfile` accepts a profile that can be loaded, and fits. -/
theorem Rounded.loadProfile_eq_some_iff {identity : MachineIdentity} {file : Except String Text} :
    Rounded.loadProfile Double.round capabilities identity file = some profile ↔
      Rounded.load Double.round file = .ok profile ∧ profile.identity = identity ∧
        Rounded.profileFitsCapabilities Double.round capabilities profile = true := by
  unfold Rounded.loadProfile
  cases hload : Rounded.load Double.round file with
  | error message => simp
  | ok profile' =>
    dsimp only
    split
    · rename_i haccepted
      rw [Bool.and_eq_true] at haccepted
      simp only [Option.some.injEq, Except.ok.injEq]
      constructor
      · rintro rfl
        exact ⟨rfl, eq_of_beq haccepted.1, haccepted.2⟩
      · exact fun h => h.1
    · rename_i hrefused
      constructor
      · intro h
        cases h
      · rintro ⟨hsame, hidentity, hfits⟩
        cases hsame
        refine absurd ?_ hrefused
        rw [hfits, Bool.and_true, ProfileStore.«matches», hidentity]
        exact beq_self_eq_true identity

theorem Rounded.sane_of_loadProfile {identity : MachineIdentity} {file : Except String Text}
    (h : Rounded.loadProfile Double.round capabilities identity file = some profile) :
    (configOf capabilities profile).Sane Double.round := by
  obtain ⟨hvalid, hdoubles⟩ := Rounded.validate_of_load (Rounded.loadProfile_eq_some_iff.1 h).1
  exact sane_configOf (ProfileStore.validate_iff.1 hvalid) hdoubles

/-- The highest limits are requests, and those with every other. -/
theorem agree_iff (hc : (configOf capabilities profile).Sane Double.round) :
    Agree capabilities profile ↔ TopFits capabilities profile := by
  constructor
  · intro hagree
    have hidle := Rounded.evaluate_idle Double.isRounding id hc
    have haccepted := hagree id Rounded.idleCalls
    rw [Rounded.feed_idle] at haccepted
    have htop := haccepted hidle.1
    rw [hidle.2.1, hidle.2.2, Capabilities.accepted_iff] at htop
    exact htop
  · intro htop exp calls snapshot hready
    have hheld := Rounded.held_feed Double.isRounding exp calls hc (Rounded.held_reset _)
    rw [Capabilities.accepted_iff]
    exact admits_of_within htop (hheld.within hready)

/-- **The driver accepts what the daemon derives from a profile exactly if it accepts the
highest limits**, and then it accepts what `applyPolicy` and `armGovernor` ask for, whatever the
policy has been through since its last reset. -/
theorem bounds_agree_iff {identity : MachineIdentity} {file : Except String Text}
    (hload : Rounded.loadProfile Double.round capabilities identity file = some profile) :
    (Agree capabilities profile ↔ TopFits capabilities profile) ∧
      (TopFits capabilities profile →
        ∀ (exp : ℚ → ℚ) (calls : List PolicyCall) (d : TurboMacDaemon),
          d.policy = Rounded.feed Double.round exp calls (.reset (configOf capabilities profile)) →
          AllAccepted capabilities d.log →
          (∀ now success, d.policy.snapshot.ready = true →
            AllAccepted capabilities (d.applyPolicy d.policy.snapshot now success).2.log) ∧
          ∀ reason answers,
            AllAccepted capabilities (Rounded.armGovernor Double.round exp d reason answers).2.log) := by
  have hc := Rounded.sane_of_loadProfile hload
  refine ⟨agree_iff hc, ?_⟩
  intro htop exp calls d hpolicy hlog
  have hagree := (agree_iff hc).2 htop
  constructor
  · intro now success hready
    rw [hpolicy] at hready ⊢
    exact hlog.applyPolicy (hagree exp calls hready) now success
  · intro reason answers
    -- the evaluation is one more call
    have harm := hagree exp (calls ++ [.evaluate answers.now])
    unfold Rounded.feed at harm hpolicy
    rw [List.foldl_append, ← hpolicy] at harm
    apply AllAccepted.armEvaluated
    · exact hlog
    · exact harm

end

/-! ## A profile just over the driver's maximum -/

/-- A driver with a maximum of 100 W and a package limit of 110 W. -/
def wideCapabilities : Capabilities :=
  { sampleCapabilities with currentPackageLimitRaw := 0x0000837000008370 }

/-- A profile with one ceiling. -/
def sampleCeiling (ceilingW : ℚ) : CalibrationProfile :=
  { ProfileStore.sampleSaved (5 / 8) with
    raplCeilingPL1W := ceilingW
    raplCeilingPL2W := ceilingW }

/-- What is loaded exactly is loaded in doubles, if its numbers are doubles. -/
theorem Rounded.load_of_load {file : Except String Text} {profile : CalibrationProfile}
    (h : ProfileStore.load file = .ok profile)
    (hdoubles : Rounded.roundNumbers Double.round profile = profile) :
    Rounded.load Double.round file = .ok profile := by
  unfold ProfileStore.load at h
  unfold Rounded.load
  cases file with
  | error message => cases h
  | ok content =>
    simp only [bind, Except.bind] at h ⊢
    split at h
    · cases h
    rename_i hlength
    rw [if_neg hlength]
    dsimp only [pure, Except.pure] at h ⊢
    cases hlines : ProfileStore.readLines (content.splitOn '\n') with
    | error message =>
      rw [hlines] at h
      cases h
    | ok values =>
      rw [hlines] at h
      dsimp only at h ⊢
      cases hvalues : ProfileStore.readValues values with
      | error message =>
        rw [hvalues] at h
        cases h
      | ok read =>
        rw [hvalues] at h
        dsimp only at h ⊢
        split at h
        · rename_i hvalid
          cases h
          rw [hdoubles, if_pos hvalid]
        · cases h

theorem loadProfile_sampleCeiling {ceilingW : ℚ} (hdouble : IsDouble ceilingW)
    (hvalid : ProfileStore.validate (sampleCeiling ceilingW) = true)
    (hback : (sampleCeiling ceilingW).readBack = sampleCeiling ceilingW)
    (hdoubles : Rounded.roundNumbers Double.round (sampleCeiling ceilingW) = sampleCeiling ceilingW)
    (hfits : Rounded.profileFitsCapabilities Double.round wideCapabilities (sampleCeiling ceilingW) =
      true) :
    Rounded.loadProfile Double.round wideCapabilities (sampleCeiling ceilingW).identity
      (ProfileStore.save (sampleCeiling ceilingW) (.ok ())) = some (sampleCeiling ceilingW) := by
  have hpowers : (sampleCeiling ceilingW).DoublePowers :=
    ⟨(ProfileStore.sampleSaved_powers (5 / 8)).floor, hdouble, hdouble⟩
  have hload := ProfileStore.load_save (ProfileStore.validate_iff.1 hvalid) hpowers
  rw [hback, if_pos hvalid] at hload
  exact Rounded.loadProfile_eq_some_iff.2 ⟨Rounded.load_of_load hload hdoubles, rfl, hfits⟩

/-- The first samples after a reset, at 30 W of 250 W and a package power of 10 W. -/
def wideCalls : List PolicyCall := [.updateSMC 12 30 250, .updatePackagePower 12 10]

/-- A daemon whose telemetry has been valid for ten seconds, and whose policy has these samples. -/
def wideDaemon (profile : CalibrationProfile) : TurboMacDaemon :=
  { TurboMacDaemon.opened wideCapabilities with
    profile := some profile
    validTelemetrySince := 2
    policy := Rounded.feed Double.round sampleExp wideCalls (.reset (configOf wideCapabilities profile)) }

/-- The ceilings are 100.125 W, which is within the tolerance of `profileFitsCapabilities`, and so
is the request. -/
theorem arm_over_maximum :
    Rounded.loadProfile Double.round wideCapabilities (sampleCeiling (801 / 8)).identity
        (ProfileStore.save (sampleCeiling (801 / 8)) (.ok ())) = some (sampleCeiling (801 / 8)) ∧
      ¬ Agree wideCapabilities (sampleCeiling (801 / 8)) ∧
      ∃ e ∈ (Rounded.armGovernor Double.round sampleExp (wideDaemon (sampleCeiling (801 / 8)))
          "requested" { sampleAnswers 12 with arm := false }).2.log,
        ∃ limits ∈ e.limits, ¬ wideCapabilities.Accepted limits.1 limits.2 := by
  have hdouble : IsDouble (801 / 8) := ⟨801, -3, by norm_num, by norm_num⟩
  have hvalid : ProfileStore.validate (sampleCeiling (801 / 8)) = true := by decide +kernel
  have hdoubles : Rounded.roundNumbers Double.round (sampleCeiling (801 / 8)) =
      sampleCeiling (801 / 8) := by decide +kernel
  have hload := loadProfile_sampleCeiling hdouble hvalid (by decide +kernel) hdoubles
    (by decide +kernel)
  have hrefused : ¬ wideCapabilities.admits 100125 100125 = true := by decide +kernel
  refine ⟨hload, ?_, ?_⟩
  · rw [agree_iff (Rounded.sane_of_loadProfile hload)]
    decide +kernel
  · have hlog : ((Rounded.armGovernor Double.round sampleExp (wideDaemon (sampleCeiling (801 / 8)))
        "requested" { sampleAnswers 12 with arm := false }).2.log.any fun e =>
          e.limits = some (100125, 100125)) = true := by decide +kernel
    rcases List.any_eq_true.1 hlog with ⟨e, he, hlimits⟩
    refine ⟨e, he, (100125, 100125), of_decide_eq_true hlimits, ?_⟩
    rw [Capabilities.accepted_iff]
    exact hrefused

/-- With ceilings of 100 W they agree. -/
theorem bounds_agree_sampleCeiling : Agree wideCapabilities (sampleCeiling 100) := by
  refine (bounds_agree_iff (@loadProfile_sampleCeiling 100 ⟨100, 0, by norm_num, by norm_num⟩
    (by decide +kernel) (by decide +kernel) (by decide +kernel) (by decide +kernel))).1.2 ?_
  decide +kernel

/-- The double just under 28.0005 W is sent as 28001 mW, as its product is rounded up. -/
example : wattsToMW (2800049999999999999 / 10 ^ 17) = 28001 := by decide +kernel

/-- That of 16.0005 W is sent as 16000 mW. -/
example : wattsToMW (160005 / 10 ^ 4) = 16000 := by decide +kernel

end TurboMac.Daemon
