import TurboMac.Daemon.ProfileLoad

/-! # A saved profile and the one that is loaded

The text rounds every number to six places, leaves out the ratios of schema 1, and
cuts off a power from `10 ^ 63` W on. Rounding keeps every bound of `validate`, but
not that a ratio is less than the next.
-/

namespace TurboMac.Daemon

open Decimal

/-- A number of six places. -/
def Places (v : ℚ) : Prop := ∃ n : ℤ, v * 10 ^ 6 = n

theorem le_rounded {bound v : ℚ} (hbound : Places bound) (h : bound ≤ v) : bound ≤ rounded 6 v := by
  rcases hbound with ⟨n, hn⟩
  have hmono := @rounded_mono 6 _ _ h
  rwa [rounded_eq hn] at hmono

theorem rounded_le {bound v : ℚ} (hbound : Places bound) (h : v ≤ bound) : rounded 6 v ≤ bound := by
  rcases hbound with ⟨n, hn⟩
  have hmono := @rounded_mono 6 _ _ h
  rwa [rounded_eq hn] at hmono

/-- What a number may lose in a text. -/
def tolerance : ℚ := 5 / 10 ^ 7

theorem abs_rounded_sub_le_tolerance (v : ℚ) : |rounded 6 v - v| ≤ tolerance := by
  have herror := @abs_rounded_sub_le 6 v
  unfold tolerance
  norm_num at herror ⊢
  exact herror

namespace CalibrationProfile

/-- A profile that differs from another in what a text may lose. -/
structure Near (profile loaded : CalibrationProfile) : Prop where
  schemaVersion : loaded.schemaVersion = profile.schemaVersion
  identity : loaded.identity = profile.identity
  calibrationPointCount : loaded.calibrationPointCount = profile.calibrationPointCount
  validationPassed : loaded.validationPassed = profile.validationPassed
  autoArm : loaded.autoArm = profile.autoArm
  calibratedAt : loaded.calibratedAt = profile.calibratedAt
  validatedAt : loaded.validatedAt = profile.validatedAt
  calibratedCapacityW : |loaded.calibratedCapacityW - profile.calibratedCapacityW| ≤ tolerance
  reserveW : |loaded.reserveW - profile.reserveW| ≤ tolerance
  raplFloorW : |loaded.raplFloorW - profile.raplFloorW| ≤ tolerance
  raplCeilingPL1W : |loaded.raplCeilingPL1W - profile.raplCeilingPL1W| ≤ tolerance
  raplCeilingPL2W : |loaded.raplCeilingPL2W - profile.raplCeilingPL2W| ≤ tolerance
  cruisePL2BurstW : |loaded.cruisePL2BurstW - profile.cruisePL2BurstW| ≤ tolerance
  packageToInputSlope : |loaded.packageToInputSlope - profile.packageToInputSlope| ≤ tolerance
  packageToInputInterceptW :
    |loaded.packageToInputInterceptW - profile.packageToInputInterceptW| ≤ tolerance
  guardRatio : |loaded.guardRatio - profile.guardRatio| ≤ tolerance
  shedRatio : |loaded.shedRatio - profile.shedRatio| ≤ tolerance
  emergencyRatio : |loaded.emergencyRatio - profile.emergencyRatio| ≤ tolerance
  cruiseTargetRatio : |loaded.cruiseTargetRatio - profile.cruiseTargetRatio| ≤ tolerance
  guardTargetRatio : |loaded.guardTargetRatio - profile.guardTargetRatio| ≤ tolerance
  shedTargetRatio : |loaded.shedTargetRatio - profile.shedTargetRatio| ≤ tolerance

/-- What is saved is loaded, but for what a text may lose. -/
def RoundTrips (profile : CalibrationProfile) : Prop :=
  ∃ loaded, ProfileStore.load (ProfileStore.save profile (.ok ())) = .ok loaded ∧ profile.Near loaded

/-- The ratios are those that a profile has by default. -/
structure DefaultRatios (profile : CalibrationProfile) : Prop where
  guard : |({} : CalibrationProfile).guardRatio - profile.guardRatio| ≤ tolerance
  shed : |({} : CalibrationProfile).shedRatio - profile.shedRatio| ≤ tolerance
  emergency : |({} : CalibrationProfile).emergencyRatio - profile.emergencyRatio| ≤ tolerance
  cruiseTarget : |({} : CalibrationProfile).cruiseTargetRatio - profile.cruiseTargetRatio| ≤ tolerance
  guardTarget : |({} : CalibrationProfile).guardTargetRatio - profile.guardTargetRatio| ≤ tolerance
  shedTarget : |({} : CalibrationProfile).shedTargetRatio - profile.shedTargetRatio| ≤ tolerance

/-- Six places tell the ratios apart that `validate` wants apart. -/
structure Apart (profile : CalibrationProfile) : Prop where
  guard_lt : rounded 6 profile.guardRatio < rounded 6 profile.shedRatio
  shed_lt : rounded 6 profile.shedRatio < rounded 6 profile.emergencyRatio
  shedTarget_lt : rounded 6 profile.shedTargetRatio < rounded 6 profile.guardTargetRatio
  guardTarget_lt : rounded 6 profile.guardTargetRatio < rounded 6 profile.cruiseTargetRatio

/-- The text of a profile has all that `load` needs. -/
structure Survives (profile : CalibrationProfile) : Prop where
  fits : profile.raplCeilingPL2W < 10 ^ 63
  default : profile.schemaVersion = 1 → profile.DefaultRatios
  apart : profile.schemaVersion = 2 → profile.Apart

/-- A profile whose powers are what `double` has. -/
structure DoublePowers (profile : CalibrationProfile) : Prop where
  floor : IsDouble profile.raplFloorW
  ceilingPL1 : IsDouble profile.raplCeilingPL1W
  ceilingPL2 : IsDouble profile.raplCeilingPL2W

end CalibrationProfile

namespace ProfileStore

open CalibrationProfile

/-! ## The numbers of a profile -/

section

variable {v : ℚ}

/-- A number of at most three digits before the point. -/
theorem parseDouble_of_le (hlow : -250 ≤ v) (hhigh : v ≤ 250) :
    parseDouble (numberText v) = some (rounded 6 v) := by
  apply @parseDouble_numberText v 250 3 (by decide) (by decide)
  · rw [abs_le]
    push_cast
    exact ⟨hlow, hhigh⟩
  · decide

theorem parseDouble_bounded (hlow : -250 ≤ v) (hhigh : v ≤ 250) :
    parseDouble (numberText v) = some (readBack v) :=
  parseDouble_readBack (parseDouble_of_le hlow hhigh)

theorem readBack_bounded (hlow : -250 ≤ v) (hhigh : v ≤ 250) : readBack v = rounded 6 v := by
  rw [readBack, parseDouble_of_le hlow hhigh]
  rfl

theorem parseDouble_double (hdouble : IsDouble v) (hv : 0 ≤ v) :
    parseDouble (numberText v) = some (readBack v) := by
  rcases parseDouble_power hdouble hv with ⟨_, hread⟩ | ⟨_, m, hread, _⟩
  · exact parseDouble_readBack hread
  · exact parseDouble_readBack hread

theorem readBack_double (hdouble : IsDouble v) (hv : 0 ≤ v) (hfits : v < 10 ^ 63) :
    readBack v = rounded 6 v := by
  rcases parseDouble_power hdouble hv with ⟨_, hread⟩ | ⟨hlarge, _⟩
  · rw [readBack, hread]
    rfl
  · exact absurd hfits (not_lt.2 hlarge)

/-- A power that is cut off is far from the one that was saved. -/
theorem fits_of_near (hdouble : IsDouble v) (hv : 0 ≤ v) (h : |readBack v - v| ≤ tolerance) :
    v < 10 ^ 63 := by
  rcases parseDouble_power hdouble hv with ⟨hfits, _⟩ | ⟨_, m, hread, hm⟩
  · exact hfits
  · have hback : readBack v = m := by
      rw [readBack, hread]
      rfl
    rw [hback, abs_le] at h
    have htolerance : tolerance < 1 := by
      unfold tolerance
      norm_num
    linarith [h.1]

end

section

variable {p : CalibrationProfile}

/-- The ratios are between 0 and 1. -/
theorem ratios_mem (h : p.Validated) : ∀ ratio ∈ [p.guardRatio, p.shedRatio, p.emergencyRatio,
    p.cruiseTargetRatio, p.guardTargetRatio, p.shedTargetRatio], -250 ≤ ratio ∧ ratio ≤ 250 := by
  have hguard := h.guard_ge
  have hshed := h.guard_lt
  have hemergency := h.shed_lt
  have hle := h.emergency_le
  have htarget := h.shedTarget_ge
  have hguardTarget := h.shedTarget_lt
  have hcruiseTarget := h.guardTarget_lt
  have hcruise := h.cruiseTarget_le
  simp only [List.forall_mem_cons, List.not_mem_nil, false_implies, implies_true, and_true]
  refine ⟨?_, ?_, ?_, ?_, ?_, ?_⟩ <;> constructor <;> linarith

theorem powers_nonneg (h : p.Validated) :
    0 ≤ p.raplFloorW ∧ 0 ≤ p.raplCeilingPL1W ∧ 0 ≤ p.raplCeilingPL2W := by
  have hfloor := h.floor_ge
  have hPL1 := h.floor_le
  have hPL2 := h.ceiling_le
  refine ⟨?_, ?_, ?_⟩ <;> linarith

theorem reads_of_validated (h : p.Validated) (hpowers : p.DoublePowers) : p.Reads := by
  have hnonneg := powers_nonneg h
  have hratios := ratios_mem h
  simp only [List.forall_mem_cons, List.not_mem_nil, false_implies, implies_true, and_true] at hratios
  rcases hratios with ⟨hguard, hshed, hemergency, hcruiseTarget, hguardTarget, hshedTarget⟩
  constructor
  · exact parseDouble_bounded (by linarith only [h.capacity_ge]) h.capacity_le
  · exact parseDouble_bounded (by linarith only [h.reserve_ge]) (by linarith only [h.reserve_le])
  · exact parseDouble_double hpowers.floor hnonneg.1
  · exact parseDouble_double hpowers.ceilingPL1 hnonneg.2.1
  · exact parseDouble_double hpowers.ceilingPL2 hnonneg.2.2
  · exact parseDouble_bounded (by linarith only [h.burst_ge]) (by linarith only [h.burst_le])
  · exact parseDouble_bounded (by linarith only [h.slope_ge]) (by linarith only [h.slope_le])
  · exact parseDouble_bounded (by linarith only [h.intercept_ge]) (by linarith only [h.intercept_le])
  · exact parseDouble_bounded hguard.1 hguard.2
  · exact parseDouble_bounded hshed.1 hshed.2
  · exact parseDouble_bounded hemergency.1 hemergency.2
  · exact parseDouble_bounded hcruiseTarget.1 hcruiseTarget.2
  · exact parseDouble_bounded hguardTarget.1 hguardTarget.2
  · exact parseDouble_bounded hshedTarget.1 hshedTarget.2

/-- What is loaded of what is saved. -/
theorem load_save (h : p.Validated) (hpowers : p.DoublePowers) :
    load (save p (.ok ())) = if validate p.readBack then .ok p.readBack
      else .error "calibration profile failed bounds validation" := by
  have hsave : save p (.ok ()) = .ok (content p) := by
    unfold save
    rw [validate_iff.2 h]
    rfl
  rw [hsave, load_content (reads_of_validated h hpowers) h]

/-- A profile round trips if it is still valid as it is read, and near to what it was. -/
theorem roundTrips_iff_readBack (h : p.Validated) (hpowers : p.DoublePowers) :
    p.RoundTrips ↔ p.readBack.Validated ∧ p.Near p.readBack := by
  unfold RoundTrips
  rw [load_save h hpowers]
  by_cases hback : p.readBack.Validated
  · rw [if_pos (validate_iff.2 hback)]
    constructor
    · rintro ⟨loaded, hloaded, hnear⟩
      cases hloaded
      exact ⟨hback, hnear⟩
    · intro hnear
      exact ⟨p.readBack, rfl, hnear.2⟩
  · rw [if_neg (mt validate_iff.1 hback)]
    constructor
    · rintro ⟨loaded, hloaded, _⟩
      cases hloaded
    · intro hnear
      exact absurd hnear.1 hback

/-! ## What is read back -/

/-- The numbers that either schema has are read as they were rounded. -/
structure RoundedPowers (profile loaded : CalibrationProfile) : Prop where
  capacity : loaded.calibratedCapacityW = rounded 6 profile.calibratedCapacityW
  reserve : loaded.reserveW = rounded 6 profile.reserveW
  floor : loaded.raplFloorW = rounded 6 profile.raplFloorW
  ceilingPL1 : loaded.raplCeilingPL1W = rounded 6 profile.raplCeilingPL1W
  ceilingPL2 : loaded.raplCeilingPL2W = rounded 6 profile.raplCeilingPL2W
  burst : loaded.cruisePL2BurstW = rounded 6 profile.cruisePL2BurstW
  slope : loaded.packageToInputSlope = rounded 6 profile.packageToInputSlope
  intercept : loaded.packageToInputInterceptW = rounded 6 profile.packageToInputInterceptW

theorem readBack_powers (h : p.Validated) (hpowers : p.DoublePowers)
    (hfits : p.raplCeilingPL2W < 10 ^ 63) : RoundedPowers p p.readBack := by
  have hnonneg := powers_nonneg h
  have hPL1 := h.floor_le
  have hPL2 := h.ceiling_le
  constructor <;> dsimp only [CalibrationProfile.readBack]
  · exact readBack_bounded (by linarith only [h.capacity_ge]) h.capacity_le
  · exact readBack_bounded (by linarith only [h.reserve_ge]) (by linarith only [h.reserve_le])
  · exact readBack_double hpowers.floor hnonneg.1 (by linarith)
  · exact readBack_double hpowers.ceilingPL1 hnonneg.2.1 (by linarith)
  · exact readBack_double hpowers.ceilingPL2 hnonneg.2.2 hfits
  · exact readBack_bounded (by linarith only [h.burst_ge]) (by linarith only [h.burst_le])
  · exact readBack_bounded (by linarith only [h.slope_ge]) (by linarith only [h.slope_le])
  · exact readBack_bounded (by linarith only [h.intercept_ge]) (by linarith only [h.intercept_le])

/-- The ratios of a profile. -/
def ratios (profile : CalibrationProfile) : List ℚ :=
  [profile.guardRatio, profile.shedRatio, profile.emergencyRatio, profile.cruiseTargetRatio,
    profile.guardTargetRatio, profile.shedTargetRatio]

/-- Schema 2 has the ratios too. -/
theorem ratios_readBack_two (h : p.Validated) (hschema : p.schemaVersion = 2) :
    ratios p.readBack = (ratios p).map (rounded 6) := by
  have hratios := ratios_mem h
  have hread : (ratios p).map readBack = (ratios p).map (rounded 6) := by
    apply List.map_congr_left
    intro ratio hratio
    exact readBack_bounded (hratios ratio hratio).1 (hratios ratio hratio).2
  rw [← hread]
  simp [ratios, CalibrationProfile.readBack, hschema]

/-- Schema 1 leaves them as they are by default. -/
theorem ratios_readBack_one (hschema : p.schemaVersion = 1) : ratios p.readBack = ratios {} := by
  simp [ratios, CalibrationProfile.readBack, hschema]

/-- The ratios that `validate` accepts. -/
structure RatiosValid (profile : CalibrationProfile) : Prop where
  guard_ge : 1 / 10 ≤ profile.guardRatio
  guard_lt : profile.guardRatio < profile.shedRatio
  shed_lt : profile.shedRatio < profile.emergencyRatio
  emergency_le : profile.emergencyRatio ≤ 95 / 100
  shedTarget_ge : 5 / 100 ≤ profile.shedTargetRatio
  shedTarget_lt : profile.shedTargetRatio < profile.guardTargetRatio
  guardTarget_lt : profile.guardTargetRatio < profile.cruiseTargetRatio
  cruiseTarget_le : profile.cruiseTargetRatio ≤ profile.guardRatio

/-- Rounding keeps the bounds; the orders are kept by what `Apart` says. -/
theorem ratiosValid_readBack (h : p.Validated) (hsurvives : p.Survives) : RatiosValid p.readBack := by
  rcases h.schema with hone | htwo
  · have hratios := ratios_readBack_one hone
    simp only [ratios, List.cons.injEq, and_true] at hratios
    rcases hratios with ⟨hguard, hshed, hemergency, hcruiseTarget, hguardTarget, hshedTarget⟩
    constructor <;>
      simp only [hguard, hshed, hemergency, hcruiseTarget, hguardTarget, hshedTarget] <;> norm_num
  · have hratios := ratios_readBack_two h htwo
    have hapart := hsurvives.apart htwo
    simp only [ratios, List.map_cons, List.map_nil, List.cons.injEq, and_true] at hratios
    rcases hratios with ⟨hguard, hshed, hemergency, hcruiseTarget, hguardTarget, hshedTarget⟩
    constructor
    · rw [hguard]
      exact le_rounded ⟨100000, by norm_num⟩ h.guard_ge
    · rw [hguard, hshed]
      exact hapart.guard_lt
    · rw [hshed, hemergency]
      exact hapart.shed_lt
    · rw [hemergency]
      exact rounded_le ⟨950000, by norm_num⟩ h.emergency_le
    · rw [hshedTarget]
      exact le_rounded ⟨50000, by norm_num⟩ h.shedTarget_ge
    · rw [hshedTarget, hguardTarget]
      exact hapart.shedTarget_lt
    · rw [hguardTarget, hcruiseTarget]
      exact hapart.guardTarget_lt
    · rw [hcruiseTarget, hguard]
      exact rounded_mono h.cruiseTarget_le

theorem validated_readBack (h : p.Validated) (hpowers : p.DoublePowers) (hsurvives : p.Survives) :
    p.readBack.Validated := by
  have hnumbers := readBack_powers h hpowers hsurvives.fits
  have hratios := ratiosValid_readBack h hsurvives
  constructor
  · exact h.schema
  · exact h.hardwareUUID
  · exact h.modelIdentifier
  · exact h.cpuBrand
  · exact h.osProductVersion
  · exact h.osBuild
  · exact h.pdtrType
  · exact h.acpwType
  · rw [hnumbers.capacity]
    exact le_rounded ⟨10000000, by norm_num⟩ h.capacity_ge
  · rw [hnumbers.capacity]
    exact rounded_le ⟨250000000, by norm_num⟩ h.capacity_le
  · rw [hnumbers.reserve]
    exact le_rounded ⟨2000000, by norm_num⟩ h.reserve_ge
  · rw [hnumbers.reserve]
    exact rounded_le ⟨20000000, by norm_num⟩ h.reserve_le
  · rw [hnumbers.floor]
    exact le_rounded ⟨1000000, by norm_num⟩ h.floor_ge
  · rw [hnumbers.floor, hnumbers.ceilingPL1]
    exact rounded_mono h.floor_le
  · rw [hnumbers.ceilingPL1, hnumbers.ceilingPL2]
    exact rounded_mono h.ceiling_le
  · rw [hnumbers.burst]
    exact rounded_nonneg h.burst_ge
  · rw [hnumbers.burst]
    exact rounded_le ⟨20000000, by norm_num⟩ h.burst_le
  · rw [hnumbers.slope]
    exact le_rounded ⟨250000, by norm_num⟩ h.slope_ge
  · rw [hnumbers.slope]
    exact rounded_le ⟨4000000, by norm_num⟩ h.slope_le
  · rw [hnumbers.intercept]
    exact le_rounded ⟨-20000000, by norm_num⟩ h.intercept_ge
  · rw [hnumbers.intercept]
    exact rounded_le ⟨100000000, by norm_num⟩ h.intercept_le
  · exact hratios.guard_ge
  · exact hratios.guard_lt
  · exact hratios.shed_lt
  · exact hratios.emergency_le
  · exact hratios.shedTarget_ge
  · exact hratios.shedTarget_lt
  · exact hratios.guardTarget_lt
  · exact hratios.cruiseTarget_le
  · exact h.points
  · exact h.calibrated
  · exact h.validated
  · exact h.unvalidated
  · exact h.autoArm

/-- The ratios of a profile are those of another, but for what a text may lose. -/
theorem near_ratios (h : p.Validated) (hsurvives : p.Survives) :
    List.Forall₂ (fun loaded ratio => |loaded - ratio| ≤ tolerance) (ratios p.readBack) (ratios p) := by
  rcases h.schema with hone | htwo
  · have hdefault := hsurvives.default hone
    rw [ratios_readBack_one hone]
    exact .cons hdefault.guard (.cons hdefault.shed (.cons hdefault.emergency
      (.cons hdefault.cruiseTarget (.cons hdefault.guardTarget (.cons hdefault.shedTarget .nil)))))
  · rw [ratios_readBack_two h htwo, List.forall₂_map_left_iff, List.forall₂_same]
    intro ratio _
    exact abs_rounded_sub_le_tolerance ratio

theorem near_readBack (h : p.Validated) (hpowers : p.DoublePowers) (hsurvives : p.Survives) :
    p.Near p.readBack := by
  have hnumbers := readBack_powers h hpowers hsurvives.fits
  have hratios := near_ratios h hsurvives
  simp only [ratios, List.forall₂_cons, List.forall₂_nil_left_iff, and_true] at hratios
  rcases hratios with ⟨hguard, hshed, hemergency, hcruiseTarget, hguardTarget, hshedTarget⟩
  constructor
  · rfl
  · rfl
  · rfl
  · rfl
  · rfl
  · rfl
  · rfl
  · rw [hnumbers.capacity]
    exact abs_rounded_sub_le_tolerance _
  · rw [hnumbers.reserve]
    exact abs_rounded_sub_le_tolerance _
  · rw [hnumbers.floor]
    exact abs_rounded_sub_le_tolerance _
  · rw [hnumbers.ceilingPL1]
    exact abs_rounded_sub_le_tolerance _
  · rw [hnumbers.ceilingPL2]
    exact abs_rounded_sub_le_tolerance _
  · rw [hnumbers.burst]
    exact abs_rounded_sub_le_tolerance _
  · rw [hnumbers.slope]
    exact abs_rounded_sub_le_tolerance _
  · rw [hnumbers.intercept]
    exact abs_rounded_sub_le_tolerance _
  · exact hguard
  · exact hshed
  · exact hemergency
  · exact hcruiseTarget
  · exact hguardTarget
  · exact hshedTarget

theorem survives_of_near (h : p.Validated) (hpowers : p.DoublePowers) (hback : p.readBack.Validated)
    (hnear : p.Near p.readBack) : p.Survives := by
  constructor
  · exact fits_of_near hpowers.ceilingPL2 (powers_nonneg h).2.2 hnear.raplCeilingPL2W
  · intro hone
    have hratios := ratios_readBack_one hone
    simp only [ratios, List.cons.injEq, and_true] at hratios
    rcases hratios with ⟨hguard, hshed, hemergency, hcruiseTarget, hguardTarget, hshedTarget⟩
    constructor
    · rw [← hguard]
      exact hnear.guardRatio
    · rw [← hshed]
      exact hnear.shedRatio
    · rw [← hemergency]
      exact hnear.emergencyRatio
    · rw [← hcruiseTarget]
      exact hnear.cruiseTargetRatio
    · rw [← hguardTarget]
      exact hnear.guardTargetRatio
    · rw [← hshedTarget]
      exact hnear.shedTargetRatio
  · intro htwo
    have hratios := ratios_readBack_two h htwo
    simp only [ratios, List.map_cons, List.map_nil, List.cons.injEq, and_true] at hratios
    rcases hratios with ⟨hguard, hshed, hemergency, hcruiseTarget, hguardTarget, hshedTarget⟩
    constructor
    · rw [← hguard, ← hshed]
      exact hback.guard_lt
    · rw [← hshed, ← hemergency]
      exact hback.shed_lt
    · rw [← hshedTarget, ← hguardTarget]
      exact hback.shedTarget_lt
    · rw [← hguardTarget, ← hcruiseTarget]
      exact hback.guardTarget_lt

/-- **A profile round trips exactly if its text survives.** -/
theorem profile_roundTrips_iff (hvalid : validate p = true) (hpowers : p.DoublePowers) :
    p.RoundTrips ↔ p.Survives := by
  have h := validate_iff.1 hvalid
  rw [roundTrips_iff_readBack h hpowers]
  constructor
  · rintro ⟨hback, hnear⟩
    exact survives_of_near h hpowers hback hnear
  · intro hsurvives
    exact ⟨validated_readBack h hpowers hsurvives, near_readBack h hpowers hsurvives⟩

end

/-! ## Two ratios that six places do not tell apart -/

/-- A profile that `validate` accepts, with a shed ratio of its own. -/
def sampleSaved (shedRatio : ℚ) : CalibrationProfile where
  identity := {
    hardwareUUID := "564D".toList
    modelIdentifier := "MacBookPro11,1".toList
    cpuBrand := "Intel".toList
    osProductVersion := "11.7".toList
    osBuild := "20G".toList
    pdtrType := "sp78".toList
    acpwType := "ui8".toList }
  calibratedCapacityW := 60
  raplFloorW := 5
  raplCeilingPL1W := 25
  raplCeilingPL2W := 30
  guardRatio := 1 / 2
  shedRatio := shedRatio
  emergencyRatio := 3 / 4
  cruiseTargetRatio := 1 / 2
  guardTargetRatio := 3 / 8
  shedTargetRatio := 1 / 4
  calibrationPointCount := 3
  calibratedAt := 1

theorem sampleSaved_powers (shedRatio : ℚ) : (sampleSaved shedRatio).DoublePowers := by
  constructor
  · exact ⟨5, 0, by norm_num, by norm_num [sampleSaved]⟩
  · exact ⟨25, 0, by norm_num, by norm_num [sampleSaved]⟩
  · exact ⟨30, 0, by norm_num, by norm_num [sampleSaved]⟩

/-- A shed ratio just over the guard ratio is saved, and refused when it is loaded. -/
theorem sampleSaved_refused : validate (sampleSaved (1 / 2 + 1 / 2 ^ 30)) = true ∧
    load (save (sampleSaved (1 / 2 + 1 / 2 ^ 30)) (.ok ())) =
      .error "calibration profile failed bounds validation" ∧
    ¬ (sampleSaved (1 / 2 + 1 / 2 ^ 30)).RoundTrips := by
  have hvalid : validate (sampleSaved (1 / 2 + 1 / 2 ^ 30)) = true := by decide +kernel
  have hback : ¬ validate (sampleSaved (1 / 2 + 1 / 2 ^ 30)).readBack = true := by decide +kernel
  have hload := load_save (validate_iff.1 hvalid) (sampleSaved_powers _)
  rw [if_neg hback] at hload
  refine ⟨hvalid, hload, ?_⟩
  rintro ⟨loaded, hloaded, _⟩
  rw [hload] at hloaded
  cases hloaded

/-- One that six places tell apart round trips. -/
theorem profile_roundTrips_sampleSaved : (sampleSaved (5 / 8)).RoundTrips := by
  refine (profile_roundTrips_iff (by decide +kernel) (sampleSaved_powers _)).2 ?_
  constructor
  · decide +kernel
  · intro hone
    exact absurd hone (by decide)
  · intro _
    constructor <;> decide +kernel

end ProfileStore

end TurboMac.Daemon
