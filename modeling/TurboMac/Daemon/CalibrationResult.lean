import TurboMac.Daemon.CalibrationBounds
import TurboMac.Daemon.Daemon
import TurboMac.Lib.LeastSquares

/-! # `main.cpp`: what `runCalibration` saves

The searches end with the points of the mapping and an accepted burst. A line is fitted to the
points, and with the bounds of the searches it makes the profile that is saved. A profile that
gets as far fails its own checks only for what the searches do not decide, and for a tier over
the captured second limit.
-/

namespace TurboMac.Daemon

open Kext (U32)

/-! ## `Calibration.h` -/

/-- `turboMacCalibrationPL2Ceiling`. -/
def calibrationPL2Ceiling (pl1CeilingW burstBaseW selectedBurstW capturedPL2W : ℚ) : ℚ :=
  if pl1CeilingW ≤ 0 ∨ burstBaseW < 0 ∨ selectedBurstW < 0 ∨ capturedPL2W < pl1CeilingW then 0
  else min capturedPL2W (max pl1CeilingW (burstBaseW + selectedBurstW))

deriving instance DecidableEq for CalibrationPoint

/-! ## The line -/

/-- The points as the sums over them see them: the package power and the input. -/
def calibrationPairs (mapping : List CalibrationPoint) : List (ℚ × ℚ) :=
  mapping.map fun point => (point.averagePackageW, point.averageInputW)

/-- `slope` and `intercept` of one point or none. -/
def defaultLine (mapping : List CalibrationPoint) : ℚ × ℚ :=
  (1, (mapping.head?.elim 0 fun point => point.averageInputW - point.averagePackageW))

/-- `slope` and `intercept`, before they are clamped. -/
def fitLine (mapping : List CalibrationPoint) : ℚ × ℚ :=
  let points := calibrationPairs mapping
  if 2 ≤ mapping.length ∧ 1 / 10 ^ 9 < |LeastSquares.denominator points| then
    (LeastSquares.slope points, LeastSquares.intercept points)
  else defaultLine mapping

def clampSlope (slope : ℚ) : ℚ := max (1 / 4) (min 4 slope)

def clampIntercept (intercept : ℚ) : ℚ := max (-20) (min 100 intercept)

/-! ## The end of `runCalibration` -/

/-- What is left to answer: the identity, the capacity before the sweep, whether the guard is
restored after the searches, the clock, and the file system. -/
structure CalibrationRest where
  identity : MachineIdentity
  baselineCapacityW : ℚ
  restored : Bool
  calibratedAt : Int64
  filesystem : Except String Unit

/-- How a calibration ends. -/
inductive CalibrationEnd where
  /-- before the sweep -/
  | refused
  | aborted (error : String)
  | burstAborted (error : String)
  | unrestored
  | built (mapping : List CalibrationPoint) (profile : CalibrationProfile) (saved : Except String Text)
deriving DecidableEq

/-- `reserveW` of the profile, by the worst errors of the sweep and of all runs. -/
def savedReserve (sweepError worstError : ℚ) : ℚ :=
  max (calibrationReserve sweepError) (⌈(max 0 worstError + 1 / 2) * 2⌉ / 2)

namespace SweepState

variable (s : SweepState) (current : Capabilities) (inputs : CalibrationInputs)

def burstBase : ℚ := calibrationBurstBase s.mapping inputs.guardW (calibrationReserve s.worstError)

def burstMaximum : ℚ := current.burstMaximum (s.burstBase inputs)

/-- The burst search, where there is a base for it. -/
def bursts : Option BurstState :=
  let start : BurstState := ⟨2, 0, s.worstError, s.error, s.requests⟩
  if s.burstBase inputs ≤ 0 then some start
  else burstSearch (s.burstBase inputs) (s.burstMaximum current inputs) inputs.bursts start

/-- The profile. -/
def profile (rest : CalibrationRest) (b : BurstState) : CalibrationProfile where
  identity := rest.identity
  calibratedCapacityW := rest.baselineCapacityW
  reserveW := savedReserve s.worstError b.worstError
  raplFloorW := s.responsiveFloor
  raplCeilingPL1W := s.lastSafeLimit
  raplCeilingPL2W := calibrationPL2Ceiling s.lastSafeLimit (s.burstBase inputs) b.selectedBurst
    (current.capturedW true)
  cruisePL2BurstW := b.selectedBurst
  packageToInputSlope := clampSlope (fitLine s.mapping).1
  packageToInputInterceptW := clampIntercept (fitLine s.mapping).2
  calibrationPointCount := BitVec.ofNat 32 s.mapping.length
  validationPassed := false
  autoArm := false
  calibratedAt := rest.calibratedAt
  validatedAt := 0

/-- What follows the burst search. It is left before its maximum only by a run that does not
complete. -/
def finish (rest : CalibrationRest) (b : BurstState) : CalibrationEnd :=
  if 0 < s.burstBase inputs ∧ b.burst ≤ withTolerance (s.burstMaximum current inputs) ∧ b.error ≠ "" then
    .burstAborted b.error
  else if !rest.restored then .unrestored
  else
    let profile := s.profile current inputs rest b
    .built s.mapping profile (ProfileStore.save profile rest.filesystem)

end SweepState

/-- `runCalibration`; none if its searches take other turns. -/
def Capabilities.calibration (current : Capabilities) (inputs : CalibrationInputs)
    (rest : CalibrationRest) : Option CalibrationEnd :=
  if !current.calibratable || (passiveHWPReady inputs.passiveHWP).isNone || !inputs.told then
    some .refused
  else
    (sweep current.sweepCeiling inputs.tiers ⟨current.firstLimit, [], 0, 0, 0, "", []⟩).bind fun s =>
      if s.error ≠ "" ∨ s.responsiveFloor = 0 ∨ s.lastSafeLimit = 0 then some (.aborted s.error)
      else (s.bursts current inputs).map fun b => s.finish current inputs rest b

/-! ## The sweep's bounds -/

/-- The rounding is less than what is left of the tolerance of a profile. -/
theorem withTolerance_round_le (mw : U32) :
    withTolerance (Double.round (mw.toNat / 1000)) ≤ mw.toNat / 1000 + 1 / 5 := by
  have hlt := mw.isLt
  have herror := @abs_round_div_sub_le mw.toNat (by rw [abs_of_nonneg (by omega)]; omega)
  rw [Int.cast_natCast, abs_le] at herror
  have hcent : Double.round (1 / 100) ≤ 1 / 64 := by decide +kernel
  have hcent' : 0 ≤ Double.round (1 / 100) := Double.round_nonneg (by norm_num)
  have hbound := round_div_le mw
  have hnonneg : 0 ≤ Double.round ((mw.toNat : ℚ) / 1000) := Double.round_nonneg (by positivity)
  have hsum : |Double.round ((mw.toNat : ℚ) / 1000) + Double.round (1 / 100)| < 2 ^ (24 : ℤ) := by
    rw [abs_of_nonneg (add_nonneg hnonneg hcent')]
    norm_num
    linarith
  have hrounded := Double.abs_round_sub_le (by norm_num) hsum
  rw [abs_le] at hrounded
  norm_num at herror hrounded
  unfold withTolerance
  linarith

section

variable {current : Capabilities}

/-- What the sweep knows of the tiers it has accepted. -/
structure Swept (current : Capabilities) (s : SweepState) : Prop where
  accepted : s.mapping = [] ∧ s.responsiveFloor = 0 ∧ s.lastSafeLimit = 0 ∨
    s.mapping ≠ [] ∧ current.firstLimit ≤ s.responsiveFloor ∧ s.responsiveFloor ≤ s.lastSafeLimit ∧
      s.lastSafeLimit ≤ withTolerance current.sweepCeiling
  points : ∀ point ∈ s.mapping, point.requestedLimitW ≤ s.lastSafeLimit
  count : s.mapping ≠ [] → 2 * (s.mapping.length : ℚ) ≤ s.lastSafeLimit - current.firstLimit + 2
  worst : 0 ≤ s.worstError

/-- The limit is past what has been accepted. -/
structure Ahead (current : Capabilities) (s : SweepState) : Prop where
  first : current.firstLimit ≤ s.limit
  last : s.mapping ≠ [] → s.lastSafeLimit + 2 ≤ s.limit

theorem swept_start (current : Capabilities) :
    Swept current ⟨current.firstLimit, [], 0, 0, 0, "", []⟩ ∧
    Ahead current ⟨current.firstLimit, [], 0, 0, 0, "", []⟩ :=
  ⟨⟨.inl ⟨rfl, rfl, rfl⟩, nofun, fun h => absurd rfl h, le_refl _⟩, le_refl _, fun h => absurd rfl h⟩

/-- A tier that is accepted. -/
theorem Swept.accept {s s' : SweepState} (h : Swept current s) (ha : Ahead current s)
    (htest : s.limit ≤ withTolerance current.sweepCeiling) {point : CalibrationPoint}
    (hpoint : point.requestedLimitW = s.limit) (hmapping : s'.mapping = s.mapping ++ [point])
    (hlast : s'.lastSafeLimit = s.limit)
    (hfloor : s'.responsiveFloor = if s.responsiveFloor = 0 then s.limit else s.responsiveFloor)
    (hworst : 0 ≤ s'.worstError) : Swept current s' := by
  have hne : s'.mapping ≠ [] := by simp [hmapping]
  have hfive := five_le_firstLimit current
  have hfirst := ha.first
  refine ⟨.inr ⟨hne, ?_, ?_, hlast ▸ htest⟩, ?_, fun _ => ?_, hworst⟩
  · rw [hfloor]
    rcases h.accepted with ⟨-, hzero, -⟩ | ⟨-, hle, -⟩
    · rw [if_pos hzero]
      exact hfirst
    · rw [if_neg (by linarith)]
      exact hle
  · rw [hfloor, hlast]
    rcases h.accepted with ⟨-, hzero, -⟩ | ⟨hsome, hle, hbelow, -⟩
    · rw [if_pos hzero]
    · rw [if_neg (by linarith)]
      have := ha.last hsome
      linarith
  · intro point' hmem
    rw [hmapping] at hmem
    rw [hlast]
    rcases List.mem_append.1 hmem with hold | hnew
    · have hle := h.points point' hold
      have := ha.last (List.ne_nil_of_mem hold)
      linarith
    · rw [List.mem_singleton.1 hnew, hpoint]
  · rw [hmapping, hlast, List.length_append, List.length_singleton]
    push_cast
    by_cases hempty : s.mapping = []
    · rw [hempty, List.length_nil, Nat.cast_zero]
      linarith
    · have hcount := h.count hempty
      have := ha.last hempty
      linarith

theorem Swept.tier {s : SweepState} (h : Swept current s) (ha : Ahead current s)
    (htest : s.limit ≤ withTolerance current.sweepCeiling) (statistics : LoadStatistics) (accepted : Bool) :
    Swept current (s.tier statistics accepted).2 ∧
      ((s.tier statistics accepted).1 = true → Ahead current (s.tier statistics accepted).2) := by
  have hworst : 0 ≤ max s.worstError statistics.worstTransientError := le_max_of_le_left h.worst
  have hpast : current.firstLimit ≤ s.limit + 2 := by
    have := ha.first
    linarith
  have hfloor : ∀ floor, (if s.responsiveFloor = 0 then s.limit else s.responsiveFloor) = floor →
      floor = if s.responsiveFloor = 0 then s.limit else s.responsiveFloor := fun _ heq => heq.symm
  unfold SweepState.tier
  generalize hresponsive :
    (if s.responsiveFloor = 0 then s.limit else s.responsiveFloor) = responsiveFloor
  have hfloor := hfloor _ hresponsive
  dsimp only
  split_ifs
  · -- below the effective floor the sweep goes on upward
    refine ⟨⟨h.accepted, h.points, h.count, h.worst⟩, fun _ => ⟨hpast, fun hsome => ?_⟩⟩
    have := ha.last hsome
    exact this.trans (by linarith)
  · exact ⟨⟨h.accepted, h.points, h.count, h.worst⟩, nofun⟩
  · exact ⟨h.accept ha htest rfl rfl rfl hfloor hworst, nofun⟩
  · exact ⟨h.accept ha htest rfl rfl rfl hfloor hworst, nofun⟩
  · exact ⟨h.accept ha htest rfl rfl rfl hfloor hworst, fun _ => ⟨hpast, fun _ => le_refl _⟩⟩

theorem swept_sweep (inputs : List TierInput) {s s' : SweepState} (hs : Swept current s)
    (ha : Ahead current s) (h : sweep current.sweepCeiling inputs s = some s') : Swept current s' := by
  induction inputs generalizing s with
  | nil => cases h
  | cons input inputs ih =>
      unfold sweep at h
      split at h
      · cases h
        exact hs
      rename_i htest
      rw [not_or, not_lt] at htest
      split at h
      · cases h
        exact ⟨hs.accepted, hs.points, hs.count, hs.worst⟩
      obtain ⟨step, -, h⟩ := Option.bind_eq_some_iff.mp h
      -- neither the error nor the requests matter here
      have hs₁ : Swept current { s with error := step.error, requests := step.requests } :=
        ⟨hs.accepted, hs.points, hs.count, hs.worst⟩
      have ha₁ : Ahead current { s with error := step.error, requests := step.requests } :=
        ⟨ha.first, ha.last⟩
      dsimp only at h
      split at h
      · cases h
        exact hs₁
      · obtain ⟨hnext, hahead⟩ := hs₁.tier ha₁ htest.1 step.statistics input.accepted
        split at h
        · rename_i hcontinues
          exact ih hnext (hahead hcontinues) h
        · cases h
          exact hnext

/-! ## The burst -/

theorem burstRuns_selected {burstBase : ℚ} {runs : ℕ} (outcomes : List LoadOutcome)
    {b b' : BurstState} {accepted : Bool} (h : burstRuns burstBase runs outcomes b = some (accepted, b')) :
    b'.selectedBurst = b.selectedBurst := by
  induction runs generalizing outcomes b with
  | zero =>
      cases h
      rfl
  | succ runs ih =>
      cases outcomes with
      | nil => cases h
      | cons outcome outcomes =>
          unfold burstRuns at h
          dsimp only at h
          split at h
          · cases h
            rfl
          · rw [ih outcomes h]

/-- No burst is over 10 W by more than the tolerance. -/
theorem burstSearch_selected {burstBase burstMaximum : ℚ} (hmaximum : burstMaximum ≤ 10)
    (inputs : List (List LoadOutcome)) {b b' : BurstState} (hburst : 0 ≤ b.burst)
    (hselected : 0 ≤ b.selectedBurst ∧ b.selectedBurst ≤ 11)
    (h : burstSearch burstBase burstMaximum inputs b = some b') :
    0 ≤ b'.selectedBurst ∧ b'.selectedBurst ≤ 11 := by
  induction inputs generalizing b with
  | nil =>
      unfold burstSearch at h
      split at h
      · cases h
        exact hselected
      · cases h
  | cons runs inputs ih =>
      unfold burstSearch at h
      split at h
      · cases h
        exact hselected
      rename_i htest
      rw [not_lt] at htest
      have htop : withTolerance 10 ≤ 11 := by decide +kernel
      have hle := htest.trans ((withTolerance_mono hmaximum).trans htop)
      obtain ⟨⟨accepted, b₁⟩, hruns, h⟩ := Option.bind_eq_some_iff.mp h
      obtain ⟨hsame, -⟩ := burstRuns_spec runs hruns
      have hkept := burstRuns_selected runs hruns
      dsimp only at h
      split at h
      · cases h
        rw [hkept]
        exact hselected
      · refine ih ?_ ?_ h
        · show 0 ≤ b₁.burst + 2
          linarith
        · show 0 ≤ b₁.burst ∧ b₁.burst ≤ 11
          constructor <;> linarith

end

/-! ## What is saved -/

/-- What the identity's texts have to be. -/
def MachineIdentity.safe (identity : MachineIdentity) : Bool :=
  [identity.hardwareUUID, identity.modelIdentifier, identity.cpuBrand, identity.osProductVersion,
    identity.osBuild, identity.pdtrType, identity.acpwType].all ProfileStore.safeText

section

variable {current : Capabilities} {inputs : CalibrationInputs} {rest : CalibrationRest}

theorem clampSlope_bounds (slope : ℚ) : 1 / 4 ≤ clampSlope slope ∧ clampSlope slope ≤ 4 :=
  ⟨le_max_left _ _, max_le (by norm_num) (min_le_left _ _)⟩

theorem clampIntercept_bounds (intercept : ℚ) :
    -20 ≤ clampIntercept intercept ∧ clampIntercept intercept ≤ 100 :=
  ⟨le_max_left _ _, max_le (by norm_num) (min_le_left _ _)⟩

theorem clampSlope_eq {slope : ℚ} (hlow : 1 / 4 < clampSlope slope) (hhigh : clampSlope slope < 4) :
    clampSlope slope = slope := by
  unfold clampSlope at *
  rcases max_choice (1 / 4 : ℚ) (min 4 slope) with hmax | hmax
  · exact absurd hlow (by rw [hmax]; exact lt_irrefl _)
  · rw [hmax] at hhigh ⊢
    exact min_eq_right (not_lt.1 fun hlt => absurd hhigh (by rw [min_eq_left hlt.le]; exact lt_irrefl _))

theorem clampIntercept_eq {intercept : ℚ} (hlow : -20 < clampIntercept intercept)
    (hhigh : clampIntercept intercept < 100) : clampIntercept intercept = intercept := by
  unfold clampIntercept at *
  rcases max_choice (-20 : ℚ) (min 100 intercept) with hmax | hmax
  · exact absurd hlow (by rw [hmax]; exact lt_irrefl _)
  · rw [hmax] at hhigh ⊢
    exact min_eq_right (not_lt.1 fun hlt => absurd hhigh (by rw [min_eq_left hlt.le]; exact lt_irrefl _))

theorem two_le_savedReserve (sweepError worstError : ℚ) : 2 ≤ savedReserve sweepError worstError :=
  le_max_of_le_left (le_max_left _ _)

/-- The second ceiling is at least the first exactly if that is not over the captured limit. -/
theorem le_calibrationPL2Ceiling_iff {pl1 base burst captured : ℚ} (hpl1 : 0 < pl1) (hbase : 0 ≤ base)
    (hburst : 0 ≤ burst) : pl1 ≤ calibrationPL2Ceiling pl1 base burst captured ↔ pl1 ≤ captured := by
  unfold calibrationPL2Ceiling
  constructor
  · intro hle
    split at hle
    · exact absurd hle (not_le.2 hpl1)
    · exact hle.trans (min_le_left _ _)
  · intro hle
    rw [if_neg]
    · exact le_min hle (le_max_left _ _)
    · push Not
      exact ⟨hpl1, hbase, hburst, hle⟩

theorem burstBase_nonneg (mapping : List CalibrationPoint) (guardW reserveW : ℚ) :
    0 ≤ calibrationBurstBase mapping guardW reserveW := by
  unfold calibrationBurstBase
  split
  · exact le_refl _
  · have hfold : ∀ (points : List CalibrationPoint) (start : ℚ), 0 ≤ start →
        0 ≤ points.foldl (fun selected point =>
          if 0 < point.requestedLimitW ∧ point.averageInputW + reserveW ≤ guardW then
            max selected point.requestedLimitW
          else selected) start := by
      intro points
      induction points with
      | nil => exact fun start hstart => hstart
      | cons point points ih =>
          intro start hstart
          apply ih
          dsimp only
          split
          · exact le_max_of_le_left hstart
          · exact hstart
    exact hfold mapping 0 (le_refl _)

/-- There are not 2^32 tiers. -/
theorem Swept.length_lt {s : SweepState} (h : Swept current s) : s.mapping.length < 2 ^ 32 := by
  by_cases hempty : s.mapping = []
  · rw [hempty]
    norm_num
  · rcases h.accepted with ⟨hnil, -⟩ | ⟨-, -, -, hle⟩
    · exact absurd hnil hempty
    · have hcount := h.count hempty
      have hfive := five_le_firstLimit current
      have hceiling := withTolerance_sweepCeiling_lt current
      have hlt : (s.mapping.length : ℚ) < ((2 ^ 32 : ℕ) : ℚ) := by
        push_cast
        linarith
      exact_mod_cast hlt

/-- The checks of the profile that is built. -/
theorem validate_profile_iff {s : SweepState} {b : BurstState} (hs : Swept current s)
    (hfloor : s.responsiveFloor ≠ 0) (hburst : 0 ≤ b.selectedBurst ∧ b.selectedBurst ≤ 11) :
    ProfileStore.validate (s.profile current inputs rest b) = true ↔
      rest.identity.safe = true ∧ 10 ≤ rest.baselineCapacityW ∧ rest.baselineCapacityW ≤ 250 ∧
      savedReserve s.worstError b.worstError ≤ 20 ∧ s.lastSafeLimit ≤ current.capturedW true ∧
      0 < rest.calibratedAt := by
  rcases hs.accepted with ⟨-, hzero, -⟩ | ⟨hsome, hfirst, hbelow, -⟩
  · exact absurd hzero hfloor
  have hfive := five_le_firstLimit current
  have hceiling : s.lastSafeLimit ≤ calibrationPL2Ceiling s.lastSafeLimit
      (calibrationBurstBase s.mapping inputs.guardW (calibrationReserve s.worstError)) b.selectedBurst
      (current.capturedW true) ↔ s.lastSafeLimit ≤ current.capturedW true :=
    le_calibrationPL2Ceiling_iff (by linarith) (burstBase_nonneg _ _ _) hburst.1
  have hcount : (1 : U32) ≤ BitVec.ofNat 32 s.mapping.length := by
    have hpos : 0 < s.mapping.length := List.length_pos_of_ne_nil hsome
    have hlt := hs.length_lt
    rw [BitVec.le_def, BitVec.toNat_ofNat, Nat.mod_eq_of_lt hlt]
    exact hpos
  have hslope := clampSlope_bounds (fitLine s.mapping).1
  have hintercept := clampIntercept_bounds (fitLine s.mapping).2
  have hreserve := two_le_savedReserve s.worstError b.worstError
  simp only [ProfileStore.validate, SweepState.profile, SweepState.burstBase, decide_eq_true_eq,
    MachineIdentity.safe, List.all_cons, List.all_nil, Bool.and_true, Bool.and_eq_true]
  constructor
  · rintro ⟨-, h1, h2, h3, h4, h5, h6, h7, hlow, hhigh, -, hmax, -, -, hpl2, -, -, -, -, -, -, -, -, -,
      -, -, -, -, -, -, htime, -⟩
    exact ⟨⟨h1, h2, h3, h4, h5, h6, h7⟩, hlow, hhigh, hmax, hceiling.1 hpl2, htime⟩
  · rintro ⟨⟨h1, h2, h3, h4, h5, h6, h7⟩, hlow, hhigh, hmax, hcaptured, htime⟩
    refine ⟨.inr trivial, h1, h2, h3, h4, h5, h6, h7, hlow, hhigh, hreserve, hmax, by linarith, hbelow,
      hceiling.2 hcaptured, hburst.1, by linarith [hburst.2], hslope.1, hslope.2, hintercept.1,
      hintercept.2, by norm_num, by norm_num, by norm_num, by norm_num, by norm_num, by norm_num,
      by norm_num, by norm_num, hcount, htime, nofun, fun _ => trivial, nofun⟩

/-- A calibration that gets as far as its profile. -/
theorem calibration_built {mapping : List CalibrationPoint} {profile : CalibrationProfile}
    {saved : Except String Text} (h : current.calibration inputs rest = some (.built mapping profile saved)) :
    ∃ s b, Swept current s ∧ s.responsiveFloor ≠ 0 ∧ (0 ≤ b.selectedBurst ∧ b.selectedBurst ≤ 11) ∧
      mapping = s.mapping ∧ profile = s.profile current inputs rest b ∧
      saved = ProfileStore.save profile rest.filesystem := by
  unfold Capabilities.calibration at h
  split at h
  · cases h
  obtain ⟨s, hsweep, h⟩ := Option.bind_eq_some_iff.mp h
  obtain ⟨hstart, hahead⟩ := swept_start current
  have hs := swept_sweep inputs.tiers hstart hahead hsweep
  split at h
  · cases h
  rename_i hrange
  push Not at hrange
  obtain ⟨b, hbursts, hfinish⟩ := Option.map_eq_some_iff.mp h
  have hselected : 0 ≤ b.selectedBurst ∧ b.selectedBurst ≤ 11 := by
    unfold SweepState.bursts at hbursts
    dsimp only at hbursts
    split at hbursts
    · cases hbursts
      exact ⟨le_refl _, by norm_num⟩
    · exact burstSearch_selected (min_le_left _ _) inputs.bursts (by norm_num)
        ⟨le_refl _, by norm_num⟩ hbursts
  unfold SweepState.finish at hfinish
  split at hfinish
  · cases hfinish
  split at hfinish
  · cases hfinish
  cases hfinish
  exact ⟨s, b, hs, hrange.2.1, hselected, rfl, rfl, rfl⟩

end

/-- The profile of a calibration is saved unless the file system, the identity, the capacity, a
reserve over 20 W or the clock forbids it, or the last tier is over the captured second limit;
and on the driver it has been calibrated with, `profileFitsCapabilities`, in exact numbers, takes
the profile if its second ceiling is at most 0.2 W over the maximum. -/
theorem calibration_saved_iff (current : Capabilities) (inputs : CalibrationInputs)
    (rest : CalibrationRest) (mapping : List CalibrationPoint) (profile : CalibrationProfile)
    (saved : Except String Text)
    (h : current.calibration inputs rest = some (.built mapping profile saved)) :
    ((∃ text, saved = .ok text) ↔ rest.filesystem = .ok () ∧ rest.identity.safe = true ∧
      10 ≤ rest.baselineCapacityW ∧ rest.baselineCapacityW ≤ 250 ∧ profile.reserveW ≤ 20 ∧
      profile.raplCeilingPL1W ≤ current.capturedW true ∧ 0 < rest.calibratedAt) ∧
    (profileFitsCapabilities current profile = true ↔
      profile.raplCeilingPL2W ≤ current.maximumPowerMW.toNat / 1000 + 1 / 5) := by
  obtain ⟨s, b, hs, hfloor, hselected, -, hprofile, hsaved⟩ := calibration_built h
  constructor
  · have hvalid := @validate_profile_iff current inputs rest s b hs hfloor hselected
    rw [← hprofile] at hvalid
    have hpl1 : profile.raplCeilingPL1W = s.lastSafeLimit := by rw [hprofile]; rfl
    have hreserve : profile.reserveW = savedReserve s.worstError b.worstError := by rw [hprofile]; rfl
    rw [hsaved, hpl1, hreserve, ← hvalid, ProfileStore.save]
    cases hcase : ProfileStore.validate profile with
    | false => simp
    | true => cases rest.filesystem <;> simp [Except.map]
  · have hpl1 : profile.raplCeilingPL1W = s.lastSafeLimit := by rw [hprofile]; rfl
    have hlow : profile.raplFloorW = s.responsiveFloor := by rw [hprofile]; rfl
    rcases hs.accepted with ⟨-, hzero, -⟩ | ⟨-, hfirst, -, hlast⟩
    · exact absurd hzero hfloor
    have hminimum : (current.minimumPowerMW.toNat : ℚ) / 1000 ≤ current.firstLimit := by
      have hle : ((current.minimumPowerMW.toNat : ℤ) : ℚ) ≤ (current.tierMW 0 : ℚ) :=
        Int.cast_le.mpr (minimum_le_first current)
      rw [Int.cast_natCast] at hle
      rw [← tierW_zero, tierW_div]
      linarith
    have hceiling : current.sweepCeiling ≤ Double.round (current.maximumPowerMW.toNat / 1000) :=
      min_le_right _ _
    have hmaximum := (withTolerance_mono hceiling).trans (withTolerance_round_le current.maximumPowerMW)
    unfold profileFitsCapabilities
    rw [decide_eq_true_eq, hpl1, hlow]
    push Not
    -- the floor and the first ceiling are within the sweep
    exact ⟨fun hfits => hfits.2.2, fun hle => ⟨by linarith, by linarith, hle⟩⟩

/-- Runs of 60 samples at these powers. -/
def steadyTier (packageW inputW : ℚ) : TierRun :=
  ⟨true, .complete, "", { inputTotal := 60 * inputW, packageTotal := 60 * packageW, samples := 60 }⟩

/-- Tiers of 5 W and 7 W, then a stop; a burst of 2 W, and the soft stop in the next one. -/
def twoTiers : CalibrationInputs where
  passiveHWP := some ⟨3, 1600, 0x93, 0⟩
  told := true
  tiers := [⟨false, true, List.replicate 3 (steadyTier 5 20), true⟩,
    ⟨false, true, List.replicate 3 (steadyTier 7 (45 / 2)), true⟩, ⟨true, true, [], true⟩]
  guardW := 34
  bursts := [List.replicate 3 ⟨.complete, "", {}⟩, [⟨.softCeiling, "", {}⟩]]

def twoTiersRest : CalibrationRest := ⟨(ProfileStore.sampleSaved (5 / 8)).identity, 60, true, 1, .ok ()⟩

def twoTiersProfile : CalibrationProfile where
  identity := (ProfileStore.sampleSaved (5 / 8)).identity
  calibratedCapacityW := 60
  raplFloorW := 5
  raplCeilingPL1W := 7
  raplCeilingPL2W := 9
  cruisePL2BurstW := 2
  packageToInputSlope := 5 / 4
  packageToInputInterceptW := 55 / 4
  calibrationPointCount := 2
  calibratedAt := 1

theorem calibration_twoTiers : sampleCapabilities.calibration twoTiers twoTiersRest =
    some (.built [⟨5, 5, 20⟩, ⟨7, 7, 45 / 2⟩] twoTiersProfile
      (ProfileStore.save twoTiersProfile (.ok ()))) := by
  decide +kernel

theorem calibration_saved_twoTiers :
    (∃ text, ProfileStore.save twoTiersProfile (.ok ()) = .ok text) ∧
    profileFitsCapabilities sampleCapabilities twoTiersProfile = true := by
  have hboth := calibration_saved_iff sampleCapabilities twoTiers twoTiersRest _ twoTiersProfile _
    calibration_twoTiers
  refine ⟨hboth.1.2 ⟨rfl, by decide +kernel, ?_⟩, hboth.2.2 (by decide +kernel)⟩
  decide +kernel

/-- Where it is not clamped, no line fits the points of a calibration better than the one of its
profile. -/
theorem calibration_line (current : Capabilities) (inputs : CalibrationInputs)
    (rest : CalibrationRest) (mapping : List CalibrationPoint) (profile : CalibrationProfile)
    (saved : Except String Text)
    (h : current.calibration inputs rest = some (.built mapping profile saved))
    (hpoints : 2 ≤ mapping.length)
    (hspread : 1 / 10 ^ 9 < |LeastSquares.denominator (calibrationPairs mapping)|)
    (hslope : 1 / 4 < profile.packageToInputSlope ∧ profile.packageToInputSlope < 4)
    (hintercept : -20 < profile.packageToInputInterceptW ∧ profile.packageToInputInterceptW < 100)
    (slope intercept : ℚ) :
    LeastSquares.squaredError (calibrationPairs mapping) profile.packageToInputSlope
        profile.packageToInputInterceptW ≤
      LeastSquares.squaredError (calibrationPairs mapping) slope intercept := by
  obtain ⟨s, b, -, -, -, rfl, rfl, -⟩ := calibration_built h
  have hline : fitLine s.mapping = (LeastSquares.slope (calibrationPairs s.mapping),
      LeastSquares.intercept (calibrationPairs s.mapping)) := if_pos ⟨hpoints, hspread⟩
  have hdet : LeastSquares.denominator (calibrationPairs s.mapping) ≠ 0 := by
    intro hzero
    rw [hzero, abs_zero] at hspread
    norm_num at hspread
  have hfirst : clampSlope (fitLine s.mapping).1 = LeastSquares.slope (calibrationPairs s.mapping) := by
    rw [clampSlope_eq hslope.1 hslope.2, hline]
  have hsecond : clampIntercept (fitLine s.mapping).2 =
      LeastSquares.intercept (calibrationPairs s.mapping) := by
    rw [clampIntercept_eq hintercept.1 hintercept.2, hline]
  show LeastSquares.squaredError _ (clampSlope (fitLine s.mapping).1)
    (clampIntercept (fitLine s.mapping).2) ≤ _
  rw [hfirst, hsecond]
  exact LeastSquares.squaredError_fit_le hdet slope intercept

theorem calibration_line_twoTiers :
    LeastSquares.squaredError (calibrationPairs [⟨5, 5, 20⟩, ⟨7, 7, 45 / 2⟩]) (5 / 4) (55 / 4) ≤
      LeastSquares.squaredError (calibrationPairs [⟨5, 5, 20⟩, ⟨7, 7, 45 / 2⟩]) 1 15 :=
  calibration_line sampleCapabilities twoTiers twoTiersRest _ twoTiersProfile _ calibration_twoTiers
    (by decide) (by decide +kernel) (by decide +kernel) (by decide +kernel) 1 15

end TurboMac.Daemon
