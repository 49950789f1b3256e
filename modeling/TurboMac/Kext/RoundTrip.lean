import TurboMac.Lib.Rounding
import TurboMac.Kext.HeldLimit

/-! # Milliwatts at the captured limit

`arm` captures the limit in raw units, keeps its ceilings in milliwatts, and
compares in both: `validateRequestLocked` the milliwatts of a request with the
ceilings, `installLimitsLocked` its raw units with the captured ones. The two
agree where a raw limit comes back from milliwatts as it was. With the unit
above a milliwatt (`powerExponent_` up to 9) every limit but zero does; below,
both conversions round.
-/

namespace TurboMac.Kext

open Program Rounding

theorem unitExponent_le (units : U64) : (unitExponent units).toNat ≤ 15 := by
  have hle : (units &&& 0xf).toNat ≤ 15 := by
    rw [BitVec.toNat_and]
    exact Nat.and_le_right
  unfold unitExponent
  rw [BitVec.toNat_setWidth]
  exact (Nat.mod_le _ _).trans hle

/-! ## The conversions as rounding -/

section

variable {raw mw exponent : U32}

theorem toNat_twoPow_exponent (he : exponent.toNat ≤ 15) :
    (BitVec.twoPow 64 exponent.toNat).toNat = 2 ^ exponent.toNat := by
  rw [BitVec.toNat_twoPow]
  exact Nat.mod_eq_of_lt (Nat.pow_lt_pow_right (by omega) (by omega))

theorem exponent_admitted (he : exponent.toNat ≤ 15) : ¬ 31 ≤ exponent := by
  rw [BitVec.le_def]
  show ¬ 31 ≤ exponent.toNat
  omega

theorem two_pow_exponent_le (he : exponent.toNat ≤ 15) : 2 ^ exponent.toNat ≤ 32768 :=
  (Nat.pow_le_pow_right (by omega) he).trans (by norm_num)

theorem toNat_raplRawToMW (hraw : raw.toNat ≤ 0x7fff) (he : exponent.toNat ≤ 15) :
    (raplRawToMW raw exponent).toNat = nearest (raw.toNat * 1000) (2 ^ exponent.toNat) := by
  have hpow := two_pow_exponent_le he
  have hraw64 : (raw.setWidth 64).toNat = raw.toNat := by
    rw [BitVec.toNat_setWidth]
    omega
  have hscaled : (raw.setWidth 64 * 1000).toNat = raw.toNat * 1000 := by
    rw [BitVec.toNat_mul_of_lt, hraw64]
    · rfl
    · rw [hraw64]
      show raw.toNat * 1000 < 2 ^ 64
      omega
  have hhalf : (BitVec.twoPow 64 exponent.toNat / 2).toNat = 2 ^ exponent.toNat / 2 := by
    rw [BitVec.toNat_udiv, toNat_twoPow_exponent he]
    rfl
  have hsum : (raw.setWidth 64 * 1000 + BitVec.twoPow 64 exponent.toNat / 2).toNat =
      raw.toNat * 1000 + 2 ^ exponent.toNat / 2 := by
    rw [BitVec.toNat_add_of_lt, hscaled, hhalf]
    omega
  have hfit : nearest (raw.toNat * 1000) (2 ^ exponent.toNat) < 2 ^ 32 := by
    unfold nearest
    exact (Nat.div_le_self _ _).trans_lt (by omega)
  unfold raplRawToMW
  rw [if_neg (exponent_admitted he), BitVec.toNat_setWidth, BitVec.toNat_udiv, hsum,
    toNat_twoPow_exponent he]
  exact Nat.mod_eq_of_lt hfit

theorem toNat_raplMWToRaw (mw : U32) (he : exponent.toNat ≤ 15) :
    (raplMWToRaw mw exponent).toNat =
      let units := nearest (mw.toNat * 2 ^ exponent.toNat) 1000
      min 0x7fff (if units = 0 ∧ 0 < mw.toNat then 1 else units) := by
  have hpow := two_pow_exponent_le he
  have hmw := mw.isLt
  have hprod : mw.toNat * 2 ^ exponent.toNat < 2 ^ 47 :=
    (Nat.mul_le_mul (Nat.le_of_lt_succ hmw) hpow).trans_lt (by omega)
  have hsum : (mw.setWidth 64 * BitVec.twoPow 64 exponent.toNat + 500).toNat =
      mw.toNat * 2 ^ exponent.toNat + 500 := by
    have hmw64 : (mw.setWidth 64).toNat = mw.toNat := by
      rw [BitVec.toNat_setWidth]
      omega
    have hscaled : (mw.setWidth 64 * BitVec.twoPow 64 exponent.toNat).toNat =
        mw.toNat * 2 ^ exponent.toNat := by
      rw [BitVec.toNat_mul_of_lt, hmw64, toNat_twoPow_exponent he]
      rw [hmw64, toNat_twoPow_exponent he]
      omega
    rw [BitVec.toNat_add_of_lt, hscaled]
    · rfl
    · rw [hscaled]
      show mw.toNat * 2 ^ exponent.toNat + 500 < 2 ^ 64
      omega
  have hunits : ((mw.setWidth 64 * BitVec.twoPow 64 exponent.toNat + 500) / 1000).toNat =
      nearest (mw.toNat * 2 ^ exponent.toNat) 1000 := by
    rw [BitVec.toNat_udiv, hsum]
    rfl
  unfold raplMWToRaw
  rw [if_neg (exponent_admitted he)]
  dsimp only
  generalize (mw.setWidth 64 * BitVec.twoPow 64 exponent.toNat + 500) / 1000 = units at hunits
  rw [← hunits]
  have hzero : (units = 0 ∧ 0 < mw) ↔ (units.toNat = 0 ∧ 0 < mw.toNat) := by
    rw [BitVec.lt_def, ← BitVec.toNat_inj]
    rfl
  have hmask : raplPowerFieldMask.toNat = 0x7fff := rfl
  -- the minimum of one, and then the saturation
  have hone : (if units = 0 ∧ 0 < mw then 1 else units).toNat =
      if units.toNat = 0 ∧ 0 < mw.toNat then 1 else units.toNat := by
    by_cases hnone : units = 0 ∧ 0 < mw
    · rw [if_pos hnone, if_pos (hzero.mp hnone)]
      rfl
    · rw [if_neg hnone, if_neg (mt hzero.mpr hnone)]
  rw [← hone]
  generalize (if units = 0 ∧ 0 < mw then 1 else units) = atLeastOne
  by_cases hsaturated : raplPowerFieldMask < atLeastOne
  · rw [if_pos hsaturated]
    rw [BitVec.lt_def, hmask] at hsaturated
    show 0x7fff = _
    omega
  · rw [if_neg hsaturated, BitVec.toNat_setWidth]
    rw [BitVec.lt_def, hmask] at hsaturated
    omega

theorem two_pow_ne_thousand (e : ℕ) : 2 ^ e ≠ 1000 := by
  intro h
  rcases Nat.lt_or_ge e 10 with hlt | hge
  · have hle : 2 ^ e ≤ 2 ^ 9 := Nat.pow_le_pow_right (by omega) (by omega)
    omega
  · have hle : 2 ^ 10 ≤ 2 ^ e := Nat.pow_le_pow_right (by omega) hge
    omega

/-- The limit is at least half a milliwatt, and its milliwatts round by at most
half a raw unit; what rounds up from the highest limit saturates to it. -/
def ReturnsExactly (exponent raw : U32) : Prop :=
  2 ^ exponent.toNat ≤ 2000 * raw.toNat ∧
    (raw.toNat = 0x7fff ∨ 1000 * raw.toNat % 2 ^ exponent.toNat ≤ 500 ∨
      2 ^ exponent.toNat < 1000 * raw.toNat % 2 ^ exponent.toNat + 500)

instance (exponent raw : U32) : Decidable (ReturnsExactly exponent raw) :=
  inferInstanceAs (Decidable (_ ∧ _))

/-- With the unit above a milliwatt every limit but zero returns. -/
theorem returnsExactly_of_exponent_le (he : exponent.toNat ≤ 9) :
    ReturnsExactly exponent raw ↔ 0 < raw.toNat := by
  have hpow : 2 ^ exponent.toNat ≤ 2 ^ 9 := Nat.pow_le_pow_right (by omega) he
  have hpos : 0 < 2 ^ exponent.toNat := by positivity
  have hlt : 1000 * raw.toNat % 2 ^ exponent.toNat < 2 ^ exponent.toNat := Nat.mod_lt _ hpos
  unfold ReturnsExactly
  omega

/-- A limit has no milliwatts if it is less than half of one. -/
theorem raplRawToMW_eq_zero_iff (hraw : raw.toNat ≤ 0x7fff) (he : exponent.toNat ≤ 15) :
    raplRawToMW raw exponent = 0 ↔ 2000 * raw.toNat < 2 ^ exponent.toNat := by
  have hpos : 0 < 2 ^ exponent.toNat := by positivity
  have hparity : 2 ^ exponent.toNat = 1 ∨ 2 ^ exponent.toNat % 2 = 0 := by
    rcases Nat.eq_zero_or_pos exponent.toNat with hzero | hexponent
    · left
      rw [hzero]
      rfl
    · right
      exact Nat.mod_eq_zero_of_dvd (dvd_pow_self 2 (by omega))
  rw [← BitVec.toNat_inj, toNat_raplRawToMW hraw he]
  show nearest _ _ = 0 ↔ _
  rw [nearest_eq_zero_iff hpos]
  omega

/-- To milliwatts and back without the minimum and the saturation. -/
theorem nearest_raplRawToMW_iff (hraw : raw.toNat ≤ 0x7fff) (he : exponent.toNat ≤ 15)
    (hsome : 2 ^ exponent.toNat ≤ 2000 * raw.toNat) :
    nearest ((raplRawToMW raw exponent).toNat * 2 ^ exponent.toNat) 1000 = raw.toNat ↔
      1000 * raw.toNat % 2 ^ exponent.toNat ≤ 500 ∨
        2 ^ exponent.toNat < 1000 * raw.toNat % 2 ^ exponent.toNat + 500 := by
  have hpos : 0 < 2 ^ exponent.toNat := by positivity
  have hne := two_pow_ne_thousand exponent.toNat
  have hcomm : raw.toNat * 1000 = 1000 * raw.toNat := Nat.mul_comm _ _
  rw [toNat_raplRawToMW hraw he, nearest_nearest_iff (by omega) hpos, hcomm]
  split
  · omega
  · omega

/-- The minimum of one is not needed for what a raw limit has in milliwatts. -/
theorem nearest_raplRawToMW_pos (hraw : raw.toNat ≤ 0x7fff) (he : exponent.toNat ≤ 15)
    (hsome : 2 ^ exponent.toNat ≤ 2000 * raw.toNat) :
    0 < nearest ((raplRawToMW raw exponent).toNat * 2 ^ exponent.toNat) 1000 := by
  have hpos : 0 < 2 ^ exponent.toNat := by positivity
  have hmw : raplRawToMW raw exponent ≠ 0 := by
    rw [Ne, raplRawToMW_eq_zero_iff hraw he]
    omega
  have hmwPos : 1 ≤ (raplRawToMW raw exponent).toNat := by
    rw [Ne, ← BitVec.toNat_inj] at hmw
    exact Nat.pos_of_ne_zero hmw
  rcases Nat.lt_or_ge (2 ^ exponent.toNat) 500 with hlarge | hsmall
  · -- a unit above two milliwatts: nothing is lost
    have hlt : 1000 * raw.toNat % 2 ^ exponent.toNat < 2 ^ exponent.toNat := Nat.mod_lt _ hpos
    rw [(nearest_raplRawToMW_iff hraw he hsome).mpr (.inl (by omega))]
    omega
  · have hle : 2 ^ exponent.toNat ≤ (raplRawToMW raw exponent).toNat * 2 ^ exponent.toNat :=
      Nat.le_mul_of_pos_left _ hmwPos
    unfold nearest
    omega

/-- The highest limit comes back under every exponent. -/
theorem highest_returns (he : exponent.toNat ≤ 15) :
    raplMWToRaw (raplRawToMW 0x7fff exponent) exponent = 0x7fff := by
  have hall : ∀ e : Fin 16, raplMWToRaw (raplRawToMW 0x7fff (BitVec.ofNat 32 e))
      (BitVec.ofNat 32 e) = 0x7fff := by decide
  have hofNat : BitVec.ofNat 32 exponent.toNat = exponent := by
    rw [BitVec.ofNat_toNat, BitVec.setWidth_eq]
  have hexponent := hall ⟨exponent.toNat, by omega⟩
  rwa [hofNat] at hexponent

/-- A limit of some milliwatts comes back if and only if the condition holds. -/
theorem raplMWToRaw_raplRawToMW_iff (hraw : raw.toNat ≤ 0x7fff) (he : exponent.toNat ≤ 15)
    (hsome : 2 ^ exponent.toNat ≤ 2000 * raw.toNat) :
    raplMWToRaw (raplRawToMW raw exponent) exponent = raw ↔ ReturnsExactly exponent raw := by
  by_cases hhighest : raw.toNat = 0x7fff
  · have heq : raw = 0x7fff := BitVec.eq_of_toNat_eq hhighest
    subst heq
    exact ⟨fun _ => ⟨hsome, .inl rfl⟩, fun _ => highest_returns he⟩
  have hiff := nearest_raplRawToMW_iff hraw he hsome
  have hpos := nearest_raplRawToMW_pos hraw he hsome
  rw [← BitVec.toNat_inj, toNat_raplMWToRaw _ he]
  dsimp only
  rw [if_neg (by omega)]
  unfold ReturnsExactly
  rw [← hiff]
  omega

/-- The milliwatts up to those of the limit convert to at most the limit, and
its own come back to it. -/
def ConvertsInside (exponent raw : U32) : Prop :=
  (∀ mw : U32, mw ≤ raplRawToMW raw exponent →
      (raplMWToRaw mw exponent).toNat ≤ max raw.toNat 1) ∧
    (0 < raw → raplRawToMW raw exponent ≠ 0 →
      raplMWToRaw (raplRawToMW raw exponent) exponent = raw)

/-- A higher limit has no fewer raw units. -/
theorem raplMWToRaw_mono {mw mw' : U32} (he : exponent.toNat ≤ 15) (h : mw ≤ mw') :
    (raplMWToRaw mw exponent).toNat ≤ (raplMWToRaw mw' exponent).toNat := by
  rw [BitVec.le_def] at h
  have hunits := nearest_mono (Nat.mul_le_mul_right (2 ^ exponent.toNat) h) 1000
  rw [toNat_raplMWToRaw _ he, toNat_raplMWToRaw _ he]
  dsimp only
  split
  · split
    · omega
    · omega
  · split
    · omega
    · omega

/-- A limit of some milliwatts converts inside itself if and only if it comes back. -/
theorem convertsInside_iff (hraw : raw.toNat ≤ 0x7fff) (he : exponent.toNat ≤ 15)
    (hsome : 2 ^ exponent.toNat ≤ 2000 * raw.toNat) :
    ConvertsInside exponent raw ↔ ReturnsExactly exponent raw := by
  have hpos : 0 < 2 ^ exponent.toNat := by positivity
  have hmw := mt (raplRawToMW_eq_zero_iff hraw he).mp (by omega)
  have hiff := raplMWToRaw_raplRawToMW_iff hraw he hsome
  constructor
  · intro hinside
    exact hiff.mp (hinside.2 (by rw [BitVec.lt_def]; show 0 < raw.toNat; omega) hmw)
  · intro hexact
    have hback := hiff.mpr hexact
    refine ⟨fun mw hle => ?_, fun _ _ => hback⟩
    have hmono := raplMWToRaw_mono he hle
    rw [hback] at hmono
    omega

end

/-! ## The checks of a captured driver -/

/-- What `validateRequestLocked` accepts of a driver with the limit captured,
`installLimitsLocked` refuses only for the LOCK bit. -/
def NeverRefuses (P : Platform) (exponent : U32) (limit : U64) : Prop :=
  ∀ (w : World) (request : LimitRequest) (isArm : Bool), HoldsLimit exponent limit w.driver →
    (exec (validateRequestLocked P (some request) isArm) w).1 = true →
    ∀ current, raplLocked current = false →
      limitsRefused w.driver current (raplMWToRaw request.pl1MW w.driver.powerExponent)
        (raplMWToRaw request.pl2MW w.driver.powerExponent) = false

section

variable {P : Platform} {exponent : U32} {limit : U64}

theorem HoldsLimit.validate {w : World} (h : HoldsLimit exponent limit w.driver)
    (request : Option LimitRequest) (isArm : Bool) :
    (exec (validateRequestLocked P request isArm) w).1 =
      validateLimitRequest request w.driver.lastSequence w.driver.floorMW
        (minimumNonZero w.driver.ceilingPL1MW w.driver.capabilityMaximumMW)
        (minimumNonZero w.driver.ceilingPL2MW w.driver.capabilityMaximumMW) watchdogTimeoutMS := by
  unfold validateRequestLocked
  rw [exec_bind, exec_getDriver, exec_ite, if_neg (by simp [h.captured])]
  rfl

theorem HoldsLimit.refused_eq {d : Driver} (h : HoldsLimit exponent limit d) {current : U64}
    (hunlocked : raplLocked current = false) (pl1Raw pl2Raw : U32) :
    limitsRefused d current pl1Raw pl2Raw =
      (decide (raplPl1Raw limit < pl1Raw) || decide (raplPl2Raw limit < pl2Raw)) := by
  unfold limitsRefused
  rw [hunlocked, raplLocked_withPowerLimits, h.captured, h.capturedPackageLimit]
  simp

theorem minimumNonZero_le {first second : U32} (h : first ≠ 0) : minimumNonZero first second ≤ first := by
  unfold minimumNonZero
  rw [if_neg h]
  split
  · exact BitVec.le_refl _
  · split
    · exact BitVec.le_refl _
    · rename_i hlt
      exact BitVec.not_lt.mp hlt

/-- A limit of which both powers come back refuses nothing that was accepted. -/
theorem neverRefuses_of_returns (he : exponent.toNat ≤ 15)
    (h1 : ReturnsExactly exponent (raplPl1Raw limit))
    (h2 : ReturnsExactly exponent (raplPl2Raw limit)) : NeverRefuses P exponent limit := by
  intro w request isArm hw hvalid current hunlocked
  have hinside : ∀ raw mw : U32, raw.toNat ≤ 0x7fff → ReturnsExactly exponent raw →
      mw ≤ minimumNonZero (raplRawToMW raw exponent) w.driver.capabilityMaximumMW →
      ¬ raw < raplMWToRaw mw exponent := by
    intro raw mw hraw hreturns hmw
    have hsome : raplRawToMW raw exponent ≠ 0 := by
      rw [Ne, raplRawToMW_eq_zero_iff hraw he]
      exact not_lt.mpr hreturns.1
    have hconverts := ((convertsInside_iff hraw he hreturns.1).mpr hreturns).1 mw
      (BitVec.le_trans hmw (minimumNonZero_le hsome))
    have hpos : 0 < 2 ^ exponent.toNat := by positivity
    have hsome := hreturns.1
    rw [BitVec.lt_def]
    omega
  rw [hw.validate] at hvalid
  simp only [validateLimitRequest, decide_eq_true_eq] at hvalid
  obtain ⟨-, -, -, -, -, -, -, -, -, hpl1, hpl2⟩ := hvalid
  rw [hw.ceilings.pl1, hw.capturedPackageLimit, hw.powerExponent] at hpl1
  rw [hw.ceilings.pl2, hw.capturedPackageLimit, hw.powerExponent] at hpl2
  rw [hw.refused_eq hunlocked, hw.powerExponent, Bool.or_eq_false_iff, decide_eq_false_iff_not,
    decide_eq_false_iff_not]
  exact ⟨hinside _ _ (raplPl1Raw_le limit) h1 hpl1, hinside _ _ (raplPl2Raw_le limit) h2 hpl2⟩

end

/-! ### A limit that does not come back -/

section

variable {P : Platform} {units limit : U64}

/-- A driver with `limit` captured, on a package with these minimum and maximum powers. -/
def capturing (units limit : U64) (minimumRaw maximumRaw : U32) : Driver :=
  { initialDriver with
    supported := true
    captured := true
    capturedPackageLimit := limit
    unitsRaw := units
    powerExponent := unitExponent units
    ceilingPL1MW := raplRawToMW (raplPl1Raw limit) (unitExponent units)
    ceilingPL2MW := raplRawToMW (raplPl2Raw limit) (unitExponent units)
    floorMW :=
      let floor := raplRawToMW minimumRaw (unitExponent units)
      if floor = 0 then 1000 else floor
    capabilityMaximumMW := raplRawToMW maximumRaw (unitExponent units) }

theorem holdsLimit_capturing {minimumRaw maximumRaw : U32} (hmin : minimumRaw.toNat ≤ 0x7fff)
    (hmax : maximumRaw.toNat ≤ 0x7fff)
    (hfloor : (capturing units limit minimumRaw maximumRaw).floorMW ≤
      raplRawToMW maximumRaw (unitExponent units)) :
    HoldsLimit (unitExponent units) limit (capturing units limit minimumRaw maximumRaw) := by
  refine ⟨rfl, rfl, rfl, ⟨rfl, ?_, ⟨maximumRaw, hmax, rfl⟩, hfloor⟩, rfl, rfl⟩
  show (IsPower _ (ite _ _ _) ∧ ite _ _ _ ≠ _) ∨ ite _ _ _ = _
  split
  · exact .inr rfl
  · rename_i hsome
    exact .inl ⟨⟨minimumRaw, hmin, rfl⟩, hsome⟩

/-- A first request for the same power in both limits. -/
def equalRequest (mw : U32) : LimitRequest where
  version := protocolVersion
  size := limitRequestSize
  pl1MW := mw
  pl2MW := mw
  watchdogTimeoutMS := watchdogTimeoutMS
  hwpMode := hwpReleaseMaximum
  sequence := 1

/-- One request between floor and ceilings with more raw units than the captured
limit is accepted, and then refused. -/
theorem not_neverRefuses {minimumRaw maximumRaw mw : U32} (hmin : minimumRaw.toNat ≤ 0x7fff)
    (hmax : maximumRaw.toNat ≤ 0x7fff)
    (hfloor : (capturing units limit minimumRaw maximumRaw).floorMW ≤ mw)
    (hmaximum : mw ≤ raplRawToMW maximumRaw (unitExponent units)) (hpos : 0 < mw)
    (hpl1 : mw ≤ minimumNonZero (raplRawToMW (raplPl1Raw limit) (unitExponent units))
      (raplRawToMW maximumRaw (unitExponent units)))
    (hpl2 : mw ≤ minimumNonZero (raplRawToMW (raplPl2Raw limit) (unitExponent units))
      (raplRawToMW maximumRaw (unitExponent units)))
    (hover : raplPl1Raw limit < raplMWToRaw mw (unitExponent units) ∨
      raplPl2Raw limit < raplMWToRaw mw (unitExponent units)) : ¬ NeverRefuses P (unitExponent units) limit := by
  intro hnever
  have hholds := @holdsLimit_capturing units limit _ _ hmin hmax
    (BitVec.le_trans hfloor hmaximum)
  set w : World := ⟨capturing units limit minimumRaw maximumRaw, []⟩ with hw
  have hvalid : (exec (validateRequestLocked P (some (equalRequest mw)) false) w).1 = true := by
    rw [HoldsLimit.validate (w := w) hholds]
    simp only [validateLimitRequest, decide_eq_true_eq]
    have hceiling : ∀ c : U32, mw ≤ c → 0 < c := by
      intro c hc
      rw [BitVec.lt_def] at hpos ⊢
      exact hpos.trans_le hc
    exact ⟨rfl, rfl, rfl, .inl rfl, show (0 : U64) < 1 by decide, hfloor, BitVec.le_refl _,
      hceiling _ hpl1, hceiling _ hpl2, hpl1, hpl2⟩
  have haccepted := hnever w (equalRequest mw) false hholds hvalid 0 (by decide)
  rw [HoldsLimit.refused_eq (d := w.driver) hholds (by decide), Bool.or_eq_false_iff,
    decide_eq_false_iff_not, decide_eq_false_iff_not] at haccepted
  rcases hover with hover | hover
  · exact haccepted.1 hover
  · exact haccepted.2 hover

theorem minimumNonZero_self {first second : U32} (h : first = 0 ∨ first = second) :
    minimumNonZero first second = second := by
  unfold minimumNonZero
  rcases h with rfl | rfl
  · rfl
  · split
    · rfl
    · simp

/-- A package with one of the two powers for its minimum and maximum accepts it
where the other has no milliwatts. -/
theorem not_neverRefuses_of_zero {raw mw : U32} (hraw : raw.toNat ≤ 0x7fff)
    (hmw : mw = raplRawToMW raw (unitExponent units)) (hsome : mw ≠ 0)
    (hpl1 : raplRawToMW (raplPl1Raw limit) (unitExponent units) = 0 ∨
      raplRawToMW (raplPl1Raw limit) (unitExponent units) = mw)
    (hpl2 : raplRawToMW (raplPl2Raw limit) (unitExponent units) = 0 ∨
      raplRawToMW (raplPl2Raw limit) (unitExponent units) = mw)
    (hover : raplPl1Raw limit < raplMWToRaw mw (unitExponent units) ∨
      raplPl2Raw limit < raplMWToRaw mw (unitExponent units)) : ¬ NeverRefuses P (unitExponent units) limit := by
  subst hmw
  have hfloor : (capturing units limit raw raw).floorMW = raplRawToMW raw (unitExponent units) := if_neg hsome
  refine not_neverRefuses hraw hraw ?_ (BitVec.le_refl _) ?_ ?_ ?_ hover
  · rw [hfloor]
    exact BitVec.le_refl _
  · rw [BitVec.lt_def]
    exact Nat.pos_of_ne_zero fun hzero => hsome (BitVec.eq_of_toNat_eq hzero)
  · rw [minimumNonZero_self hpl1]
    exact BitVec.le_refl _
  · rw [minimumNonZero_self hpl2]
    exact BitVec.le_refl _

/-- A limit without milliwatts in either power lets a watt through. -/
theorem not_neverRefuses_of_both_zero
    (h1 : 2000 * (raplPl1Raw limit).toNat < 2 ^ (unitExponent units).toNat)
    (h2 : raplRawToMW (raplPl2Raw limit) (unitExponent units) = 0) :
    ¬ NeverRefuses P (unitExponent units) limit := by
  have hall : ∀ e : Fin 16, 1000 ≤ raplRawToMW 0x7fff (BitVec.ofNat 32 e) ∧
      raplRawToMW 0 (BitVec.ofNat 32 e) = 0 ∧
      (raplMWToRaw 1000 (BitVec.ofNat 32 e)).toNat = min 0x7fff (2 ^ e.val) := by decide
  have he := unitExponent_le units
  have hofNat : BitVec.ofNat 32 (unitExponent units).toNat = unitExponent units := by
    rw [BitVec.ofNat_toNat, BitVec.setWidth_eq]
  obtain ⟨hmaximum, hminimum, hback⟩ := hall ⟨(unitExponent units).toNat, by omega⟩
  dsimp only at hmaximum hminimum hback
  rw [hofNat] at hmaximum hminimum hback
  have hnone := (raplRawToMW_eq_zero_iff (raplPl1Raw_le limit) he).mpr h1
  have hfloor : (capturing units limit 0 0x7fff).floorMW = 1000 := if_pos hminimum
  have hpow := two_pow_exponent_le he
  have hone : (0 : U32) < 1000 := by decide
  refine not_neverRefuses (show (0 : U32).toNat ≤ 0x7fff by decide)
    (show (0x7fff : U32).toNat ≤ 0x7fff by decide) ?_ hmaximum hone ?_ ?_ (.inl ?_)
  · rw [hfloor]
    exact BitVec.le_refl _
  · rwa [minimumNonZero_self (.inl hnone)]
  · rwa [minimumNonZero_self (.inl h2)]
  · rw [BitVec.lt_def, hback]
    omega

/-- Both powers convert inside the captured limit, and what was accepted is never
refused, if and only if both come back from milliwatts. -/
theorem converts_inside_captured_iff (P : Platform) (units limit : U64) :
    (ConvertsInside (unitExponent units) (raplPl1Raw limit) ∧
        ConvertsInside (unitExponent units) (raplPl2Raw limit) ∧
        NeverRefuses P (unitExponent units) limit) ↔
      ReturnsExactly (unitExponent units) (raplPl1Raw limit) ∧
        ReturnsExactly (unitExponent units) (raplPl2Raw limit) := by
  have he := unitExponent_le units
  have hraw1 := raplPl1Raw_le limit
  have hraw2 := raplPl2Raw_le limit
  constructor
  · rintro ⟨hinside1, hinside2, hnever⟩
    have hzero1 := raplRawToMW_eq_zero_iff hraw1 he
    have hzero2 := raplRawToMW_eq_zero_iff hraw2 he
    by_cases hsome1 : 2 ^ (unitExponent units).toNat ≤ 2000 * (raplPl1Raw limit).toNat
    · have hreturns1 := (convertsInside_iff hraw1 he hsome1).mp hinside1
      by_cases hsome2 : 2 ^ (unitExponent units).toNat ≤ 2000 * (raplPl2Raw limit).toNat
      · exact ⟨hreturns1, (convertsInside_iff hraw2 he hsome2).mp hinside2⟩
      · -- PL2 has no milliwatts, so PL1's are under its ceiling
        have hback := (raplMWToRaw_raplRawToMW_iff hraw1 he hsome1).mpr hreturns1
        refine absurd hnever (not_neverRefuses_of_zero hraw1 rfl (mt hzero1.mp (by omega)) (.inr rfl)
          (.inl (hzero2.mpr (by omega))) (.inr ?_))
        rw [hback, BitVec.lt_def]
        omega
    · have hnone1 := hzero1.mpr (by omega)
      by_cases hsome2 : 2 ^ (unitExponent units).toNat ≤ 2000 * (raplPl2Raw limit).toNat
      · -- and the other way round
        have hreturns2 := (convertsInside_iff hraw2 he hsome2).mp hinside2
        have hback := (raplMWToRaw_raplRawToMW_iff hraw2 he hsome2).mpr hreturns2
        refine absurd hnever (not_neverRefuses_of_zero hraw2 rfl (mt hzero2.mp (by omega))
          (.inl hnone1) (.inr rfl) (.inl ?_))
        rw [hback, BitVec.lt_def]
        omega
      · exact absurd hnever
          (not_neverRefuses_of_both_zero (by omega) (hzero2.mpr (by omega)))
  · rintro ⟨h1, h2⟩
    exact ⟨(convertsInside_iff hraw1 he h1.1).mpr h1, (convertsInside_iff hraw2 he h2.1).mpr h2,
      neverRefuses_of_returns he h1 h2⟩

end

/-- The machine with power units of 1/1024 W. -/
def fineMachine (initial : U64) : Platform :=
  let base := machine initial fun _ => false
  { base with
    rdmsr := fun log msr =>
      if msr = msrRAPLPowerUnit then 0xa0e0a
      else if msr = msrPackagePowerInfo then 0x3c40
      else base.rdmsr log msr }

/-- MSR 0x610 with 15.0625 W in both powers, and both enable bits. -/
def fineLimit : U64 := 0x0000bc400000bc40

/-- The ceilings of 15.0625 W round to 15063 mW, one raw unit more when they come
back; an update to them is accepted, refused, and takes down what was armed. -/
theorem accepted_at_ceiling_refused :
    let w := run (fineMachine fineLimit) [.arm (some (tenWatts 1))] (started (fineMachine fineLimit))
    let request := { equalRequest 15063 with sequence := 2 }
    (¬ ∀ units limit : U64, ConvertsInside (unitExponent units) (raplPl1Raw limit) ∧
        ConvertsInside (unitExponent units) (raplPl2Raw limit) ∧
        NeverRefuses (fineMachine fineLimit) (unitExponent units) limit) ∧
      HoldsLimit 10 fineLimit w.driver ∧ w.driver.state = .armed ∧
      raplRawToMW (raplPl1Raw fineLimit) 10 = 15063 ∧
      raplMWToRaw 15063 10 = raplPl1Raw fineLimit + 1 ∧
      (exec (validateRequestLocked (fineMachine fineLimit) (some request) false) w).1 = true ∧
      (exec ((Op.update (some request)).call (fineMachine fineLimit)) w).1 = .error ∧
      ((Op.update (some request)).after (fineMachine fineLimit) w).driver.state = .failsafe := by
  refine ⟨fun hall => ?_, ?_, rfl, rfl, rfl, rfl, rfl, rfl⟩
  · have hinside := (hall 10 fineLimit).1.1 15063 (by decide)
    revert hinside
    decide
  · exact run_holdsLimit (fineMachine fineLimit) [.arm (some (tenWatts 1))] rfl

end TurboMac.Kext
