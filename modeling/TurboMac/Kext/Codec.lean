import Mathlib.Data.BitVec
import Mathlib.Tactic.IntervalCases

/-! # `RAPLCodec.h` and `HWPCodec.h`

The bit layouts of the package power limit (MSR 0x610) and of the HWP request
and capability registers, with C's fixed-width arithmetic as `BitVec`.
-/

namespace TurboMac.Kext

abbrev U32 := BitVec 32
abbrev U64 := BitVec 64

/-! ## RAPL -/

def raplPowerFieldMask : U64 := 0x7fff
def raplPl1Enable : U64 := BitVec.twoPow 64 15
def raplPl1Clamp : U64 := BitVec.twoPow 64 16
def raplPl2Enable : U64 := BitVec.twoPow 64 47
def raplPl2Clamp : U64 := BitVec.twoPow 64 48
def raplLock : U64 := BitVec.twoPow 64 63

/-- `tm_rapl_raw_to_mw`. -/
def raplRawToMW (raw exponent : U32) : U32 :=
  if 31 ≤ exponent then 0
  else
    let divisor : U64 := BitVec.twoPow 64 exponent.toNat
    ((raw.setWidth 64 * 1000 + divisor / 2) / divisor).setWidth 32

/-- `tm_rapl_mw_to_raw`. -/
def raplMWToRaw (mw exponent : U32) : U32 :=
  if 31 ≤ exponent then 0
  else
    let scaled : U64 := mw.setWidth 64 * BitVec.twoPow 64 exponent.toNat
    let raw := (scaled + 500) / 1000
    let raw := if raw = 0 ∧ 0 < mw then 1 else raw
    let raw := if raplPowerFieldMask < raw then raplPowerFieldMask else raw
    raw.setWidth 32

/-- `tm_rapl_pl1_raw`. -/
def raplPl1Raw (value : U64) : U32 := (value &&& raplPowerFieldMask).setWidth 32

/-- `tm_rapl_pl2_raw`. -/
def raplPl2Raw (value : U64) : U32 := ((value >>> (32 : ℕ)) &&& raplPowerFieldMask).setWidth 32

def raplPl1Clear : U64 := raplPowerFieldMask ||| raplPl1Enable ||| raplPl1Clamp
def raplPl2Clear : U64 := (raplPowerFieldMask <<< (32 : ℕ)) ||| raplPl2Enable ||| raplPl2Clamp

/-- `tm_rapl_with_power_limits`. -/
def raplWithPowerLimits (original : U64) (pl1Raw pl2Raw : U32) : U64 :=
  let result := original &&& ~~~(raplPl1Clear ||| raplPl2Clear ||| raplLock)
  let result := result ||| (pl1Raw.setWidth 64 &&& raplPowerFieldMask)
  let result := result ||| ((pl2Raw.setWidth 64 &&& raplPowerFieldMask) <<< (32 : ℕ))
  let result := result ||| (raplPl1Enable ||| raplPl1Clamp)
  result ||| (raplPl2Enable ||| raplPl2Clamp)

/-- `kLimitReadbackMask` of `TurboMac.cpp`. -/
def limitReadbackMask : U64 :=
  raplPowerFieldMask ||| raplPl1Enable ||| raplPl1Clamp ||| (raplPowerFieldMask <<< (32 : ℕ)) |||
    raplPl2Enable ||| raplPl2Clamp ||| raplLock

/-- The limit, enable and clamp fields of MSR 0x610. -/
structure LimitFields where
  pl1 : U32
  pl2 : U32
  pl1Enable : Bool
  pl2Enable : Bool
  pl1Clamp : Bool
  pl2Clamp : Bool
deriving DecidableEq, Repr

def limitFields (value : U64) : LimitFields where
  pl1 := raplPl1Raw value
  pl2 := raplPl2Raw value
  pl1Enable := value.getLsbD 15
  pl2Enable := value.getLsbD 47
  pl1Clamp := value.getLsbD 16
  pl2Clamp := value.getLsbD 48

/-- The bits outside the limit, enable, clamp and LOCK fields: the time windows
and what is reserved. -/
def otherBits (value : U64) : U64 := value &&& ~~~limitReadbackMask

/-- A lower limit has lower powers and every enable and clamp of the higher. -/
instance : PartialOrder LimitFields :=
  PartialOrder.lift
    (fun f => ((f.pl1.toNat, f.pl2.toNat),
      (OrderDual.toDual f.pl1Enable, OrderDual.toDual f.pl2Enable),
      (OrderDual.toDual f.pl1Clamp, OrderDual.toDual f.pl2Clamp)))
    (by
      rintro ⟨a, b, c, d, e, f⟩ ⟨a', b', c', d', e', f'⟩ h
      simp only [Prod.mk.injEq, BitVec.toNat_inj, EmbeddingLike.apply_eq_iff_eq] at h
      obtain ⟨⟨rfl, rfl⟩, ⟨rfl, rfl⟩, rfl, rfl⟩ := h
      rfl)

theorem limitFields_le {f f' : LimitFields} :
    f ≤ f' ↔ (f.pl1.toNat ≤ f'.pl1.toNat ∧ f.pl2.toNat ≤ f'.pl2.toNat) ∧
      ((f'.pl1Enable → f.pl1Enable) ∧ (f'.pl2Enable → f.pl2Enable)) ∧
      (f'.pl1Clamp → f.pl1Clamp) ∧ (f'.pl2Clamp → f.pl2Clamp) := Iff.rfl

/-! ### The fields bit by bit -/

theorem getLsbD_powerFieldMask (i : ℕ) : raplPowerFieldMask.getLsbD i = decide (i < 15) := by
  by_cases hi : i < 64
  · interval_cases i <;> rfl
  · rw [BitVec.getLsbD_of_ge _ _ (by omega)]
    simp
    omega

theorem getLsbD_pl1Clear (i : ℕ) : raplPl1Clear.getLsbD i = decide (i < 17) := by
  by_cases hi : i < 64
  · interval_cases i <;> rfl
  · rw [BitVec.getLsbD_of_ge _ _ (by omega)]
    simp
    omega

theorem getLsbD_pl2Clear (i : ℕ) : raplPl2Clear.getLsbD i = decide (32 ≤ i ∧ i < 49) := by
  by_cases hi : i < 64
  · interval_cases i <;> rfl
  · rw [BitVec.getLsbD_of_ge _ _ (by omega)]
    simp
    omega

theorem getLsbD_flags (i : ℕ) :
    (raplLock.getLsbD i = decide (i = 63)) ∧
    ((raplPl1Enable ||| raplPl1Clamp).getLsbD i = decide (i = 15 ∨ i = 16)) ∧
    (raplPl2Enable ||| raplPl2Clamp).getLsbD i = decide (i = 47 ∨ i = 48) := by
  by_cases hi : i < 64
  · interval_cases i <;> decide
  · rw [BitVec.getLsbD_of_ge _ _ (by omega), BitVec.getLsbD_of_ge _ _ (by omega),
      BitVec.getLsbD_of_ge _ _ (by omega)]
    simp
    omega

/-- A new limit has the powers asked for, every enable and clamp, no LOCK, and
the other bits of the limit it replaces. -/
theorem getLsbD_withPowerLimits (original : U64) (pl1Raw pl2Raw : U32) {i : ℕ} (hi : i < 64) :
    (raplWithPowerLimits original pl1Raw pl2Raw).getLsbD i =
      if i < 15 then pl1Raw.getLsbD i
      else if i < 17 then true
      else if i < 32 then original.getLsbD i
      else if i < 47 then pl2Raw.getLsbD (i - 32)
      else if i < 49 then true
      else if i < 63 then original.getLsbD i
      else false := by
  unfold raplWithPowerLimits
  dsimp only
  rw [BitVec.getLsbD_or, BitVec.getLsbD_or, (getLsbD_flags i).2.1, (getLsbD_flags i).2.2]
  simp only [BitVec.getLsbD_or, BitVec.getLsbD_and,
    BitVec.getLsbD_not, BitVec.getLsbD_shiftLeft, BitVec.getLsbD_setWidth,
    getLsbD_powerFieldMask, getLsbD_pl1Clear, getLsbD_pl2Clear, (getLsbD_flags i).1, hi]
  generalize BitVec.getLsbD original i = a
  generalize BitVec.getLsbD pl1Raw i = b
  generalize BitVec.getLsbD pl2Raw (i - 32) = c
  cases a <;> cases b <;> cases c <;> simp <;> grind

theorem getLsbD_readbackMask (i : ℕ) :
    limitReadbackMask.getLsbD i = decide (i < 17 ∨ (32 ≤ i ∧ i < 49) ∨ i = 63) := by
  by_cases hi : i < 64
  · interval_cases i <;> decide
  · rw [BitVec.getLsbD_of_ge _ _ (by omega)]
    simp
    omega

theorem getLsbD_pl1Raw (value : U64) {i : ℕ} (hi : i < 32) :
    (raplPl1Raw value).getLsbD i = (decide (i < 15) && value.getLsbD i) := by
  simp [raplPl1Raw, getLsbD_powerFieldMask, hi, Bool.and_comm]

theorem getLsbD_pl2Raw (value : U64) {i : ℕ} (hi : i < 32) :
    (raplPl2Raw value).getLsbD i = (decide (i < 15) && value.getLsbD (32 + i)) := by
  simp [raplPl2Raw, getLsbD_powerFieldMask, hi, Bool.and_comm]

/-- The fields are a function of the bits under the readback mask. -/
theorem limitFields_congr {v v' : U64}
    (h : ∀ i, i < 17 ∨ (32 ≤ i ∧ i < 49) → v.getLsbD i = v'.getLsbD i) :
    limitFields v = limitFields v' := by
  have hpl1 : raplPl1Raw v = raplPl1Raw v' := by
    apply BitVec.eq_of_getLsbD_eq
    intro i hi
    rw [getLsbD_pl1Raw v hi, getLsbD_pl1Raw v' hi]
    by_cases h15 : i < 15
    · rw [h i (by omega)]
    · simp [h15]
  have hpl2 : raplPl2Raw v = raplPl2Raw v' := by
    apply BitVec.eq_of_getLsbD_eq
    intro i hi
    rw [getLsbD_pl2Raw v hi, getLsbD_pl2Raw v' hi]
    by_cases h15 : i < 15
    · rw [h (32 + i) (by omega)]
    · simp [h15]
  simp only [limitFields, hpl1, hpl2, h 15 (by omega), h 47 (by omega), h 16 (by omega),
    h 48 (by omega)]

/-- `verifyLimitsLocked` compares the fields, whatever else it compares. -/
theorem limitFields_of_readback {v v' : U64}
    (h : v &&& limitReadbackMask = v' &&& limitReadbackMask) : limitFields v = limitFields v' := by
  apply limitFields_congr
  intro i hi
  have hbit := congrArg (fun x => BitVec.getLsbD x i) h
  have hmask : limitReadbackMask.getLsbD i = true := by
    rw [getLsbD_readbackMask]
    simp
    omega
  simpa [hmask] using hbit

/-- Equal fields have equal bits. -/
theorem getLsbD_of_limitFields {v v' : U64} (h : limitFields v = limitFields v') {i : ℕ}
    (hi : i < 17 ∨ (32 ≤ i ∧ i < 49)) : v.getLsbD i = v'.getLsbD i := by
  simp only [limitFields, LimitFields.mk.injEq] at h
  rcases h with ⟨hpl1, hpl2, h15, h47, h16, h48⟩
  by_cases hlow : i < 15
  · have hbit := congrArg (fun x => BitVec.getLsbD x i) hpl1
    simpa [getLsbD_pl1Raw _ (show i < 32 by omega), hlow] using hbit
  by_cases hhigh : 32 ≤ i ∧ i < 47
  · have hbit := congrArg (fun x => BitVec.getLsbD x (i - 32)) hpl2
    simpa [getLsbD_pl2Raw _ (show i - 32 < 32 by omega), show i - 32 < 15 by omega,
      show 32 + (i - 32) = i by omega] using hbit
  have hflag : i = 15 ∨ i = 16 ∨ i = 47 ∨ i = 48 := by omega
  rcases hflag with rfl | rfl | rfl | rfl
  · exact h15
  · exact h16
  · exact h47
  · exact h48

theorem otherBits_congr {v v' : U64}
    (h : ∀ i, i < 64 → ¬ (i < 17 ∨ (32 ≤ i ∧ i < 49) ∨ i = 63) → v.getLsbD i = v'.getLsbD i) :
    otherBits v = otherBits v' := by
  apply BitVec.eq_of_getLsbD_eq
  intro i hi
  simp only [otherBits, BitVec.getLsbD_and, BitVec.getLsbD_not, getLsbD_readbackMask, hi]
  by_cases hmask : i < 17 ∨ (32 ≤ i ∧ i < 49) ∨ i = 63
  · simp [hmask]
  · rw [h i hi hmask]

/-- `(value & TM_RAPL_LOCK) != 0`. -/
def raplLocked (value : U64) : Bool := value &&& raplLock != 0

/-- Testing one bit under its mask. -/
theorem and_twoPow_bne_zero (value : U64) {n : ℕ} (hn : n < 64) :
    (value &&& BitVec.twoPow 64 n != 0) = value.getLsbD n := by
  have hne : BitVec.twoPow 64 n ≠ 0 := by
    intro hzero
    have hbit := congrArg (fun x => BitVec.getLsbD x n) hzero
    simp [hn] at hbit
  rw [BitVec.and_twoPow]
  cases value.getLsbD n with
  | true => simpa using hne
  | false => simp

theorem raplLocked_eq (value : U64) : raplLocked value = value.getLsbD 63 :=
  and_twoPow_bne_zero value (by decide)

/-! ### What the driver writes -/

theorem limitFields_withPowerLimits (original : U64) (pl1Raw pl2Raw : U32) :
    limitFields (raplWithPowerLimits original pl1Raw pl2Raw) =
      ⟨pl1Raw &&& 0x7fff, pl2Raw &&& 0x7fff, true, true, true, true⟩ := by
  have hmask : ∀ i, (0x7fff : U32).getLsbD i = decide (i < 15) := by
    intro i
    by_cases hi : i < 32
    · interval_cases i <;> rfl
    · rw [BitVec.getLsbD_of_ge _ _ (by omega)]
      simp
      omega
  have hpl1 : raplPl1Raw (raplWithPowerLimits original pl1Raw pl2Raw) = pl1Raw &&& 0x7fff := by
    apply BitVec.eq_of_getLsbD_eq
    intro i hi
    rw [getLsbD_pl1Raw _ hi, getLsbD_withPowerLimits _ _ _ (by omega), BitVec.getLsbD_and, hmask]
    by_cases h15 : i < 15 <;> simp [h15]
  have hpl2 : raplPl2Raw (raplWithPowerLimits original pl1Raw pl2Raw) = pl2Raw &&& 0x7fff := by
    apply BitVec.eq_of_getLsbD_eq
    intro i hi
    rw [getLsbD_pl2Raw _ hi, getLsbD_withPowerLimits _ _ _ (by omega), BitVec.getLsbD_and, hmask]
    by_cases h15 : i < 15
    · simp [h15, show ¬ 32 + i < 15 by omega, show ¬ 32 + i < 17 by omega,
        show 32 + i < 47 by omega]
    · simp [h15]
  have hflag : ∀ i, i = 15 ∨ i = 16 ∨ i = 47 ∨ i = 48 →
      (raplWithPowerLimits original pl1Raw pl2Raw).getLsbD i = true := by
    intro i hi
    rw [getLsbD_withPowerLimits _ _ _ (by omega)]
    rcases hi with rfl | rfl | rfl | rfl <;> simp
  simp only [limitFields, hpl1, hpl2, hflag 15 (by omega), hflag 16 (by omega),
    hflag 47 (by omega), hflag 48 (by omega)]

theorem otherBits_withPowerLimits (original : U64) (pl1Raw pl2Raw : U32) :
    otherBits (raplWithPowerLimits original pl1Raw pl2Raw) = otherBits original := by
  apply otherBits_congr
  intro i hi hother
  rw [getLsbD_withPowerLimits _ _ _ hi]
  grind

theorem raplLocked_withPowerLimits (original : U64) (pl1Raw pl2Raw : U32) :
    raplLocked (raplWithPowerLimits original pl1Raw pl2Raw) = false := by
  rw [raplLocked_eq, getLsbD_withPowerLimits _ _ _ (by decide)]
  simp

/-- Clearing LOCK clears nothing else. -/
theorem unlock_spec (value : U64) :
    limitFields (value &&& ~~~raplLock) = limitFields value ∧
    otherBits (value &&& ~~~raplLock) = otherBits value ∧
    raplLocked (value &&& ~~~raplLock) = false := by
  have hbits : ∀ i, i < 64 →
      (value &&& ~~~raplLock).getLsbD i = (value.getLsbD i && !decide (i = 63)) := by
    intro i hi
    rw [BitVec.getLsbD_and, BitVec.getLsbD_not, (getLsbD_flags i).1]
    simp [hi]
  refine ⟨?_, ?_, ?_⟩
  · apply limitFields_congr
    intro i hi
    rw [hbits i (by omega)]
    simp [show i ≠ 63 by omega]
  · apply otherBits_congr
    intro i hi hother
    rw [hbits i hi]
    simp [show i ≠ 63 by omega]
  · rw [raplLocked_eq, hbits 63 (by decide)]
    simp

/-- A write with raw powers below those of a limit is below it. -/
theorem limitFields_withPowerLimits_le {captured : U64} (original : U64) {pl1Raw pl2Raw : U32}
    (hpl1 : pl1Raw ≤ raplPl1Raw captured) (hpl2 : pl2Raw ≤ raplPl2Raw captured) :
    limitFields (raplWithPowerLimits original pl1Raw pl2Raw) ≤ limitFields captured := by
  rw [limitFields_withPowerLimits, limitFields_le]
  refine ⟨⟨?_, ?_⟩, by simp⟩
  · exact (BitVec.toNat_and .. ▸ Nat.and_le_left).trans hpl1
  · exact (BitVec.toNat_and .. ▸ Nat.and_le_left).trans hpl2

/-! ## HWP -/

def hwpPerformanceMask : U64 := 0xff
def hwpPackageControlBit : U64 := BitVec.twoPow 64 42
def hwpMaximumValidBit : U64 := BitVec.twoPow 64 62

/-- One performance field of a register, `shift` bits up. -/
def hwpField (value : U64) (shift : ℕ) : U32 := ((value >>> shift) &&& hwpPerformanceMask).setWidth 32

/-- `tm_hwp_highest`. -/
def hwpHighest (capabilities : U64) : U32 := hwpField capabilities 0

/-- `tm_hwp_guaranteed`. -/
def hwpGuaranteed (capabilities : U64) : U32 := hwpField capabilities 8

/-- `tm_hwp_most_efficient`. -/
def hwpMostEfficient (capabilities : U64) : U32 := hwpField capabilities 16

/-- `tm_hwp_lowest`. -/
def hwpLowest (capabilities : U64) : U32 := hwpField capabilities 24

/-- `tm_hwp_maximum`. -/
def hwpMaximum (request : U64) : U32 := hwpField request 8

/-- `tm_hwp_package_control`. -/
def hwpPackageControl (request : U64) : Bool := request &&& hwpPackageControlBit != 0

/-- `tm_hwp_maximum_valid`. -/
def hwpMaximumValid (request : U64) : Bool := request &&& hwpMaximumValidBit != 0

/-- `tm_hwp_capabilities_sane`. -/
def hwpCapabilitiesSane (capabilities : U64) : Bool :=
  let highest := hwpHighest capabilities
  decide (0 < highest ∧ hwpLowest capabilities ≤ highest ∧
    hwpMostEfficient capabilities ≤ highest ∧ hwpGuaranteed capabilities ≤ highest)

/-- `tm_hwp_effective_maximum`. -/
def hwpEffectiveMaximum (logicalRequest packageRequest : U64) (flexibleRequestFields : Bool) : U32 :=
  if !hwpPackageControl logicalRequest ||
      (flexibleRequestFields && hwpMaximumValid logicalRequest) then
    hwpMaximum logicalRequest
  else hwpMaximum packageRequest

/-- `tm_hwp_with_maximum`. -/
def hwpWithMaximum (request : U64) (maximum : U32) : U64 :=
  (request &&& ~~~(hwpPerformanceMask <<< (8 : ℕ))) |||
    ((maximum.setWidth 64 &&& hwpPerformanceMask) <<< (8 : ℕ))

/-- `tm_hwp_make_request`. -/
def hwpMakeRequest (minimum maximum desired epp : U32) : U64 :=
  (minimum.setWidth 64 &&& hwpPerformanceMask) |||
    ((maximum.setWidth 64 &&& hwpPerformanceMask) <<< (8 : ℕ)) |||
    ((desired.setWidth 64 &&& hwpPerformanceMask) <<< (16 : ℕ)) |||
    ((epp.setWidth 64 &&& hwpPerformanceMask) <<< (24 : ℕ))

/-- `tm_hwp_failsafe_request`. -/
def hwpFailsafeRequest (capabilities : U64) (eppSupported : Bool) : U64 :=
  let lowest := hwpLowest capabilities
  let highest := hwpHighest capabilities
  let maximum := hwpMostEfficient capabilities
  let maximum := if maximum < lowest ∨ highest ≤ maximum then lowest else maximum
  hwpMakeRequest lowest maximum 0 (if eppSupported then 0xff else 0)

/-- `tm_hwp_active_request`. -/
def hwpActiveRequest (capabilities : U64) (eppSupported : Bool) : U64 :=
  hwpMakeRequest (hwpLowest capabilities) (hwpHighest capabilities) 0
    (if eppSupported then 0x80 else 0)

/-- `tm_hwp_with_local_maximum_override`. -/
def hwpWithLocalMaximumOverride (request : U64) (maximum : U32) (flexibleRequestFields : Bool) :
    U64 :=
  let result := hwpWithMaximum request maximum
  if hwpPackageControl request && flexibleRequestFields then result ||| hwpMaximumValidBit
  else result

theorem getLsbD_performanceMask (i : ℕ) : hwpPerformanceMask.getLsbD i = decide (i < 8) := by
  by_cases hi : i < 64
  · interval_cases i <;> rfl
  · rw [BitVec.getLsbD_of_ge _ _ (by omega)]
    simp
    omega

theorem getLsbD_hwpField (value : U64) (shift : ℕ) {i : ℕ} (hi : i < 32) :
    (hwpField value shift).getLsbD i = (decide (i < 8) && value.getLsbD (shift + i)) := by
  simp [hwpField, getLsbD_performanceMask, hi, Bool.and_comm]

theorem hwpField_lt (value : U64) (shift : ℕ) : (hwpField value shift).toNat < 256 := by
  rw [hwpField, BitVec.toNat_setWidth, BitVec.toNat_and]
  refine lt_of_le_of_lt (Nat.mod_le _ _) (lt_of_le_of_lt Nat.and_le_right ?_)
  decide

/-- The maximum of a request is the one it was made with. -/
theorem hwpMaximum_makeRequest (minimum maximum desired epp : U32) (hmax : maximum.toNat < 256) :
    hwpMaximum (hwpMakeRequest minimum maximum desired epp) = maximum := by
  apply BitVec.eq_of_getLsbD_eq
  intro i hi
  rw [hwpMaximum, getLsbD_hwpField _ _ hi]
  by_cases h8 : i < 8
  · simp only [hwpMakeRequest, BitVec.getLsbD_or, BitVec.getLsbD_and, BitVec.getLsbD_shiftLeft,
      BitVec.getLsbD_setWidth, getLsbD_performanceMask]
    simp [h8, show ¬ 8 + i < 8 by omega, show 8 + i < 16 by omega, show 8 + i < 24 by omega,
      show 8 + i < 64 by omega, show i < 64 by omega]
  · have hbit : maximum.getLsbD i = false := by
      apply Nat.testBit_lt_two_pow
      exact lt_of_lt_of_le hmax (Nat.pow_le_pow_right (by omega : 2 > 0) (not_lt.1 h8))
    simp [h8, hbit]

/-- A request made of its four fields leaves the package out of control. -/
theorem hwpPackageControl_makeRequest (minimum maximum desired epp : U32) :
    hwpPackageControl (hwpMakeRequest minimum maximum desired epp) = false := by
  rw [hwpPackageControl, hwpPackageControlBit, and_twoPow_bne_zero _ (by decide)]
  simp only [hwpMakeRequest, BitVec.getLsbD_or, BitVec.getLsbD_and, BitVec.getLsbD_shiftLeft,
    BitVec.getLsbD_setWidth, getLsbD_performanceMask]
  simp

/-- The fail-safe request stays below the highest performance level. -/
theorem hwpMaximum_failsafe {capabilities : U64}
    (h : hwpLowest capabilities < hwpHighest capabilities) (eppSupported : Bool) :
    hwpMaximum (hwpFailsafeRequest capabilities eppSupported) < hwpHighest capabilities := by
  unfold hwpFailsafeRequest
  rw [hwpMaximum_makeRequest]
  · split_ifs with hmax
    · exact h
    · rw [not_or, BitVec.not_le] at hmax
      exact hmax.2
  · split_ifs
    · exact hwpField_lt _ _
    · exact hwpField_lt _ _

/-- No package request overrides the fail-safe request. -/
theorem hwpEffectiveMaximum_failsafe (capabilities packageRequest : U64)
    (eppSupported flexibleRequestFields : Bool) :
    hwpEffectiveMaximum (hwpFailsafeRequest capabilities eppSupported) packageRequest
      flexibleRequestFields = hwpMaximum (hwpFailsafeRequest capabilities eppSupported) := by
  have hcontrol : hwpPackageControl (hwpFailsafeRequest capabilities eppSupported) = false :=
    hwpPackageControl_makeRequest _ _ _ _
  simp [hwpEffectiveMaximum, hcontrol]

/-- It is not below the lowest either. -/
theorem hwpLowest_le_failsafe (capabilities : U64) (eppSupported : Bool) :
    hwpLowest capabilities ≤ hwpMaximum (hwpFailsafeRequest capabilities eppSupported) := by
  unfold hwpFailsafeRequest
  rw [hwpMaximum_makeRequest]
  · split_ifs with hmax
    · exact BitVec.le_refl _
    · rw [not_or, BitVec.not_lt] at hmax
      exact hmax.1
  · split_ifs
    · exact hwpField_lt _ _
    · exact hwpField_lt _ _

/-! ### Overrides -/

/-- The bits of a request whose maximum is replaced. -/
theorem getLsbD_withMaximum (request : U64) (maximum : U32) {i : ℕ} (hi : i < 64) :
    (hwpWithMaximum request maximum).getLsbD i =
      if 8 ≤ i ∧ i < 16 then maximum.getLsbD (i - 8) else request.getLsbD i := by
  unfold hwpWithMaximum
  simp only [BitVec.getLsbD_or, BitVec.getLsbD_and, BitVec.getLsbD_not, BitVec.getLsbD_shiftLeft,
    BitVec.getLsbD_setWidth, getLsbD_performanceMask, hi]
  generalize BitVec.getLsbD request i = a
  generalize BitVec.getLsbD maximum (i - 8) = b
  cases a <;> cases b <;> simp <;> grind

/-- The bits of a request whose maximum is overridden. -/
theorem getLsbD_withLocalMaximumOverride (request : U64) (maximum : U32)
    (flexibleRequestFields : Bool) (i : ℕ) :
    (hwpWithLocalMaximumOverride request maximum flexibleRequestFields).getLsbD i =
      ((hwpWithMaximum request maximum).getLsbD i ||
        (decide (i = 62) && (hwpPackageControl request && flexibleRequestFields))) := by
  unfold hwpWithLocalMaximumOverride
  dsimp only
  split_ifs with hflexible
  · rw [BitVec.getLsbD_or, hwpMaximumValidBit, BitVec.getLsbD_twoPow, hflexible]
    simp [eq_comm]
  · rw [Bool.not_eq_true] at hflexible
    rw [hflexible]
    simp

/-- The two differ in nothing but the maximum and whether it is valid. -/
def MaximumOnly (captured request : U64) : Prop :=
  ∀ i < 64, ¬ (8 ≤ i ∧ i < 16) → i ≠ 62 → request.getLsbD i = captured.getLsbD i

theorem maximumOnly_refl (request : U64) : MaximumOnly request request := by
  intro i _ _ _
  rfl

theorem maximumOnly_withMaximum (request : U64) (maximum : U32) :
    MaximumOnly request (hwpWithMaximum request maximum) := by
  intro i hi hbyte _
  rw [getLsbD_withMaximum _ _ hi, if_neg hbyte]

theorem maximumOnly_withLocalMaximumOverride (request : U64) (maximum : U32)
    (flexibleRequestFields : Bool) :
    MaximumOnly request (hwpWithLocalMaximumOverride request maximum flexibleRequestFields) := by
  intro i hi hbyte hvalid
  rw [getLsbD_withLocalMaximumOverride, getLsbD_withMaximum _ _ hi, if_neg hbyte]
  simp [hvalid]

/-- A request has the maximum that its byte is given. -/
theorem hwpMaximum_of_bits {request : U64} {maximum : U32} (hmax : maximum.toNat < 256)
    (h : ∀ i < 8, request.getLsbD (8 + i) = maximum.getLsbD i) : hwpMaximum request = maximum := by
  apply BitVec.eq_of_getLsbD_eq
  intro i hi
  rw [hwpMaximum, getLsbD_hwpField _ _ hi]
  by_cases h8 : i < 8
  · simp [h8, h i h8]
  · have hbit : maximum.getLsbD i = false := by
      apply Nat.testBit_lt_two_pow
      exact lt_of_lt_of_le hmax (Nat.pow_le_pow_right (by omega : 2 > 0) (not_lt.1 h8))
    simp [h8, hbit]

theorem hwpMaximum_withMaximum (request : U64) {maximum : U32} (hmax : maximum.toNat < 256) :
    hwpMaximum (hwpWithMaximum request maximum) = maximum := by
  apply hwpMaximum_of_bits hmax
  intro i hi
  rw [getLsbD_withMaximum _ _ (by omega), if_pos (by omega), Nat.add_sub_cancel_left]

/-- An override that is not left to the package takes effect. -/
theorem hwpEffectiveMaximum_override (request packageRequest : U64) {maximum : U32}
    (hmax : maximum.toNat < 256) {flexibleRequestFields : Bool}
    (hlocal : (hwpPackageControl request && !flexibleRequestFields) = false) :
    hwpEffectiveMaximum (hwpWithLocalMaximumOverride request maximum flexibleRequestFields)
      packageRequest flexibleRequestFields = maximum := by
  have hlocalMax : hwpMaximum
      (hwpWithLocalMaximumOverride request maximum flexibleRequestFields) = maximum := by
    apply hwpMaximum_of_bits hmax
    intro i hi
    rw [getLsbD_withLocalMaximumOverride, getLsbD_withMaximum _ _ (by omega),
      if_pos (by omega), Nat.add_sub_cancel_left]
    simp [show 8 + i ≠ 62 by omega]
  have hcontrol : hwpPackageControl
      (hwpWithLocalMaximumOverride request maximum flexibleRequestFields) =
        hwpPackageControl request := by
    rw [hwpPackageControl, hwpPackageControl, hwpPackageControlBit,
      and_twoPow_bne_zero _ (by decide), and_twoPow_bne_zero _ (by decide),
      getLsbD_withLocalMaximumOverride, getLsbD_withMaximum _ _ (by decide)]
    simp
  have hvalid : hwpPackageControl request = true → flexibleRequestFields = true →
      hwpMaximumValid
        (hwpWithLocalMaximumOverride request maximum flexibleRequestFields) = true := by
    intro hpackage hflexible
    rw [hwpMaximumValid, hwpMaximumValidBit, and_twoPow_bne_zero _ (by decide),
      getLsbD_withLocalMaximumOverride, hpackage, hflexible]
    simp
  rw [hwpEffectiveMaximum, hcontrol]
  cases hpackage : hwpPackageControl request with
  | false => simpa using hlocalMax
  | true =>
      rw [hpackage, Bool.true_and, Bool.not_eq_false'] at hlocal
      subst hlocal
      rw [hvalid hpackage rfl]
      exact hlocalMax

end TurboMac.Kext
