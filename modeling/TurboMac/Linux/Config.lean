import Mathlib.Data.Rat.Floor
import Mathlib.Tactic.Linarith
import Mathlib.Tactic.NormNum

/-! # `config.py`: the governor section of the configuration

The governor only reads `config["governor"]`, so this module has that section:
its defaults, the bounds of `SPEC` and the `CROSS_RULES` that mention its keys.
Numbers are exact rationals where the source has Python floats.

`Validated` is what `validate` guarantees of the live configuration: every
bound and every cross rule up to `_EPS`.
-/

namespace TurboMac.Linux

/-- `HARD_MAX_W`: no limit above TDP is ever written. -/
def hardMaxW : ℚ := 45

/-- `_EPS`. -/
def eps : ℚ := 1 / 1000000000

/-- `governor.mode`. -/
inductive Mode where
  | off
  | static
  | dynamic
deriving DecidableEq, Repr

/-- The `governor` section. NaN is left out: `validate` refuses it as no number. -/
structure GovernorConfig where
  mode : Mode
  staticCapW : ℚ
  ceilingW : ℚ
  floorW : ℚ
  burstW : ℚ
  shedRatio : ℚ
  emergencyRatio : ℚ
  recoverRatio : ℚ
  cutStepW : ℚ
  recoverStepW : ℚ
  recoverIntervalS : ℚ
  staleTimeoutS : ℚ
  /-- `None` disables the thermal trim. -/
  thermalTrimC : Option ℚ
  thermalRecoverC : ℚ
  thermalStepW : ℚ
  thermalIntervalS : ℚ
deriving DecidableEq, Repr

namespace GovernorConfig

/-- `DEFAULTS["governor"]`. -/
def defaults : GovernorConfig where
  mode := .static
  staticCapW := 35
  ceilingW := 45
  floorW := 10
  burstW := 0
  shedRatio := 88 / 100
  emergencyRatio := 94 / 100
  recoverRatio := 78 / 100
  cutStepW := 5
  recoverStepW := 1
  recoverIntervalS := 3
  staleTimeoutS := 2
  thermalTrimC := some 97
  thermalRecoverC := 92
  thermalStepW := 1
  thermalIntervalS := 3

/-- The range check of `_check_one`. -/
def InRange (lo hi value : ℚ) : Prop := lo - eps ≤ value ∧ value ≤ hi + eps

instance (lo hi value : ℚ) : Decidable (InRange lo hi value) :=
  inferInstanceAs (Decidable (_ ∧ _))

/-- A section that passed `validate`: `SPEC`, then the four `CROSS_RULES` on
governor keys, in the source's order. -/
structure Validated (g : GovernorConfig) : Prop where
  staticCapW : InRange 10 45 g.staticCapW
  ceilingW : InRange 10 45 g.ceilingW
  floorW : InRange 9 20 g.floorW
  burstW : InRange 0 5 g.burstW
  shedRatio : InRange (70 / 100) (95 / 100) g.shedRatio
  emergencyRatio : InRange (73 / 100) (98 / 100) g.emergencyRatio
  recoverRatio : InRange (50 / 100) (90 / 100) g.recoverRatio
  cutStepW : InRange 1 15 g.cutStepW
  recoverStepW : InRange 1 5 g.recoverStepW
  recoverIntervalS : InRange 1 30 g.recoverIntervalS
  staleTimeoutS : InRange 1 10 g.staleTimeoutS
  thermalTrimC : ∀ t, g.thermalTrimC = some t → InRange 80 99 t
  thermalRecoverC : InRange 70 97 g.thermalRecoverC
  thermalStepW : InRange (1 / 2) 5 g.thermalStepW
  thermalIntervalS : InRange 1 30 g.thermalIntervalS
  staticCapW_le_ceilingW : g.staticCapW ≤ g.ceilingW + eps
  recoverRatio_le : g.recoverRatio ≤ g.shedRatio - 5 / 100 + eps
  emergencyRatio_ge : g.emergencyRatio ≥ g.shedRatio + 3 / 100 - eps
  thermalRecoverC_le : ∀ t, g.thermalTrimC = some t → g.thermalRecoverC ≤ t - 2 + eps

/-- The defaults pass their own check. -/
theorem defaults_validated : Validated defaults := by
  constructor
  case thermalTrimC => rintro t ⟨⟩; decide +kernel
  case thermalRecoverC_le => rintro t ⟨⟩; decide +kernel
  all_goals decide +kernel

/-- No bound and no cross rule mentions the mode. -/
theorem Validated.withMode {g : GovernorConfig} (hg : Validated g) (mode : Mode) :
    Validated { g with mode := mode } := by
  cases hg
  constructor <;> assumption

/-- No cross rule mentions the recovery interval. -/
theorem Validated.withRecoverIntervalS {g : GovernorConfig} (hg : Validated g) {span : ℚ}
    (hspan : InRange 1 30 span) : Validated { g with recoverIntervalS := span } := by
  cases hg
  constructor <;> assumption

/-- One cross rule mentions the ceiling. -/
theorem Validated.withCeilingW {g : GovernorConfig} (hg : Validated g) {watts : ℚ}
    (hwatts : InRange 10 45 watts) (hstatic : g.staticCapW ≤ watts + eps) :
    Validated { g with ceilingW := watts } := by
  cases hg
  constructor <;> assumption

/-! ## What the governor proofs use of a validated section -/

variable {g : GovernorConfig}

theorem Validated.cutStepW_pos (hg : Validated g) : 0 < g.cutStepW := by
  have h := hg.cutStepW.1
  norm_num [eps] at h
  linarith

theorem Validated.recoverStepW_pos (hg : Validated g) : 0 < g.recoverStepW := by
  have h := hg.recoverStepW.1
  norm_num [eps] at h
  linarith

theorem Validated.recoverIntervalS_pos (hg : Validated g) : 0 < g.recoverIntervalS := by
  have h := hg.recoverIntervalS.1
  norm_num [eps] at h
  linarith

theorem Validated.staleTimeoutS_pos (hg : Validated g) : 0 < g.staleTimeoutS := by
  have h := hg.staleTimeoutS.1
  norm_num [eps] at h
  linarith

theorem Validated.thermalStepW_pos (hg : Validated g) : 0 < g.thermalStepW := by
  have h := hg.thermalStepW.1
  norm_num [eps] at h
  linarith

end GovernorConfig

end TurboMac.Linux
