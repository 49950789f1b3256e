import TurboMac.Linux.Fans
import TurboMac.Linux.Validate

/-! # The rules of the fan floor

What a valid configuration says of the `fan` section, and what each rule of `decide`
can do in a step. The target is the greater of what the rules ask for, capped.
-/

namespace TurboMac.Linux

open GovernorConfig (InRange)

/-! ## The section -/

/-- A section that passed `validate`: `SPEC`, then the `CROSS_RULES` on fan keys. -/
structure FanConfig.Validated (cfg : FanConfig) : Prop where
  powerFloorW : InRange 10 45 cfg.powerFloorW
  powerFloorRpm : 2000 ≤ cfg.powerFloorRpm ∧ cfg.powerFloorRpm ≤ 5900
  t1C : InRange 50 99 cfg.t1C
  t1Rpm : 2000 ≤ cfg.t1Rpm ∧ cfg.t1Rpm ≤ 5900
  t2C : InRange 50 99 cfg.t2C
  t2Rpm : 2000 ≤ cfg.t2Rpm ∧ cfg.t2Rpm ≤ 5900
  t3C : InRange 50 99 cfg.t3C
  t3Rpm : 2000 ≤ cfg.t3Rpm ∧ cfg.t3Rpm ≤ 5900
  hysteresisC : InRange 2 15 cfg.hysteresisC
  stepDownIntervalS : InRange 5 120 cfg.stepDownIntervalS
  maxRpm : 2500 ≤ cfg.maxRpm ∧ cfg.maxRpm ≤ 5900
  t1C_lt : cfg.t1C < cfg.t2C - eps
  t2C_lt : cfg.t2C < cfg.t3C - eps
  t1Rpm_le : cfg.t1Rpm ≤ cfg.t2Rpm
  t2Rpm_le : cfg.t2Rpm ≤ cfg.t3Rpm

section

variable {c : Settings} {k : Key}

/-- The number of a key that `SPEC` gives a range of integers. -/
theorem Settings.Valid.intInRange (h : c.Valid) {lo hi : ℚ} (hspec : k.spec = ⟨.int lo hi, false⟩) :
    (c k).number.den = 1 ∧ InRange lo hi (c k).number := by
  have hallows := h.allows k
  unfold Key.Allows at hallows
  rw [hspec] at hallows
  have hkind := hallows.resolve_left (by simp)
  cases hvalue : c k with
  | num q =>
      rw [hvalue] at hkind
      exact hkind
  | null | bool | str =>
      rw [hvalue] at hkind
      cases hkind

theorem Settings.Valid.number_num (h : c.Valid) {lo hi : ℚ} (hspec : k.spec = ⟨.int lo hi, false⟩) :
    ((c k).number.num : ℚ) = (c k).number :=
  (Rat.den_eq_one_iff _).1 (h.intInRange hspec).1

/-- No integer is between a bound and the bound that `_EPS` allows. -/
theorem Settings.Valid.num_between (h : c.Valid) {lo hi : ℤ}
    (hspec : k.spec = ⟨.int lo hi, false⟩) :
    lo ≤ (c k).number.num ∧ (c k).number.num ≤ hi := by
  have hnum := h.number_num hspec
  rcases (h.intInRange hspec).2 with ⟨hlo, hhi⟩
  rw [← hnum] at hlo hhi
  have heps : eps < 1 := by decide +kernel
  constructor
  · have hlt : (lo : ℚ) < (((c k).number.num + 1 : ℤ) : ℚ) := by
      push_cast
      linarith
    have hlt' := Int.cast_lt.1 hlt
    omega
  · have hlt : ((c k).number.num : ℚ) < ((hi + 1 : ℤ) : ℚ) := by
      push_cast
      linarith
    have hlt' := Int.cast_lt.1 hlt
    omega

/-- A valid configuration has a fan section that `decide` may rely on. -/
theorem Settings.Valid.fan_validated (h : c.Valid) : c.fan.Validated := by
  have hrule : ∀ r ∈ crossRules, r.ok c = true := h.rules
  -- a rule on the integers of two keys
  have hle : ∀ {k k' : Key} {lo hi lo' hi' : ℤ}, k.spec = ⟨.int lo hi, false⟩ →
      k'.spec = ⟨.int lo' hi', false⟩ → (c k).number ≤ (c k').number →
      (c k).number.num ≤ (c k').number.num := by
    intro k k' lo hi lo' hi' hk hk' hle
    rw [← h.number_num hk, ← h.number_num hk'] at hle
    exact Int.cast_le.1 hle
  constructor
  case t1C_lt => exact of_decide_eq_true (hrule _ (@List.mem_of_getElem? _ _ 4 _ rfl))
  case t2C_lt => exact of_decide_eq_true (hrule _ (@List.mem_of_getElem? _ _ 5 _ rfl))
  case t1Rpm_le =>
    exact @hle .fanT1Rpm .fanT2Rpm 2000 5900 2000 5900 rfl rfl
      (of_decide_eq_true (hrule _ (@List.mem_of_getElem? _ _ 6 _ rfl)))
  case t2Rpm_le =>
    exact @hle .fanT2Rpm .fanT3Rpm 2000 5900 2000 5900 rfl rfl
      (of_decide_eq_true (hrule _ (@List.mem_of_getElem? _ _ 7 _ rfl)))
  case powerFloorRpm => exact @num_between c .fanPowerFloorRpm h 2000 5900 rfl
  case t1Rpm => exact @num_between c .fanT1Rpm h 2000 5900 rfl
  case t2Rpm => exact @num_between c .fanT2Rpm h 2000 5900 rfl
  case t3Rpm => exact @num_between c .fanT3Rpm h 2000 5900 rfl
  case maxRpm => exact @num_between c .fanMaxRpm h 2500 5900 rfl
  all_goals exact h.inRange rfl

end

namespace FanConfig.Validated

variable {cfg : FanConfig}

theorem stepDownIntervalS_pos (h : cfg.Validated) : 0 < cfg.stepDownIntervalS := by
  have hlo := h.stepDownIntervalS.1
  norm_num [eps] at hlo
  linarith

theorem hysteresisC_pos (h : cfg.Validated) : 0 < cfg.hysteresisC := by
  have hlo := h.hysteresisC.1
  norm_num [eps] at hlo
  linarith

end FanConfig.Validated

/-! ## The ladder -/

/-- The temperature of a step; the first step is 1. -/
def FanConfig.stepC (cfg : FanConfig) (k : ℕ) : ℚ := ((ladder cfg).getD (k - 1) (0, 0)).1

/-- The speed that a level asks for. -/
def FanConfig.stepRpm (cfg : FanConfig) : ℕ → ℤ
  | 0 => 0
  | k + 1 => ((ladder cfg).getD k (0, 0)).2

/-- Below it a step may be released. -/
def FanConfig.releaseC (cfg : FanConfig) (k : ℕ) : ℚ := cfg.stepC k - cfg.hysteresisC

/-- Below it the power rule may be released. -/
def FanConfig.releaseW (cfg : FanConfig) : ℚ := cfg.powerFloorW - powerHystW

section

variable {cfg : FanConfig} {tempC tempC' : ℚ} {k : ℕ}

theorem met_ladder (cfg : FanConfig) (tempC : ℚ) : met (ladder cfg) tempC =
    if cfg.t3C ≤ tempC then 3 else if cfg.t2C ≤ tempC then 2 else if cfg.t1C ≤ tempC then 1 else 0 := by
  unfold met ladder
  by_cases h1 : cfg.t1C ≤ tempC <;> by_cases h2 : cfg.t2C ≤ tempC <;>
    by_cases h3 : cfg.t3C ≤ tempC <;> simp [List.zipIdx, List.filter, h1, h2, h3]

theorem met_le (cfg : FanConfig) (tempC : ℚ) : met (ladder cfg) tempC ≤ 3 := by
  rw [met_ladder]
  split_ifs <;> omega

/-- A step whose temperature is reached is met. -/
theorem le_met (hk : k ≤ 3) (hpos : 0 < k) (h : cfg.stepC k ≤ tempC) : k ≤ met (ladder cfg) tempC := by
  rw [met_ladder]
  have hcases : k = 1 ∨ k = 2 ∨ k = 3 := by omega
  rcases hcases with rfl | rfl | rfl
  · have hstep : cfg.t1C ≤ tempC := h
    rw [if_pos hstep]
    split_ifs <;> omega
  · have hstep : cfg.t2C ≤ tempC := h
    rw [if_pos hstep]
    split_ifs <;> omega
  · have hstep : cfg.t3C ≤ tempC := h
    rw [if_pos hstep]

/-- In a validated ladder every step up to the one that is met is reached. -/
theorem FanConfig.Validated.stepC_le (h : cfg.Validated) (hpos : 0 < k)
    (hmet : k ≤ met (ladder cfg) tempC) : cfg.stepC k ≤ tempC := by
  have h12 := h.t1C_lt
  have h23 := h.t2C_lt
  have heps : 0 < eps := by decide +kernel
  have hk : k ≤ 3 := hmet.trans (met_le cfg tempC)
  rw [met_ladder] at hmet
  have hcases : k = 1 ∨ k = 2 ∨ k = 3 := by omega
  rcases hcases with rfl | rfl | rfl
  · have hstep : cfg.t1C ≤ tempC := by
      split_ifs at hmet <;> linarith
    exact hstep
  · have hstep : cfg.t2C ≤ tempC := by
      split_ifs at hmet <;> linarith
    exact hstep
  · have hstep : cfg.t3C ≤ tempC := by
      split_ifs at hmet <;> linarith
    exact hstep

theorem FanConfig.Validated.met_mono (h : cfg.Validated) (hle : tempC ≤ tempC') :
    met (ladder cfg) tempC ≤ met (ladder cfg) tempC' := by
  rcases Nat.eq_zero_or_pos (met (ladder cfg) tempC) with hzero | hpos
  · omega
  · exact le_met (met_le cfg tempC) hpos ((h.stepC_le hpos (le_refl _)).trans hle)

/-- A validated ladder asks for more with each step. -/
theorem FanConfig.Validated.stepRpm_mono (h : cfg.Validated) {k' : ℕ} (hle : k ≤ k') (hk' : k' ≤ 3) :
    cfg.stepRpm k ≤ cfg.stepRpm k' := by
  have hstep : ∀ j < 3, cfg.stepRpm j ≤ cfg.stepRpm (j + 1) := by
    intro j hj
    have hcases : j = 0 ∨ j = 1 ∨ j = 2 := by omega
    rcases hcases with rfl | rfl | rfl
    · have hpos : 0 ≤ cfg.t1Rpm := by
        have hlo := h.t1Rpm.1
        omega
      exact hpos
    · exact h.t1Rpm_le
    · exact h.t2Rpm_le
  induction k', hle using Nat.le_induction with
  | base => exact le_refl _
  | succ k' _ ih => exact (ih (by omega)).trans (hstep k' (by omega))

end

/-! ## The rules -/

section

variable (state : FanState) (cfg : FanConfig) (now : ℚ)

/-- What the power rule does with a power: it engages, stays as it is, or counts toward
its release, which it may reach. -/
theorem powerRule_cases (pkgW : ℚ) :
    (cfg.powerFloorW ≤ pkgW ∧ powerRule state (some pkgW) cfg now = (true, none)) ∨
    (pkgW < cfg.powerFloorW ∧ ¬ (state.powerOn = true ∧ pkgW < cfg.releaseW) ∧
      powerRule state (some pkgW) cfg now = (state.powerOn, none)) ∨
    (state.powerOn = true ∧ pkgW < cfg.releaseW ∧
      now - state.powerBelowSince.getD now < cfg.stepDownIntervalS ∧
      powerRule state (some pkgW) cfg now = (true, some (state.powerBelowSince.getD now))) ∨
    (state.powerOn = true ∧ pkgW < cfg.releaseW ∧
      cfg.stepDownIntervalS ≤ now - state.powerBelowSince.getD now ∧
      powerRule state (some pkgW) cfg now = (false, none)) := by
  unfold powerRule FanConfig.releaseW
  dsimp only
  by_cases hfloor : cfg.powerFloorW ≤ pkgW
  · rw [if_pos hfloor]
    exact .inl ⟨hfloor, rfl⟩
  rw [if_neg hfloor]
  right
  by_cases hbelow : state.powerOn = true ∧ pkgW < cfg.powerFloorW - powerHystW
  · rw [if_pos hbelow]
    right
    by_cases hdue : cfg.stepDownIntervalS ≤ now - state.powerBelowSince.getD now
    · rw [if_pos hdue]
      exact .inr ⟨hbelow.1, hbelow.2, hdue, rfl⟩
    · rw [if_neg hdue, hbelow.1]
      exact .inl ⟨rfl, hbelow.2, not_le.1 hdue, rfl⟩
  · rw [if_neg hbelow]
    exact .inl ⟨not_le.1 hfloor, hbelow, rfl⟩

/-- What the ladder does with a temperature: it steps up or holds, or counts toward the
release of its step, which it may reach. -/
theorem tempRule_cases (tempC : ℚ) :
    (state.level ≤ met (ladder cfg) tempC ∧
      tempRule state (some tempC) cfg now = (met (ladder cfg) tempC, none)) ∨
    (met (ladder cfg) tempC < state.level ∧ cfg.releaseC state.level ≤ tempC ∧
      tempRule state (some tempC) cfg now = (state.level, none)) ∨
    (met (ladder cfg) tempC < state.level ∧ tempC < cfg.releaseC state.level ∧
      now - state.tempBelowSince.getD now < cfg.stepDownIntervalS ∧
      tempRule state (some tempC) cfg now = (state.level, some (state.tempBelowSince.getD now))) ∨
    (met (ladder cfg) tempC < state.level ∧ tempC < cfg.releaseC state.level ∧
      cfg.stepDownIntervalS ≤ now - state.tempBelowSince.getD now ∧
      tempRule state (some tempC) cfg now =
        (state.level - 1, if state.level - 1 ≠ 0 then some now else none)) := by
  unfold tempRule FanConfig.releaseC FanConfig.stepC
  dsimp only
  by_cases hmet : state.level ≤ met (ladder cfg) tempC
  · rw [if_pos hmet]
    exact .inl ⟨hmet, rfl⟩
  rw [if_neg hmet]
  have hlt := not_le.1 hmet
  right
  by_cases hbelow : tempC < ((ladder cfg).getD (state.level - 1) (0, 0)).1 - cfg.hysteresisC
  · rw [if_pos hbelow]
    right
    by_cases hdue : cfg.stepDownIntervalS ≤ now - state.tempBelowSince.getD now
    · rw [if_pos hdue]
      exact .inr ⟨hlt, hbelow, hdue, rfl⟩
    · rw [if_neg hdue]
      exact .inl ⟨hlt, hbelow, not_le.1 hdue, rfl⟩
  · rw [if_neg hbelow]
    exact .inl ⟨hlt, not_lt.1 hbelow, rfl⟩

/-- The new state is what the rules make of the old one. -/
theorem decideFloor_state (tempC pkgW : Option ℚ) : (decideFloor state tempC pkgW cfg now).1 =
    ⟨(powerRule state pkgW cfg now).1, (powerRule state pkgW cfg now).2,
      (tempRule state tempC cfg now).1, (tempRule state tempC cfg now).2⟩ := by
  unfold decideFloor
  dsimp only
  split
  · rfl
  · split <;> rfl

end

end TurboMac.Linux
