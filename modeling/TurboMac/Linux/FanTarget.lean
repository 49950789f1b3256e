import TurboMac.Linux.FanLadder

/-! # The target of the fan floor

The target is the greater of what the ladder and the power rule ask for, capped. Each
rule engages in the step that reaches its threshold, and asks for no less where its
input is higher.
-/

namespace TurboMac.Linux

/-- What the power rule asks for. -/
def FanConfig.powerRpm (cfg : FanConfig) (powerOn : Bool) : ℤ := if powerOn then cfg.powerFloorRpm else 0

/-- The target of `decide`. -/
def targetRpm (state : FanState) (tempC pkgW : Option ℚ) (cfg : FanConfig) (now : ℚ) : ℤ :=
  (decideFloor state tempC pkgW cfg now).2.1

section

variable {cfg : FanConfig} {state : FanState} {now tempC tempC' pkgW pkgW' : ℚ}

theorem greatest_rpm (first : ℤ × FanReason) (rest : List (ℤ × FanReason)) :
    (greatest first rest).1 = (rest.map Prod.fst).foldl max first.1 := by
  unfold greatest
  induction rest generalizing first with
  | nil => rfl
  | cons cand rest ih =>
      rw [List.foldl_cons, ih, List.map_cons, List.foldl_cons]
      split
      · rename_i hlt
        rw [max_eq_right hlt.le]
      · rename_i hle
        rw [max_eq_left (not_lt.1 hle)]

theorem stepRpm_nonneg (h : cfg.Validated) (k : ℕ) : 0 ≤ cfg.stepRpm k := by
  have h1 := h.t1Rpm.1
  have h2 := h.t2Rpm.1
  have h3 := h.t3Rpm.1
  match k with
  | 0 => exact le_refl 0
  | 1 =>
      have hpos : 0 ≤ cfg.t1Rpm := by omega
      exact hpos
  | 2 =>
      have hpos : 0 ≤ cfg.t2Rpm := by omega
      exact hpos
  | 3 =>
      have hpos : 0 ≤ cfg.t3Rpm := by omega
      exact hpos
  | k + 4 => exact le_refl 0

/-- Without its input a rule has no candidate, and is not in force. -/
theorem candidates_rpm {powerOn : Bool} {level : ℕ} {tempC pkgW : Option ℚ} (hlevel : tempC = none → level = 0)
    (hpower : pkgW = none → powerOn = false) : (candidates powerOn level tempC pkgW cfg).map Prod.fst =
      (if level = 0 then [] else [cfg.stepRpm level]) ++ if powerOn then [cfg.powerFloorRpm] else [] := by
  unfold candidates
  rw [List.map_append]
  congr 1
  · cases level with
    | zero => rfl
    | succ level =>
        cases tempC with
        | none => cases hlevel rfl
        | some tempC => rfl
  · cases powerOn with
    | false => rfl
    | true =>
        cases pkgW with
        | none => cases hpower rfl
        | some pkgW => rfl

/-- `decide` takes the greatest of its candidates, capped. -/
theorem target_candidates (hmax : 0 ≤ cfg.maxRpm) (tempC pkgW : Option ℚ)
    (hcands : ∀ cand ∈ candidates (powerRule state pkgW cfg now).1 (tempRule state tempC cfg now).1 tempC pkgW cfg,
      0 ≤ cand.1) :
    targetRpm state tempC pkgW cfg now = min cfg.maxRpm (((candidates (powerRule state pkgW cfg now).1
      (tempRule state tempC cfg now).1 tempC pkgW cfg).map Prod.fst).foldl max 0) := by
  unfold targetRpm decideFloor
  dsimp only
  split
  · rename_i hnone
    rw [hnone]
    exact (min_eq_right hmax).symm
  · rename_i first rest hsome
    rw [hsome] at hcands ⊢
    have hfirst := hcands first List.mem_cons_self
    rw [List.map_cons, List.foldl_cons, max_eq_right hfirst, ← greatest_rpm]
    split
    · rename_i hlt
      exact (min_eq_left hlt.le).symm
    · rename_i hle
      exact (min_eq_right (not_lt.1 hle)).symm

/-- The target is the greater of what the rules ask for, capped. -/
theorem target_eq (h : cfg.Validated) (state : FanState) (tempC pkgW : Option ℚ) (now : ℚ) :
    targetRpm state tempC pkgW cfg now =
      min cfg.maxRpm (max (cfg.stepRpm (tempRule state tempC cfg now).1)
        (cfg.powerRpm (powerRule state pkgW cfg now).1)) := by
  have hlevel : tempC = none → (tempRule state tempC cfg now).1 = 0 := by
    rintro rfl
    rfl
  have hpower : pkgW = none → (powerRule state pkgW cfg now).1 = false := by
    rintro rfl
    rfl
  have hmax : 0 ≤ cfg.maxRpm := by
    have hlo := h.maxRpm.1
    omega
  have hfloor : 0 ≤ cfg.powerFloorRpm := by
    have hlo := h.powerFloorRpm.1
    omega
  have hstep := stepRpm_nonneg h (tempRule state tempC cfg now).1
  have hcands := @candidates_rpm cfg _ _ _ _ hlevel hpower
  have hnonneg : ∀ cand ∈ candidates (powerRule state pkgW cfg now).1 (tempRule state tempC cfg now).1
      tempC pkgW cfg, 0 ≤ cand.1 := by
    intro cand hcand
    have hrpm := List.mem_map_of_mem (f := Prod.fst) hcand
    rw [hcands, List.mem_append] at hrpm
    rcases hrpm with hrpm | hrpm
    · split at hrpm
      · cases hrpm
      · rw [List.mem_singleton.1 hrpm]
        exact hstep
    · split at hrpm
      · rw [List.mem_singleton.1 hrpm]
        exact hfloor
      · cases hrpm
  rw [target_candidates hmax tempC pkgW hnonneg, hcands]
  generalize (tempRule state tempC cfg now).1 = level at hstep ⊢
  generalize (powerRule state pkgW cfg now).1 = powerOn
  congr 1
  have hpair : ∀ rpm, List.foldl max 0 ((if level = 0 then [] else [cfg.stepRpm level]) ++ rpm) =
      List.foldl max (cfg.stepRpm level) rpm := by
    intro rpm
    split
    · rename_i hzero
      rw [hzero]
      rfl
    · exact congrArg (List.foldl max · rpm) (max_eq_right hstep)
  rw [hpair]
  cases powerOn with
  | false => exact (max_eq_left hstep).symm
  | true => rfl

/-! ## The rules, for two inputs -/

/-- The level of the ladder: the step that is met, or the one it is on, or the next lower
one where that is due. -/
theorem tempRule_level (state : FanState) (cfg : FanConfig) (now tempC : ℚ) :
    (tempRule state (some tempC) cfg now).1 =
      if state.level ≤ met (ladder cfg) tempC then met (ladder cfg) tempC
      else if tempC < cfg.releaseC state.level ∧
        cfg.stepDownIntervalS ≤ now - state.tempBelowSince.getD now then state.level - 1
      else state.level := by
  rcases tempRule_cases state cfg now tempC with
    ⟨hmet, h⟩ | ⟨hmet, hhigh, h⟩ | ⟨hmet, -, hearly, h⟩ | ⟨hmet, hbelow, hdue, h⟩
  · rw [h, if_pos hmet]
  · rw [h, if_neg (not_le.2 hmet), if_neg (fun hrelease => not_lt.2 hhigh hrelease.1)]
  · rw [h, if_neg (not_le.2 hmet), if_neg (fun hrelease => not_lt.2 hrelease.2 hearly)]
  · have hrelease := And.intro hbelow hdue
    rw [h, if_neg (not_le.2 hmet), if_pos hrelease]

/-- The power rule is on at its threshold, and stays on until its release is due. -/
theorem powerRule_on_iff : (powerRule state (some pkgW) cfg now).1 = true ↔ cfg.powerFloorW ≤ pkgW ∨
    state.powerOn = true ∧ ¬ (pkgW < cfg.releaseW ∧
      cfg.stepDownIntervalS ≤ now - state.powerBelowSince.getD now) := by
  rcases powerRule_cases state cfg now pkgW with
    ⟨hfloor, h⟩ | ⟨hfloor, hkeep, h⟩ | ⟨hon, -, hearly, h⟩ | ⟨hon, hbelow, hdue, h⟩
  · rw [h]
    simp [hfloor]
  · rw [h, or_iff_right (not_le.2 hfloor)]
    constructor
    · intro hon
      exact ⟨hon, fun hrelease => hkeep ⟨hon, hrelease.1⟩⟩
    · intro hon
      exact hon.1
  · rw [h]
    refine iff_of_true rfl (.inr ⟨hon, ?_⟩)
    intro hrelease
    exact not_lt.2 hrelease.2 hearly
  · rw [h]
    refine iff_of_false Bool.false_ne_true ?_
    rintro (hfloor | ⟨-, hrelease⟩)
    · have hlt : cfg.releaseW < cfg.powerFloorW := sub_lt_self _ (by decide +kernel)
      exact absurd hfloor (not_le.2 (hbelow.trans hlt))
    · exact hrelease ⟨hbelow, hdue⟩

/-- For a higher temperature the ladder is no lower. -/
theorem tempRule_mono (h : cfg.Validated) (hle : tempC ≤ tempC') :
    (tempRule state (some tempC) cfg now).1 ≤ (tempRule state (some tempC') cfg now).1 := by
  have hmet := h.met_mono hle
  rw [tempRule_level, tempRule_level]
  by_cases hmet' : state.level ≤ met (ladder cfg) tempC'
  · -- it steps up or holds, and was no higher before
    rw [if_pos hmet']
    split
    · exact hmet
    · split <;> omega
  · rw [if_neg hmet', if_neg (by omega)]
    by_cases hdue : tempC' < cfg.releaseC state.level ∧
        cfg.stepDownIntervalS ≤ now - state.tempBelowSince.getD now
    · rw [if_pos hdue, if_pos ⟨lt_of_le_of_lt hle hdue.1, hdue.2⟩]
    · rw [if_neg hdue]
      split <;> omega

/-- For a higher power the power rule is on if it is for a lower one. -/
theorem powerRule_mono (hle : pkgW ≤ pkgW') (hon : (powerRule state (some pkgW) cfg now).1 = true) :
    (powerRule state (some pkgW') cfg now).1 = true := by
  rw [powerRule_on_iff] at hon ⊢
  rcases hon with hfloor | ⟨hon, hkeep⟩
  · exact .inl (hfloor.trans hle)
  · refine .inr ⟨hon, ?_⟩
    rintro ⟨hbelow, hdue⟩
    exact hkeep ⟨lt_of_le_of_lt hle hbelow, hdue⟩

theorem powerRpm_mono (h : cfg.Validated) {on on' : Bool} (hon : on = true → on' = true) :
    cfg.powerRpm on ≤ cfg.powerRpm on' := by
  have hlo := h.powerFloorRpm.1
  cases on with
  | false =>
      unfold FanConfig.powerRpm
      rw [if_neg Bool.false_ne_true]
      split
      · omega
      · exact le_refl 0
  | true => rw [hon rfl]

theorem tempRule_le (hlevel : state.level ≤ 3) (tempC : Option ℚ) :
    (tempRule state tempC cfg now).1 ≤ 3 := by
  cases tempC with
  | none => exact Nat.zero_le 3
  | some tempC =>
      have hmet := met_le cfg tempC
      rw [tempRule_level]
      split
      · exact hmet
      · split <;> omega

/-- What `decide` promises of a step. -/
structure Engages (cfg : FanConfig) (state : FanState) (now : ℚ) : Prop where
  temp : ∀ step ∈ ladder cfg, ∀ tempC pkgW, step.1 ≤ tempC →
    min step.2 cfg.maxRpm ≤ targetRpm state (some tempC) pkgW cfg now
  power : ∀ tempC pkgW, cfg.powerFloorW ≤ pkgW →
    min cfg.powerFloorRpm cfg.maxRpm ≤ targetRpm state tempC (some pkgW) cfg now
  cap : ∀ tempC pkgW, targetRpm state tempC pkgW cfg now ≤ cfg.maxRpm
  temp_mono : ∀ tempC tempC' pkgW, tempC ≤ tempC' →
    targetRpm state (some tempC) pkgW cfg now ≤ targetRpm state (some tempC') pkgW cfg now
  power_mono : ∀ tempC pkgW pkgW', pkgW ≤ pkgW' →
    targetRpm state tempC (some pkgW) cfg now ≤ targetRpm state tempC (some pkgW') cfg now
  drop : ∀ tempC pkgW, state.level ≤ (decideFloor state (some tempC) pkgW cfg now).1.level + 1

/-- In a valid configuration, from any state with one of the levels, the floor engages at
each threshold, never exceeds the cap, is no lower for a higher input, and gives up one
step of the ladder at most. -/
theorem fan_engagement {c : Settings} (hvalid : c.Valid) {state : FanState} (hlevel : state.level ≤ 3)
    (now : ℚ) : Engages c.fan state now := by
  have h := hvalid.fan_validated
  constructor
  case temp =>
    intro step hstep tempC pkgW hreached
    -- the step has a number, which is met
    have hnumber : ∃ k, 0 < k ∧ k ≤ 3 ∧ step = (c.fan.stepC k, c.fan.stepRpm k) := by
      rcases List.mem_cons.1 hstep with rfl | hstep
      · exact ⟨1, by omega, by omega, rfl⟩
      rcases List.mem_cons.1 hstep with rfl | hstep
      · exact ⟨2, by omega, by omega, rfl⟩
      rw [List.mem_singleton] at hstep
      exact ⟨3, by omega, by omega, hstep⟩
    rcases hnumber with ⟨k, hpos, hk, rfl⟩
    have hmet := le_met hk hpos hreached
    have hle : k ≤ (tempRule state (some tempC) c.fan now).1 := by
      rw [tempRule_level]
      split
      · exact hmet
      · split <;> omega
    rw [target_eq h]
    refine le_min (min_le_right _ _) ((min_le_left _ _).trans (le_max_of_le_left ?_))
    exact h.stepRpm_mono hle (tempRule_le hlevel _)
  case power =>
    intro tempC pkgW hreached
    have hon := (@powerRule_on_iff c.fan state now pkgW).2 (.inl hreached)
    rw [target_eq h, hon]
    exact le_min (min_le_right _ _) ((min_le_left _ _).trans (le_max_right _ _))
  case cap =>
    intro tempC pkgW
    rw [target_eq h]
    exact min_le_left _ _
  case temp_mono =>
    intro tempC tempC' pkgW hle
    rw [target_eq h, target_eq h]
    have hstep := h.stepRpm_mono (@tempRule_mono c.fan state now _ _ h hle) (tempRule_le hlevel _)
    exact min_le_min_left _ (max_le_max_right _ hstep)
  case power_mono =>
    intro tempC pkgW pkgW' hle
    rw [target_eq h, target_eq h]
    have hpower := powerRpm_mono h (@powerRule_mono c.fan state now _ _ hle)
    exact min_le_min_left _ (max_le_max_left _ hpower)
  case drop =>
    intro tempC pkgW
    rw [decideFloor_state]
    dsimp only
    rw [tempRule_level]
    split
    · omega
    · split <;> omega

end

/-- From the second step, at the threshold of the third. -/
theorem fan_engagement_default :
    Engages Settings.defaults.fan ⟨true, some 3, 2, some 4⟩ 10 :=
  fan_engagement defaults_valid (by decide) 10

end TurboMac.Linux
