import TurboMac.Daemon.Accepted
import TurboMac.Lib.Timing

/-! # The limits of the policy

`updateLimits` cuts PL1 at once and raises it by a watt, a second or more after its
last change; it leaves it within a quarter of a watt. From what one evaluation does
to the limits follows what a run does to them.
-/

namespace TurboMac.Daemon

open Timing

/-- What a configuration is asked for. -/
structure PolicyConfig.Ordered (c : PolicyConfig) : Prop where
  floor_pos : 0 < c.raplFloorW
  floor_le : c.raplFloorW ≤ c.raplCeilingPL1W
  ceiling_le : c.raplCeilingPL1W ≤ c.raplCeilingPL2W

/-- What `updateLimits` keeps. -/
structure LimitState where
  config : PolicyConfig
  pl1W : ℚ
  lastIncreaseTime : ℚ
  limitInitialized : Bool

namespace GovernorPolicy

variable {exp : ℚ → ℚ} {p p' : GovernorPolicy} {clock now : ℚ}

def limits (p : GovernorPolicy) : LimitState :=
  ⟨p.config, p.snapshot.pl1W, p.lastIncreaseTime, p.limitInitialized⟩

/-- A ready evaluation, up to its limits. -/
def unlimited (exp : ℚ → ℚ) (p : GovernorPolicy) (now : ℚ) : GovernorPolicy :=
  ((p.refresh now).updateNonCPU exp now).predict.updateBand now

/-- `desiredPL1` of `updateLimits`. -/
def desiredPL1 (p : GovernorPolicy) : ℚ :=
  clampValue (p.targetForBand - p.snapshot.nonCPUW - p.config.reserveW) p.config.raplFloorW
    p.config.raplCeilingPL1W

theorem evaluate_of_ready (h : (p.evaluate exp now).snapshot.ready = true) :
    p.evaluate exp now = ((p.unlimited exp now).updateLimits now).flagOverBudget := by
  have hnow := nonneg_of_ready h
  unfold evaluate at h ⊢
  rw [if_neg (not_lt.2 hnow)] at h ⊢
  dsimp only at h ⊢
  split
  · rename_i hready
    rw [if_pos hready, hready] at h
    cases h
  · rfl

theorem limits_updateBand (p : GovernorPolicy) : (p.updateBand now).limits = p.limits := by
  obtain ⟨_, _, _, _, _, _, hframe⟩ := p.updateBand_frame now
  rw [hframe]
  rfl

theorem limits_unlimited (p : GovernorPolicy) : (p.unlimited exp now).limits = p.limits := by
  have hpredict : ∀ q : GovernorPolicy, q.predict.limits = q.limits := fun _ => rfl
  have hrefresh : (p.refresh now).limits = p.limits := rfl
  have hnonCPU : ((p.refresh now).updateNonCPU exp now).limits = (p.refresh now).limits := by
    unfold updateNonCPU
    split <;> rfl
  rw [unlimited, limits_updateBand, hpredict, hnonCPU, hrefresh]

/-- An evaluation that is not ready leaves the limits. -/
theorem limits_evaluate (h : ¬ (p.evaluate exp now).snapshot.ready = true) :
    (p.evaluate exp now).limits = p.limits := by
  unfold evaluate at h ⊢
  split
  · rfl
  · rename_i hnow
    rw [if_neg hnow] at h
    dsimp only at h ⊢
    split
    · rfl
    · -- the rest of a ready evaluation leaves it ready
      rename_i hready
      have hsame := (sameReadiness_evaluate exp p (not_lt.1 hnow)).ready
      unfold evaluate at hsame
      rw [if_neg hnow] at hsame
      dsimp only at hsame
      rw [if_neg hready] at h hsame
      rw [hsame] at h
      exact absurd (by simpa using hready) h

/-! ## One evaluation -/

/-- What `updateLimits` does to PL1. -/
inductive NextPL1 (p p' : GovernorPolicy) (now : ℚ) : Prop
  | set (hcut : p.limitInitialized = true → p.desiredPL1 < p.snapshot.pl1W - limitDeadbandW)
      (hpl1 : p'.snapshot.pl1W = p.desiredPL1) (hlast : p'.lastIncreaseTime = now)
  | raise (hinit : p.limitInitialized = true)
      (habove : p.snapshot.pl1W + limitDeadbandW < p.desiredPL1)
      (hwait : p.recoveryInterval ≤ elapsedOrZero now p.lastIncreaseTime)
      (hpl1 : p'.snapshot.pl1W = min p.desiredPL1 (p.snapshot.pl1W + 1))
      (hlast : p'.lastIncreaseTime = now)
  | keep (hinit : p.limitInitialized = true)
      (hnear : p.snapshot.pl1W - limitDeadbandW ≤ p.desiredPL1)
      (hpl1 : p'.snapshot.pl1W = p.snapshot.pl1W) (hlast : p'.lastIncreaseTime = p.lastIncreaseTime)

theorem nextPL1_updateLimits (p : GovernorPolicy) (now : ℚ) :
    NextPL1 p (p.updateLimits now).flagOverBudget now := by
  have hpl1 : (p.updateLimits now).flagOverBudget.snapshot.pl1W =
      (p.nextPL1 now p.desiredPL1 p.recoveryInterval).1 := rfl
  have hlast : (p.updateLimits now).flagOverBudget.lastIncreaseTime =
      (p.nextPL1 now p.desiredPL1 p.recoveryInterval).2 := rfl
  unfold nextPL1 at hpl1 hlast
  by_cases hinit : p.limitInitialized = false
  · rw [if_pos hinit] at hpl1 hlast
    refine .set ?_ hpl1 hlast
    intro h
    rw [hinit] at h
    cases h
  rw [if_neg hinit] at hpl1 hlast
  rw [Bool.not_eq_false] at hinit
  by_cases hcut : p.desiredPL1 < p.snapshot.pl1W - limitDeadbandW
  · rw [if_pos hcut] at hpl1 hlast
    exact .set (fun _ => hcut) hpl1 hlast
  rw [if_neg hcut] at hpl1 hlast
  split at hpl1
  · rename_i hraise
    rw [if_pos hraise] at hlast
    exact .raise hinit hraise.1 hraise.2 hpl1 hlast
  · rename_i hkeep
    rw [if_neg hkeep] at hlast
    exact .keep hinit (not_lt.1 hcut) hpl1 hlast

theorem one_le_recoveryInterval (p : GovernorPolicy) : 1 ≤ p.recoveryInterval := by
  unfold recoveryInterval
  dsimp only
  split
  · decide +kernel
  · split
    · decide +kernel
    · split <;> decide +kernel

theorem desiredPL1_mem (h : p.config.Ordered) :
    p.config.raplFloorW ≤ p.desiredPL1 ∧ p.desiredPL1 ≤ p.config.raplCeilingPL1W := by
  unfold desiredPL1 clampValue
  exact ⟨le_max_left _ _, max_le h.floor_le (min_le_right _ _)⟩

end GovernorPolicy

/-! ## Runs -/

/-- What a run keeps of the limits by `clock`. -/
structure Limited (config : PolicyConfig) (clock : ℚ) (p : GovernorPolicy) : Prop where
  configured : p.config = config
  nonCPU : 0 ≤ p.snapshot.nonCPUW
  floor : p.limitInitialized = true → config.raplFloorW ≤ p.snapshot.pl1W
  ceiling : p.limitInitialized = true → p.snapshot.pl1W ≤ config.raplCeilingPL1W
  last : p.limitInitialized = true → p.lastIncreaseTime ≤ clock

section

variable {exp : ℚ → ℚ} {config : PolicyConfig} {p p' : GovernorPolicy} {clock now : ℚ}

theorem limited_reset (config : PolicyConfig) (clock : ℚ) :
    Limited config clock (.reset config) := by
  constructor
  · rfl
  · exact le_refl 0
  all_goals
    intro h
    cases h

theorem Limited.wait (h : Limited config clock p) (hclock : clock ≤ now) :
    Limited config now p :=
  ⟨h.configured, h.nonCPU, h.floor, h.ceiling, fun hinit => (h.last hinit).trans hclock⟩

/-- Of a call that leaves the limits. -/
theorem Limited.of_limits (h : Limited config clock p) (hlimits : p'.limits = p.limits)
    (hnonCPU : 0 ≤ p'.snapshot.nonCPUW) : Limited config clock p' := by
  have hconfig : p'.config = p.config := congrArg LimitState.config hlimits
  have hpl1 : p'.snapshot.pl1W = p.snapshot.pl1W := congrArg LimitState.pl1W hlimits
  have hlast : p'.lastIncreaseTime = p.lastIncreaseTime :=
    congrArg LimitState.lastIncreaseTime hlimits
  have hinit : p'.limitInitialized = p.limitInitialized :=
    congrArg LimitState.limitInitialized hlimits
  constructor
  · rw [hconfig, h.configured]
  · exact hnonCPU
  · rw [hinit, hpl1]
    exact h.floor
  · rw [hinit, hpl1]
    exact h.ceiling
  · rw [hinit, hlast]
    exact h.last

/-- The estimate is a power. -/
theorem nonCPUW_nonneg_updateNonCPU (h : 0 ≤ p.snapshot.nonCPUW) :
    0 ≤ (p.updateNonCPU exp now).snapshot.nonCPUW := by
  unfold GovernorPolicy.updateNonCPU
  split
  · exact h
  · dsimp only
    split
    · exact le_max_left _ _
    · -- the first observation is taken as it is
      unfold GovernorPolicy.nonCPUObservation
      split
      · exact h
      · exact le_max_left _ _

theorem nonCPUW_nonneg_unlimited (h : 0 ≤ p.snapshot.nonCPUW) :
    0 ≤ (p.unlimited exp now).snapshot.nonCPUW := by
  have hband : (p.unlimited exp now).snapshot.nonCPUW =
      ((p.refresh now).updateNonCPU exp now).snapshot.nonCPUW :=
    congrArg Filters.nonCPUW (GovernorPolicy.filters_updateBand _)
  rw [hband]
  exact nonCPUW_nonneg_updateNonCPU h

theorem nonCPUW_nonneg_evaluate (h : 0 ≤ p.snapshot.nonCPUW) :
    0 ≤ (p.evaluate exp now).snapshot.nonCPUW := by
  by_cases hnow : 0 ≤ now
  · have hfilters : (p.evaluate exp now).snapshot.nonCPUW =
        (p.evaluate exp now).filters.nonCPUW := rfl
    rw [hfilters, GovernorPolicy.filters_evaluate hnow]
    split
    · exact nonCPUW_nonneg_updateNonCPU h
    · exact h
  · unfold GovernorPolicy.evaluate
    rw [if_pos (not_le.1 hnow)]
    exact h

/-- Before the limits of an evaluation. -/
theorem Limited.unlimited (h : Limited config clock p) :
    Limited config clock (p.unlimited exp now) :=
  h.of_limits (GovernorPolicy.limits_unlimited p) (nonCPUW_nonneg_unlimited h.nonCPU)

theorem Limited.updateLimits (h : Limited config clock p) (hconfig : config.Ordered)
    (hclock : clock ≤ now) : Limited config now (p.updateLimits now).flagOverBudget := by
  have hdesired := GovernorPolicy.desiredPL1_mem (h.configured ▸ hconfig : p.config.Ordered)
  rw [h.configured] at hdesired
  have hkept : (p.updateLimits now).flagOverBudget.config = p.config := rfl
  cases GovernorPolicy.nextPL1_updateLimits p now with
  | set hcut hpl1 hlast =>
      constructor
      · rw [hkept, h.configured]
      · exact h.nonCPU
      · intro _
        rw [hpl1]
        exact hdesired.1
      · intro _
        rw [hpl1]
        exact hdesired.2
      · intro _
        rw [hlast]
  | raise hinit habove hwait hpl1 hlast =>
      have hfloor := h.floor hinit
      constructor
      · rw [hkept, h.configured]
      · exact h.nonCPU
      · intro _
        rw [hpl1]
        exact le_min hdesired.1 (by linarith)
      · intro _
        rw [hpl1]
        exact (min_le_left _ _).trans hdesired.2
      · intro _
        rw [hlast]
  | keep hinit hnear hpl1 hlast =>
      constructor
      · rw [hkept, h.configured]
      · exact h.nonCPU
      · intro _
        rw [hpl1]
        exact h.floor hinit
      · intro _
        rw [hpl1]
        exact h.ceiling hinit
      · intro _
        rw [hlast]
        exact (h.last hinit).trans hclock

theorem Limited.evaluate (h : Limited config clock p) (hconfig : config.Ordered)
    (hclock : clock ≤ now) : Limited config now (p.evaluate exp now) := by
  by_cases hready : (p.evaluate exp now).snapshot.ready = true
  · rw [GovernorPolicy.evaluate_of_ready hready]
    exact h.unlimited.updateLimits hconfig hclock
  · refine (h.wait hclock).of_limits (GovernorPolicy.limits_evaluate hready) ?_
    exact nonCPUW_nonneg_evaluate h.nonCPU

end

theorem limits_updateSMC {p p' : GovernorPolicy} {now inputW capacityW : ℚ}
    (h : p.updateSMC now inputW capacityW = some p') :
    p'.limits = p.limits ∧ p'.filters = p.filters := by
  unfold GovernorPolicy.updateSMC at h
  split at h
  · cases h
  · cases h
    exact ⟨rfl, rfl⟩

theorem limits_updatePackagePower {p p' : GovernorPolicy} {now packageW : ℚ}
    (h : p.updatePackagePower now packageW = some p') :
    p'.limits = p.limits ∧ p'.filters = p.filters := by
  unfold GovernorPolicy.updatePackagePower at h
  split at h
  · cases h
  · cases h
    exact ⟨rfl, rfl⟩

/-- An update leaves the limits and the filters to the next evaluation. -/
theorem PolicyCall.record_cases (exp : ℚ → ℚ) (call : PolicyCall) (r : Recorded) :
    ((call.record exp r).policy.limits = r.policy.limits ∧
      (call.record exp r).policy.filters = r.policy.filters) ∨
    ∃ now, call = .evaluate now ∧ (call.record exp r).policy = r.policy.evaluate exp now := by
  cases call with
  | updateSMC now inputW capacityW =>
      left
      simp only [PolicyCall.record]
      cases hexec : r.policy.updateSMC now inputW capacityW with
      | none => exact ⟨rfl, rfl⟩
      | some p => exact limits_updateSMC hexec
  | updatePackagePower now packageW =>
      left
      simp only [PolicyCall.record]
      cases hexec : r.policy.updatePackagePower now packageW with
      | none => exact ⟨rfl, rfl⟩
      | some p => exact limits_updatePackagePower hexec
  | evaluate now => exact .inr ⟨now, rfl, rfl⟩

theorem Limited.record {exp : ℚ → ℚ} {config : PolicyConfig} {clock : ℚ} {r : Recorded}
    (h : Limited config clock r.policy) (hconfig : config.Ordered) (call : PolicyCall)
    (hclock : clock ≤ call.time) : Limited config call.time (call.record exp r).policy := by
  rcases call.record_cases exp r with ⟨hlimits, hfilters⟩ | ⟨now, rfl, hpolicy⟩
  · refine (h.wait hclock).of_limits hlimits ?_
    have hnonCPU : (call.record exp r).policy.snapshot.nonCPUW = r.policy.snapshot.nonCPUW :=
      congrArg Filters.nonCPUW hfilters
    rw [hnonCPU]
    exact h.nonCPU
  · rw [hpolicy]
    exact h.evaluate hconfig hclock

theorem limited_recorded (exp : ℚ → ℚ) {config : PolicyConfig} (hconfig : config.Ordered)
    (calls : List PolicyCall) {now : ℚ}
    (htimes : (calls.map PolicyCall.time ++ [now]).Pairwise (· ≤ ·)) :
    Limited config now (recorded exp config calls).policy := by
  induction calls using List.reverseRecOn generalizing now with
  | nil => exact limited_reset config now
  | append_singleton calls call ih =>
      rw [List.map_append, List.pairwise_append] at htimes
      have hlast : call.time ≤ now :=
        htimes.2.2 call.time (List.mem_append_right _ (List.mem_singleton_self _)) now
          (List.mem_singleton_self _)
      rw [recorded_concat]
      exact ((ih htimes.1).record hconfig call (le_refl _)).wait hlast

/-! ## Limit tracking -/

section

variable {exp : ℚ → ℚ} {config : PolicyConfig} {p p' : GovernorPolicy} {clock now start level : ℚ}

/-- PL1 is within the deadband of what is desired, and PL2 between it and its ceiling. -/
structure Tracks (config : PolicyConfig) (s : PolicySnapshot) : Prop where
  floor : config.raplFloorW ≤ s.pl1W
  ceiling : s.pl1W ≤ config.raplCeilingPL1W
  pl2_ge : s.pl1W ≤ s.pl2W
  pl2_le : s.pl2W ≤ config.raplCeilingPL2W
  desired : s.pl1W ≤ s.desiredPL1W + 1 / 4

theorem tracks_updateLimits (h : Limited config clock p) (hconfig : config.Ordered)
    (hclock : clock ≤ now) : Tracks config (p.updateLimits now).flagOverBudget.snapshot := by
  have hlimited := h.updateLimits hconfig hclock
  have hinit : (p.updateLimits now).flagOverBudget.limitInitialized = true := rfl
  have hceiling := hlimited.ceiling hinit
  have hpl2 : (p.updateLimits now).flagOverBudget.snapshot.pl2W =
      clampValue (if p.snapshot.band = .cruise then
          (p.updateLimits now).flagOverBudget.snapshot.pl1W + max 0 p.config.cruisePL2BurstW
        else (p.updateLimits now).flagOverBudget.snapshot.pl1W)
        (p.updateLimits now).flagOverBudget.snapshot.pl1W p.config.raplCeilingPL2W := rfl
  have hdesired : (p.updateLimits now).flagOverBudget.snapshot.desiredPL1W = p.desiredPL1 := rfl
  constructor
  · exact hlimited.floor hinit
  · exact hceiling
  · rw [hpl2, clampValue]
    exact le_max_left _ _
  · rw [hpl2, clampValue, h.configured]
    exact max_le (hceiling.trans hconfig.ceiling_le) (min_le_right _ _)
  · rw [hdesired]
    have hdeadband : limitDeadbandW = 1 / 4 := rfl
    cases GovernorPolicy.nextPL1_updateLimits p now with
    | set _ hpl1 _ => linarith
    | raise _ _ _ hpl1 _ =>
        rw [hpl1]
        linarith [min_le_left p.desiredPL1 (p.snapshot.pl1W + 1)]
    | keep _ hnear hpl1 _ => linarith

theorem pace_updateLimits (hinit : p.limitInitialized = true) :
    Pace 1 1 now (p.snapshot.pl1W, p.lastIncreaseTime)
      ((p.updateLimits now).flagOverBudget.snapshot.pl1W,
        (p.updateLimits now).flagOverBudget.lastIncreaseTime) := by
  cases GovernorPolicy.nextPL1_updateLimits p now with
  | set hcut hpl1 hlast =>
      have hdeadband : limitDeadbandW = 1 / 4 := rfl
      refine .fall ?_ hlast
      have hlt := hcut hinit
      dsimp only
      linarith
  | raise _ _ hwait hpl1 hlast =>
      have hinterval := p.one_le_recoveryInterval
      have helapsed := running_of_elapsed (by linarith) hwait
      refine .rise (by dsimp only; linarith [helapsed.2]) ?_ hlast
      dsimp only
      rw [hpl1]
      exact min_le_right _ _
  | keep _ _ hpl1 hlast => exact .keep (Prod.ext hpl1 hlast)

/-- PL1 since a ready evaluation at `start` that left it at `level`. -/
structure Slewed (start level : ℚ) (p : GovernorPolicy) : Prop where
  init : p.limitInitialized = true
  risen : Risen 1 1 start level (p.snapshot.pl1W, p.lastIncreaseTime)

theorem Slewed.of_limits (h : Slewed start level p) (hlimits : p'.limits = p.limits) :
    Slewed start level p' := by
  have hpl1 : p'.snapshot.pl1W = p.snapshot.pl1W := congrArg LimitState.pl1W hlimits
  have hlast : p'.lastIncreaseTime = p.lastIncreaseTime :=
    congrArg LimitState.lastIncreaseTime hlimits
  have hinit : p'.limitInitialized = p.limitInitialized :=
    congrArg LimitState.limitInitialized hlimits
  constructor
  · rw [hinit, h.init]
  · rw [hpl1, hlast]
    exact h.risen

theorem Slewed.evaluate (h : Slewed start level p) (hlimited : Limited config clock p)
    (hclock : clock ≤ now) (hstart : start ≤ now) : Slewed start level (p.evaluate exp now) := by
  by_cases hready : (p.evaluate exp now).snapshot.ready = true
  · have hunlimited : Slewed start level (p.unlimited exp now) :=
      h.of_limits (GovernorPolicy.limits_unlimited p)
    have hlast : (p.unlimited exp now).lastIncreaseTime ≤ now :=
      (hlimited.unlimited.last hunlimited.init).trans hclock
    rw [GovernorPolicy.evaluate_of_ready hready]
    refine ⟨rfl, ?_⟩
    exact hunlimited.risen.step zero_le_one zero_lt_one hlast hstart
      (pace_updateLimits hunlimited.init)
  · exact h.of_limits (GovernorPolicy.limits_evaluate hready)

theorem Slewed.record {r : Recorded} (h : Slewed start level r.policy)
    (hlimited : Limited config clock r.policy) (call : PolicyCall) (hclock : clock ≤ call.time)
    (hstart : start ≤ call.time) : Slewed start level (call.record exp r).policy := by
  rcases call.record_cases exp r with ⟨hlimits, -⟩ | ⟨now, rfl, hpolicy⟩
  · exact h.of_limits hlimits
  · rw [hpolicy]
    exact h.evaluate hlimited hclock hstart

theorem slewed_recorded (hconfig : config.Ordered) (pre calls : List PolicyCall)
    (hslewed : Slewed start level (recorded exp config pre).policy)
    (hstart : ∀ call ∈ calls, start ≤ call.time)
    (htimes : ((pre ++ calls).map PolicyCall.time).Pairwise (· ≤ ·)) :
    Slewed start level (recorded exp config (pre ++ calls)).policy := by
  induction calls using List.reverseRecOn with
  | nil =>
      rw [List.append_nil]
      exact hslewed
  | append_singleton calls call ih =>
      rw [← List.append_assoc, recorded_concat]
      rw [← List.append_assoc, List.map_append] at htimes
      have hearlier := ih (fun call' hcall' => hstart call' (List.mem_append_left _ hcall'))
        (List.pairwise_append.1 htimes).1
      exact hearlier.record (limited_recorded exp hconfig (pre ++ calls) htimes) call (le_refl _)
        (hstart call (List.mem_append_right _ (List.mem_singleton_self _)))

/-- The times up to a call of a run. -/
theorem times_before {calls pre : List PolicyCall} {call : PolicyCall}
    (htimes : (calls.map PolicyCall.time).Pairwise (· ≤ ·)) (hpre : pre ++ [call] <+: calls) :
    (pre.map PolicyCall.time ++ [call.time]).Pairwise (· ≤ ·) := by
  have hsub := (hpre.map PolicyCall.time).sublist
  rw [List.map_append] at hsub
  exact htimes.sublist hsub

/-- The last call of a run that goes on from `call` is no earlier than it. -/
theorem time_le_last {pre pre' calls : List PolicyCall} {call call' : PolicyCall}
    (heq : pre ++ [call] ++ calls = pre' ++ [call']) (hlater : ∀ c ∈ calls, call.time ≤ c.time) :
    call.time ≤ call'.time := by
  rcases List.eq_nil_or_concat calls with rfl | ⟨calls', last, rfl⟩
  · rw [List.append_nil] at heq
    have hlast := (List.append_inj' heq rfl).2
    cases hlast
    exact le_refl _
  · rw [List.concat_eq_append, ← List.append_assoc] at heq
    have hlast := (List.append_inj' heq rfl).2
    cases hlast
    exact hlater _ (by simp)

/-- Every ready evaluation of every run tracks; and from one to a later one PL1 rises by
a watt, and by one more a second. -/
theorem limit_tracking (exp : ℚ → ℚ) {config : PolicyConfig} (hconfig : config.Ordered)
    (calls : List PolicyCall) (htimes : (calls.map PolicyCall.time).Pairwise (· ≤ ·)) :
    (∀ (pre : List PolicyCall) (now : ℚ), pre ++ [PolicyCall.evaluate now] <+: calls →
      (recorded exp config (pre ++ [PolicyCall.evaluate now])).policy.snapshot.ready = true →
      Tracks config (recorded exp config (pre ++ [PolicyCall.evaluate now])).policy.snapshot) ∧
    ∀ (pre pre' : List PolicyCall) (t t' : ℚ),
      pre ++ [PolicyCall.evaluate t] <+: pre' ++ [PolicyCall.evaluate t'] →
      pre' ++ [PolicyCall.evaluate t'] <+: calls →
      (recorded exp config (pre ++ [PolicyCall.evaluate t])).policy.snapshot.ready = true →
      (recorded exp config (pre' ++ [PolicyCall.evaluate t'])).policy.snapshot.ready = true →
      (recorded exp config (pre' ++ [PolicyCall.evaluate t'])).policy.snapshot.pl1W -
        (recorded exp config (pre ++ [PolicyCall.evaluate t])).policy.snapshot.pl1W ≤ 1 + (t' - t) := by
  constructor
  · intro pre now hpre hready
    have hlimited := limited_recorded exp hconfig pre (times_before htimes hpre)
    rw [recorded_concat] at hready ⊢
    simp only [PolicyCall.record] at hready ⊢
    rw [GovernorPolicy.evaluate_of_ready hready]
    exact tracks_updateLimits hlimited.unlimited hconfig (le_refl _)
  · intro pre pre' t t' hpre hpre' hready _
    have htimes' := htimes.sublist (hpre'.map PolicyCall.time).sublist
    rcases hpre with ⟨calls', hcalls'⟩
    -- the level is that of the first of the two evaluations
    have hslewed : Slewed t (recorded exp config (pre ++ [.evaluate t])).policy.snapshot.pl1W
        (recorded exp config (pre ++ [.evaluate t])).policy := by
      refine ⟨?_, .inl (le_refl _)⟩
      rw [recorded_concat] at hready ⊢
      simp only [PolicyCall.record] at hready ⊢
      rw [GovernorPolicy.evaluate_of_ready hready]
      rfl
    rw [← hcalls'] at htimes' ⊢
    have hstart : ∀ call ∈ calls', t ≤ call.time := by
      intro call hcall
      rw [List.map_append, List.pairwise_append] at htimes'
      refine htimes'.2.2 t ?_ call.time (List.mem_map_of_mem hcall)
      rw [List.map_append]
      exact List.mem_append_right _ (List.mem_singleton_self _)
    have hlater := slewed_recorded hconfig _ calls' hslewed hstart htimes'
    have hend : t ≤ t' ∧ Limited config t' (recorded exp config (pre ++ [.evaluate t] ++ calls')).policy := by
      rw [hcalls', recorded_concat]
      have hlimited := limited_recorded exp hconfig pre' (times_before htimes hpre')
      exact ⟨time_le_last hcalls' hstart, hlimited.record hconfig (.evaluate t') (le_refl _)⟩
    have hle := hlater.risen.le zero_le_one zero_lt_one (hend.2.last hlater.init) hend.1
    dsimp only at hle
    linarith

end

theorem ordered_default : PolicyConfig.Ordered {} := by
  constructor <;> decide +kernel

/-- A high input, and a low one two seconds later. -/
def risingRun : List PolicyCall :=
  [.updatePackagePower 0 5, .updateSMC 0 40 80, .evaluate 0, .updatePackagePower 2 5,
    .updateSMC 2 20 80, .evaluate 2]

/-- PL1 has risen by a watt, of the three that it might. -/
theorem limit_tracking_risingRun :
    (recorded sampleExp {} risingRun).policy.snapshot.pl1W -
      (recorded sampleExp {} (risingRun.take 3)).policy.snapshot.pl1W ≤ 1 + (2 - 0) := by
  have htimes : (risingRun.map PolicyCall.time).Pairwise (· ≤ ·) := by decide +kernel
  have hready : (recorded sampleExp {} (risingRun.take 3)).policy.snapshot.ready = true := by
    decide +kernel
  have hready' : (recorded sampleExp {} risingRun).policy.snapshot.ready = true := by decide +kernel
  exact (limit_tracking sampleExp ordered_default risingRun htimes).2 (risingRun.take 2)
    (risingRun.take 5) 0 2 (List.take_prefix 3 risingRun) (List.prefix_refl _) hready hready'

end TurboMac.Daemon
