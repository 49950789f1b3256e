import TurboMac.Daemon.Limits

/-! # Polling

`evaluate` runs much more often than the inputs arrive. `Reference` is what the policy
is to make of its samples: one observation of the non-CPU power for each accepted input,
of the samples as they are then, and nothing else. A policy that is evaluated after each
input follows it, however often it is evaluated besides.
-/

namespace TurboMac.Daemon

open Window

/-- The non-CPU estimate, with what it was last updated from. -/
structure NonCPU where
  nonCPUW : ℚ
  rawNonCPUObservationW : ℚ
  nonCPUObservationW : ℚ
  nonCPUInitialized : Bool
  lastNonCPUTime : ℚ
  lastNonCPUSMCTime : ℚ
deriving DecidableEq, Repr

def Filters.nonCPU (f : Filters) : NonCPU :=
  ⟨f.nonCPUW, f.rawNonCPUObservationW, f.nonCPUObservationW, f.nonCPUInitialized, f.lastNonCPUTime,
    f.lastNonCPUSMCTime⟩

def GovernorPolicy.nonCPU (p : GovernorPolicy) : NonCPU := p.filters.nonCPU

/-! ## The reference -/

/-- The mean of the inputs of the last second. -/
def meanInput (inputs : List Sample) (now : ℚ) : ℚ :=
  let recent := inputs.filter fun s => decide (now - s.time ≤ inputWindowSeconds)
  if recent = [] then 0 else (recent.map (·.value)).sum / recent.length

/-- The median of the package powers of the last second. -/
def medianPackage (packages : List Sample) (now : ℚ) : ℚ :=
  median (packages.filter fun s => decide (now - s.time ≤ packageWindowSeconds))

/-- The greatest package power of the last two seconds, or the median. -/
def peakPackage (packages : List Sample) (now : ℚ) : ℚ :=
  (packages.filter fun s => decide (now - s.time ≤ packageAlignmentWindowSeconds)).foldl
    (fun peak s => max peak s.value) (medianPackage packages now)

namespace NonCPU

/-- An observation that is blocked is the estimate itself. -/
def observation (e : NonCPU) (raw package peak : ℚ) : ℚ :=
  if e.nonCPUInitialized ∧ e.nonCPUW < raw ∧ packageAlignmentDeltaW ≤ peak - package then e.nonCPUW
  else raw

/-- The estimate moves toward the observation, by the time since it last moved. -/
def moved (exp : ℚ → ℚ) (e : NonCPU) (now observation : ℚ) : ℚ :=
  let elapsed := clampValue (now - e.lastNonCPUTime) 0 2
  let tau := if e.nonCPUW < observation then nonCPURiseTauSeconds else nonCPUFallTauSeconds
  let alpha := if elapsed ≤ 0 then 0 else 1 - exp (-elapsed / tau)
  max 0 (e.nonCPUW + alpha * (observation - e.nonCPUW))

/-- One observation at `now`, of the input of `smcTime`, unless that has been observed. -/
def observe (exp : ℚ → ℚ) (e : NonCPU) (input package peak smcTime now : ℚ) : NonCPU :=
  if smcTime = e.lastNonCPUSMCTime then e
  else
    let raw := max 0 (input - package)
    let observation := e.observation raw package peak
    { nonCPUW := if e.nonCPUInitialized then e.moved exp now observation else observation
      rawNonCPUObservationW := raw
      nonCPUObservationW := observation
      nonCPUInitialized := true
      lastNonCPUTime := now
      lastNonCPUSMCTime := smcTime }

theorem lastNonCPUSMCTime_observe (exp : ℚ → ℚ) (e : NonCPU) (input package peak smcTime now : ℚ) :
    (e.observe exp input package peak smcTime now).lastNonCPUSMCTime = smcTime := by
  unfold observe
  split
  · rename_i hsame
    exact hsame.symm
  · rfl

/-- The factor of a move. -/
theorem alpha_between {exp : ℚ → ℚ} (hexp : ∀ x ≤ 0, 0 < exp x ∧ exp x ≤ 1) {elapsed tau : ℚ}
    (htau : 0 < tau) : 0 ≤ (if elapsed ≤ 0 then 0 else 1 - exp (-elapsed / tau)) ∧
      (if elapsed ≤ 0 then 0 else 1 - exp (-elapsed / tau)) ≤ 1 := by
  split
  · exact ⟨le_refl 0, zero_le_one⟩
  · rename_i helapsed
    have hneg : -elapsed / tau ≤ 0 := div_nonpos_of_nonpos_of_nonneg (by linarith) htau.le
    rcases hexp _ hneg with ⟨hpos, hle⟩
    constructor <;> linarith

/-- A move ends between zero and the greater of where it starts and what it is toward. -/
theorem moved_le {exp : ℚ → ℚ} (hexp : ∀ x ≤ 0, 0 < exp x ∧ exp x ≤ 1) {e : NonCPU}
    (he : 0 ≤ e.nonCPUW) (now observation : ℚ) :
    0 ≤ e.moved exp now observation ∧ e.moved exp now observation ≤ max e.nonCPUW observation := by
  have htau : 0 < if e.nonCPUW < observation then nonCPURiseTauSeconds else nonCPUFallTauSeconds := by
    split <;> decide +kernel
  have halpha := @alpha_between exp hexp (clampValue (now - e.lastNonCPUTime) 0 2) _ htau
  have hmoved : ∃ alpha, 0 ≤ alpha ∧ alpha ≤ 1 ∧
      e.moved exp now observation = max 0 (e.nonCPUW + alpha * (observation - e.nonCPUW)) :=
    ⟨_, halpha.1, halpha.2, rfl⟩
  rcases hmoved with ⟨alpha, hzero, hone, heq⟩
  rw [heq]
  refine ⟨le_max_left 0 _, max_le (he.trans (le_max_left _ _)) ?_⟩
  rcases le_total observation e.nonCPUW with hle | hle
  · have hmove := mul_nonpos_of_nonneg_of_nonpos hzero (sub_nonpos.2 hle)
    rw [max_eq_left hle]
    linarith
  · have hmove := mul_le_of_le_one_left (sub_nonneg.2 hle) hone
    rw [max_eq_right hle]
    linarith

/-- An observation leaves the estimate between zero and the greater of what it was and
what has been observed. -/
theorem observe_le {exp : ℚ → ℚ} (hexp : ∀ x ≤ 0, 0 < exp x ∧ exp x ≤ 1) {e : NonCPU}
    (he : 0 ≤ e.nonCPUW) (input package peak smcTime now : ℚ) :
    0 ≤ (e.observe exp input package peak smcTime now).nonCPUW ∧
      (e.observe exp input package peak smcTime now).nonCPUW ≤
        max e.nonCPUW (e.observe exp input package peak smcTime now).rawNonCPUObservationW := by
  unfold observe
  split
  · exact ⟨he, le_max_left _ _⟩
  dsimp only
  have hraw : 0 ≤ max 0 (input - package) := le_max_left 0 _
  generalize max 0 (input - package) = raw at hraw
  -- what is observed is the raw observation, or the estimate where that is blocked
  have hobservation : 0 ≤ e.observation raw package peak ∧
      e.observation raw package peak ≤ max e.nonCPUW raw := by
    unfold observation
    split
    · exact ⟨he, le_max_left _ _⟩
    · exact ⟨hraw, le_max_right _ _⟩
  split
  · have hmoved := moved_le hexp he now (e.observation raw package peak)
    exact ⟨hmoved.1, hmoved.2.trans (max_le (le_max_left _ _) hobservation.2)⟩
  · exact hobservation

end NonCPU

/-- The samples, and the estimate they lead to, with the one before the newest input. -/
structure Reference where
  inputs : List Sample
  packages : List Sample
  lastSMCTime : ℚ
  lastPackageTime : ℚ
  previous : NonCPU
  estimate : NonCPU

/-- Whether `updateSMC` accepts an input after one of `last`. -/
def acceptsSMC (last now inputW capacityW : ℚ) : Bool :=
  decide (¬ (now < 0 ∨ (last ≠ unset ∧ now < last) ∨ validPower inputW 250 = false ∨
    validPower capacityW 250 = false ∨ capacityW < 10))

/-- Whether `updatePackagePower` accepts a package power after one of `last`. -/
def acceptsPackage (last now packageW : ℚ) : Bool :=
  decide (¬ (now < 0 ∨ (last ≠ unset ∧ now < last) ∨ validPower packageW 200 = false))

namespace Reference

/-- After a reset. -/
def start : Reference :=
  ⟨[], [], unset, unset, ⟨0, 0, 0, false, unset, unset⟩, ⟨0, 0, 0, false, unset, unset⟩⟩

/-- A call; evaluations do not count. -/
def after (exp : ℚ → ℚ) (r : Reference) : PolicyCall → Reference
  | .updateSMC now inputW capacityW =>
    if acceptsSMC r.lastSMCTime now inputW capacityW then
      let inputs := r.inputs ++ [⟨now, inputW⟩]
      { r with
        inputs := inputs
        lastSMCTime := now
        previous := r.estimate
        estimate := r.estimate.observe exp (meanInput inputs now) (medianPackage r.packages now)
          (peakPackage r.packages now) now now }
    else r
  | .updatePackagePower now packageW =>
    if acceptsPackage r.lastPackageTime now packageW then
      { r with packages := r.packages ++ [⟨now, packageW⟩], lastPackageTime := now }
    else r
  | .evaluate _ => r

def run (exp : ℚ → ℚ) (calls : List PolicyCall) : Reference := calls.foldl (after exp) start

theorem run_concat (exp : ℚ → ℚ) (calls : List PolicyCall) (call : PolicyCall) :
    run exp (calls ++ [call]) = (run exp calls).after exp call := by
  rw [run, List.foldl_append]
  rfl

/-- The estimate has observed the newest input. -/
theorem lastNonCPUSMCTime_after {exp : ℚ → ℚ} {r : Reference}
    (h : r.estimate.lastNonCPUSMCTime = r.lastSMCTime) (call : PolicyCall) :
    (r.after exp call).estimate.lastNonCPUSMCTime = (r.after exp call).lastSMCTime := by
  cases call with
  | updateSMC now inputW capacityW =>
      rw [after]
      split
      · exact NonCPU.lastNonCPUSMCTime_observe exp r.estimate _ _ _ now now
      · exact h
  | updatePackagePower now packageW =>
      rw [after]
      split <;> exact h
  | evaluate now => exact h

theorem lastNonCPUSMCTime_run (exp : ℚ → ℚ) (calls : List PolicyCall) :
    (run exp calls).estimate.lastNonCPUSMCTime = (run exp calls).lastSMCTime := by
  induction calls using List.reverseRecOn with
  | nil => rfl
  | append_singleton calls call ih =>
      rw [run_concat]
      exact lastNonCPUSMCTime_after ih call

end Reference

/-! ## What the policy observes -/

namespace GovernorPolicy

variable {exp : ℚ → ℚ} {p : GovernorPolicy} {now : ℚ}

/-- `updateNonCPU` is one observation of what has been filtered. -/
theorem nonCPU_updateNonCPU (p : GovernorPolicy) : (p.updateNonCPU exp now).nonCPU =
    p.nonCPU.observe exp p.snapshot.filteredInputW p.snapshot.filteredPackageW
      p.snapshot.alignedPackageW p.lastSMCTime now := by
  have hlast : p.nonCPU.lastNonCPUSMCTime = p.lastNonCPUSMCTime := rfl
  unfold updateNonCPU NonCPU.observe
  rw [hlast]
  split <;> rfl

/-- A policy that has observed its newest input waits for the next. -/
theorem nonCPU_evaluate_of_observed (h : p.nonCPU.lastNonCPUSMCTime = p.lastSMCTime) :
    (p.evaluate exp now).nonCPU = p.nonCPU := by
  by_cases hnow : 0 ≤ now
  · have hrefresh : (p.refresh now).nonCPU = p.nonCPU := rfl
    have hsmc : (p.refresh now).lastSMCTime = p.lastSMCTime := rfl
    have hfilters : (p.evaluate exp now).nonCPU = (p.evaluate exp now).filters.nonCPU := rfl
    rw [hfilters, filters_evaluate hnow]
    split
    · have hobserve := @nonCPU_updateNonCPU exp now (p.refresh now)
      rw [hrefresh, hsmc, NonCPU.observe, if_pos h.symm] at hobserve
      exact hobserve
    · exact hrefresh
  · unfold evaluate
    rw [if_pos (not_le.1 hnow)]
    rfl

/-- A ready evaluation is one observation of what it refreshes. -/
theorem nonCPU_evaluate_of_ready (h : (p.evaluate exp now).snapshot.ready = true) :
    (p.evaluate exp now).nonCPU = p.nonCPU.observe exp (p.refresh now).snapshot.filteredInputW
      (p.refresh now).snapshot.filteredPackageW (p.refresh now).snapshot.alignedPackageW
      p.lastSMCTime now := by
  have hnow := nonneg_of_ready h
  have hready : (p.refresh now).snapshot.ready = true := by
    rw [← (sameReadiness_evaluate exp p hnow).ready]
    exact h
  have hfilters : (p.evaluate exp now).nonCPU = (p.evaluate exp now).filters.nonCPU := rfl
  rw [hfilters, filters_evaluate hnow, if_pos hready]
  exact nonCPU_updateNonCPU (p.refresh now)

/-- An evaluation is one observation, or none. -/
theorem nonCPU_evaluate (exp : ℚ → ℚ) (p : GovernorPolicy) (now : ℚ) :
    (p.evaluate exp now).nonCPU = p.nonCPU ∨ ∃ input package peak,
      (p.evaluate exp now).nonCPU = p.nonCPU.observe exp input package peak p.lastSMCTime now := by
  by_cases hnow : 0 ≤ now
  · have hfilters : (p.evaluate exp now).nonCPU = (p.evaluate exp now).filters.nonCPU := rfl
    rw [hfilters, filters_evaluate hnow]
    split
    · exact .inr ⟨_, _, _, nonCPU_updateNonCPU (p.refresh now)⟩
    · exact .inl rfl
  · left
    unfold evaluate
    rw [if_pos (not_le.1 hnow)]
    rfl

end GovernorPolicy

namespace Recorded.Faithful

variable {clock now : ℚ} {r : Recorded}

theorem filteredInputW (h : r.Faithful clock) (hclock : clock ≤ now) :
    (r.policy.refresh now).snapshot.filteredInputW = meanInput r.inputs now := by
  have hrefresh : (r.policy.refresh now).snapshot.filteredInputW =
      if expire inputWindowSeconds now r.policy.inputSamples = [] then 0
      else ((expire inputWindowSeconds now r.policy.inputSamples).map (·.value)).sum /
        (expire inputWindowSeconds now r.policy.inputSamples).length := rfl
  rw [hrefresh, h.inputs now hclock, expire_eq_filter h.inputOrder]
  rfl

theorem alignedPackageW (h : r.Faithful clock) (hclock : clock ≤ now) :
    (r.policy.refresh now).snapshot.alignedPackageW = peakPackage r.packages now := by
  have hrefresh : (r.policy.refresh now).snapshot.alignedPackageW =
      (expire packageAlignmentWindowSeconds now r.policy.packageSamples).foldl (fun peak s =>
        if s.time ≤ now ∧ now - s.time ≤ packageAlignmentWindowSeconds then max peak s.value else peak)
        (r.policy.refresh now).snapshot.filteredPackageW := rfl
  rw [hrefresh, h.filteredPackageW hclock, h.packages now hclock, expire_eq_filter h.packageOrder,
    peakPackage, medianPackage]
  -- every sample that is left is within the window
  apply List.foldl_ext
  intro peak s hs
  rw [List.mem_filter, decide_eq_true_eq] at hs
  rw [if_pos ⟨(h.packagePast s hs.1).trans hclock, hs.2⟩]

end Recorded.Faithful

/-! ## Prompt runs -/

/-- The run ends with an accepted input, which is still to be evaluated. -/
def Pending (exp : ℚ → ℚ) (calls : List PolicyCall) : Prop :=
  ∃ (pre : List PolicyCall) (now inputW capacityW : ℚ), calls = pre ++ [.updateSMC now inputW capacityW] ∧
    acceptsSMC (Reference.run exp pre).lastSMCTime now inputW capacityW = true

/-- Each accepted input is evaluated at once, and the policy is ready then. -/
def Prompt (exp : ℚ → ℚ) (config : PolicyConfig) (calls : List PolicyCall) : Prop :=
  ∀ (pre : List PolicyCall) (now inputW capacityW : ℚ) (post : List PolicyCall),
    calls = pre ++ .updateSMC now inputW capacityW :: post →
    ((recorded exp config pre).policy.updateSMC now inputW capacityW).isSome = true →
    ∃ post', post = .evaluate now :: post' ∧
      (recorded exp config (pre ++ [.updateSMC now inputW capacityW, .evaluate now])).policy.snapshot.ready =
        true

/-- The policy has accepted what the reference has. -/
structure Follows (r : Reference) (s : Recorded) : Prop where
  inputs : s.inputs = r.inputs
  packages : s.packages = r.packages
  smc : s.policy.lastSMCTime = r.lastSMCTime
  package : s.policy.lastPackageTime = r.lastPackageTime

section

variable {exp : ℚ → ℚ} {config : PolicyConfig} {calls : List PolicyCall} {now inputW capacityW : ℚ}

theorem updateSMC_isSome (p : GovernorPolicy) (now inputW capacityW : ℚ) :
    (p.updateSMC now inputW capacityW).isSome = acceptsSMC p.lastSMCTime now inputW capacityW := by
  unfold GovernorPolicy.updateSMC acceptsSMC
  split
  · rename_i hrejected
    simp [hrejected]
  · rename_i haccepted
    rw [decide_eq_true haccepted]
    rfl

theorem lastTimes_updateSMC {p p' : GovernorPolicy} (h : p.updateSMC now inputW capacityW = some p') :
    p'.lastSMCTime = now ∧ p'.lastPackageTime = p.lastPackageTime := by
  unfold GovernorPolicy.updateSMC at h
  split at h
  · cases h
  · cases h
    exact ⟨rfl, rfl⟩

theorem updatePackagePower_isSome (p : GovernorPolicy) (now packageW : ℚ) :
    (p.updatePackagePower now packageW).isSome = acceptsPackage p.lastPackageTime now packageW := by
  unfold GovernorPolicy.updatePackagePower acceptsPackage
  split
  · rename_i hrejected
    simp [hrejected]
  · rename_i haccepted
    rw [decide_eq_true haccepted]
    rfl

theorem lastTimes_updatePackagePower {p p' : GovernorPolicy} {packageW : ℚ}
    (h : p.updatePackagePower now packageW = some p') :
    p'.lastPackageTime = now ∧ p'.lastSMCTime = p.lastSMCTime := by
  unfold GovernorPolicy.updatePackagePower at h
  split at h
  · cases h
  · cases h
    exact ⟨rfl, rfl⟩

theorem lastTimes_evaluate (p : GovernorPolicy) : (p.evaluate exp now).lastSMCTime = p.lastSMCTime ∧
    (p.evaluate exp now).lastPackageTime = p.lastPackageTime := by
  by_cases hnow : 0 ≤ now
  · have hevidence := (GovernorPolicy.sameReadiness_evaluate exp p hnow).evidence
    exact ⟨congrArg Evidence.lastSMCTime hevidence, congrArg Evidence.lastPackageTime hevidence⟩
  · unfold GovernorPolicy.evaluate
    rw [if_pos (not_le.1 hnow)]
    exact ⟨rfl, rfl⟩

theorem Follows.record {r : Reference} {s : Recorded} (h : Follows r s) (call : PolicyCall) :
    Follows (r.after exp call) (call.record exp s) := by
  cases call with
  | updateSMC now inputW capacityW =>
      have hsome := updateSMC_isSome s.policy now inputW capacityW
      rw [h.smc] at hsome
      simp only [PolicyCall.record, Reference.after]
      cases hexec : s.policy.updateSMC now inputW capacityW with
      | none =>
          rw [hexec] at hsome
          rw [← hsome]
          exact h
      | some p =>
          rw [hexec] at hsome
          rw [← hsome]
          have hlast := lastTimes_updateSMC hexec
          exact ⟨by simp [h.inputs], h.packages, hlast.1, hlast.2.trans h.package⟩
  | updatePackagePower now packageW =>
      have hsome := updatePackagePower_isSome s.policy now packageW
      rw [h.package] at hsome
      simp only [PolicyCall.record, Reference.after]
      cases hexec : s.policy.updatePackagePower now packageW with
      | none =>
          rw [hexec] at hsome
          rw [← hsome]
          exact h
      | some p =>
          rw [hexec] at hsome
          rw [← hsome]
          have hlast := lastTimes_updatePackagePower hexec
          exact ⟨h.inputs, by simp [h.packages], hlast.2.trans h.smc, hlast.1⟩
  | evaluate now =>
      have hlast := @lastTimes_evaluate exp now s.policy
      exact ⟨h.inputs, h.packages, hlast.1.trans h.smc, hlast.2.trans h.package⟩

theorem follows_run (exp : ℚ → ℚ) (config : PolicyConfig) (calls : List PolicyCall) :
    Follows (Reference.run exp calls) (recorded exp config calls) := by
  induction calls using List.reverseRecOn with
  | nil => exact ⟨rfl, rfl, rfl, rfl⟩
  | append_singleton calls call ih =>
      rw [Reference.run_concat, recorded_concat]
      exact ih.record call

/-- Only an accepted input is pending. -/
theorem pending_concat {call : PolicyCall} : Pending exp (calls ++ [call]) ↔
    ∃ now inputW capacityW, call = .updateSMC now inputW capacityW ∧
      acceptsSMC (Reference.run exp calls).lastSMCTime now inputW capacityW = true := by
  constructor
  · rintro ⟨pre, now, inputW, capacityW, heq, haccepts⟩
    rcases List.append_inj' heq rfl with ⟨rfl, hlast⟩
    exact ⟨now, inputW, capacityW, (List.cons.inj hlast).1, haccepts⟩
  · rintro ⟨now, inputW, capacityW, rfl, haccepts⟩
    exact ⟨calls, now, inputW, capacityW, rfl, haccepts⟩

theorem not_pending_evaluate : ¬ Pending exp (calls ++ [.evaluate now]) := by
  rw [pending_concat]
  rintro ⟨now', inputW, capacityW, heq, -⟩
  cases heq

theorem pending_updateSMC : Pending exp (calls ++ [.updateSMC now inputW capacityW]) ↔
    acceptsSMC (Reference.run exp calls).lastSMCTime now inputW capacityW = true := by
  rw [pending_concat]
  constructor
  · rintro ⟨now', inputW', capacityW', heq, haccepts⟩
    cases heq
    exact haccepts
  · intro haccepts
    exact ⟨now, inputW, capacityW, rfl, haccepts⟩

/-- The estimate of the policy is that of the reference, or while an input is pending, the
one before it. -/
structure Estimates (exp : ℚ → ℚ) (config : PolicyConfig) (calls : List PolicyCall) : Prop where
  pending : Pending exp calls →
    (recorded exp config calls).policy.nonCPU = (Reference.run exp calls).previous
  settled : ¬ Pending exp calls →
    (recorded exp config calls).policy.nonCPU = (Reference.run exp calls).estimate

/-- The evaluation of a pending input observes what the reference has observed. -/
theorem estimates_evaluate (pre : List PolicyCall)
    (htimes : ((pre ++ [PolicyCall.updateSMC now inputW capacityW]).map PolicyCall.time ++ [now]).Pairwise
      (· ≤ ·))
    (haccepts : acceptsSMC (Reference.run exp pre).lastSMCTime now inputW capacityW = true)
    (hprevious : (recorded exp config (pre ++ [PolicyCall.updateSMC now inputW capacityW])).policy.nonCPU =
      (Reference.run exp (pre ++ [PolicyCall.updateSMC now inputW capacityW])).previous)
    (hready : (recorded exp config (pre ++ [PolicyCall.updateSMC now inputW capacityW] ++
      [PolicyCall.evaluate now])).policy.snapshot.ready = true) :
    (recorded exp config (pre ++ [PolicyCall.updateSMC now inputW capacityW] ++
        [PolicyCall.evaluate now])).policy.nonCPU =
      (Reference.run exp (pre ++ [PolicyCall.updateSMC now inputW capacityW] ++
        [PolicyCall.evaluate now])).estimate := by
  have hfaithful := faithful_recorded exp config _ htimes
  have hfollows := follows_run exp config (pre ++ [.updateSMC now inputW capacityW])
  rw [recorded_concat] at hready ⊢
  rw [Reference.run_concat]
  simp only [PolicyCall.record] at hready
  have hobserve := GovernorPolicy.nonCPU_evaluate_of_ready hready
  rw [hfaithful.filteredInputW (le_refl now), hfaithful.filteredPackageW (le_refl now),
    hfaithful.alignedPackageW (le_refl now), hfollows.smc, hfollows.inputs, hfollows.packages,
    hprevious] at hobserve
  -- what the reference has made of the input
  have hreference : Reference.run exp (pre ++ [.updateSMC now inputW capacityW]) =
      { Reference.run exp pre with
        inputs := (Reference.run exp pre).inputs ++ [⟨now, inputW⟩]
        lastSMCTime := now
        previous := (Reference.run exp pre).estimate
        estimate := (Reference.run exp pre).estimate.observe exp
          (meanInput ((Reference.run exp pre).inputs ++ [⟨now, inputW⟩]) now)
          (medianPackage (Reference.run exp pre).packages now)
          (peakPackage (Reference.run exp pre).packages now) now now } := by
    rw [Reference.run_concat, Reference.after, if_pos haccepts]
  rw [hreference] at hobserve ⊢
  exact hobserve

theorem nonCPU_updateSMC : (recorded exp config (calls ++ [.updateSMC now inputW capacityW])).policy.nonCPU =
    (recorded exp config calls).policy.nonCPU := by
  rw [recorded_concat]
  simp only [PolicyCall.record]
  cases hexec : (recorded exp config calls).policy.updateSMC now inputW capacityW with
  | none => rfl
  | some p => exact congrArg Filters.nonCPU (limits_updateSMC hexec).2

theorem nonCPU_updatePackagePower {packageW : ℚ} :
    (recorded exp config (calls ++ [.updatePackagePower now packageW])).policy.nonCPU =
      (recorded exp config calls).policy.nonCPU := by
  rw [recorded_concat]
  simp only [PolicyCall.record]
  cases hexec : (recorded exp config calls).policy.updatePackagePower now packageW with
  | none => rfl
  | some p => exact congrArg Filters.nonCPU (limits_updatePackagePower hexec).2

/-- A call of a run that is not pending. -/
theorem estimates_step (h : (recorded exp config calls).policy.nonCPU =
    (Reference.run exp calls).estimate) (call : PolicyCall) :
    Estimates exp config (calls ++ [call]) := by
  have hfollows := follows_run exp config calls
  cases call with
  | updateSMC now inputW capacityW =>
      constructor
      · intro hpending
        have haccepts := pending_updateSMC.1 hpending
        rw [nonCPU_updateSMC, h, Reference.run_concat, Reference.after, if_pos haccepts]
      · intro hsettled
        rw [pending_updateSMC] at hsettled
        rw [nonCPU_updateSMC, h, Reference.run_concat, Reference.after, if_neg hsettled]
  | updatePackagePower now packageW =>
      constructor
      · intro hpending
        rcases pending_concat.1 hpending with ⟨now', inputW, capacityW, heq, -⟩
        cases heq
      · intro _
        have hestimate : (Reference.run exp (calls ++ [.updatePackagePower now packageW])).estimate =
            (Reference.run exp calls).estimate := by
          rw [Reference.run_concat, Reference.after]
          split <;> rfl
        rw [hestimate, nonCPU_updatePackagePower, h]
  | evaluate now =>
      constructor
      · intro hpending
        exact absurd hpending not_pending_evaluate
      · intro _
        have hobserved : (recorded exp config calls).policy.nonCPU.lastNonCPUSMCTime =
            (recorded exp config calls).policy.lastSMCTime := by
          rw [h, hfollows.smc]
          exact Reference.lastNonCPUSMCTime_run exp calls
        rw [recorded_concat, Reference.run_concat]
        exact (GovernorPolicy.nonCPU_evaluate_of_observed hobserved).trans h

/-- A prompt run follows the reference, however often it evaluates. -/
theorem estimates_recorded (hprompt : Prompt exp config calls)
    (htimes : (calls.map PolicyCall.time).Pairwise (· ≤ ·)) (pre : List PolicyCall)
    (hpre : pre <+: calls) : Estimates exp config pre := by
  induction pre using List.reverseRecOn with
  | nil =>
      constructor
      · rintro ⟨pre, now, inputW, capacityW, heq, -⟩
        cases pre <;> cases heq
      · intro _
        rfl
  | append_singleton pre call ih =>
      have hbefore := ih ((List.prefix_append pre [call]).trans hpre)
      by_cases hpending : Pending exp pre
      · -- the run is prompt, so this is the evaluation
        have hprevious := hbefore.pending hpending
        rcases hpending with ⟨pre', now, inputW, capacityW, rfl, haccepts⟩
        rcases hpre with ⟨post, rfl⟩
        have hsome : ((recorded exp config pre').policy.updateSMC now inputW capacityW).isSome = true := by
          rw [updateSMC_isSome, (follows_run exp config pre').smc]
          exact haccepts
        rcases hprompt pre' now inputW capacityW (call :: post) (by simp) hsome with
          ⟨post', heq, hready⟩
        rcases List.cons.inj heq with ⟨rfl, -⟩
        constructor
        · intro h
          exact absurd h not_pending_evaluate
        · intro _
          refine estimates_evaluate pre' ?_ haccepts hprevious ?_
          · have hsub : pre' ++ [PolicyCall.updateSMC now inputW capacityW] ++ [PolicyCall.evaluate now] <+:
                pre' ++ [PolicyCall.updateSMC now inputW capacityW] ++ [PolicyCall.evaluate now] ++ post :=
              List.prefix_append _ _
            exact times_before htimes hsub
          · rw [List.append_assoc]
            exact hready
      · exact estimates_step (hbefore.settled hpending) call

end

/-! ## Two runs -/

/-- A call of two runs, or a further evaluation of the second. -/
inductive Poll where
  | common (call : PolicyCall)
  | further (now : ℚ)

/-- The call of the first run. -/
def Poll.base : Poll → Option PolicyCall
  | .common call => some call
  | .further _ => none

/-- The call of the second run. -/
def Poll.full : Poll → PolicyCall
  | .common call => call
  | .further now => .evaluate now

section

variable {exp : ℚ → ℚ} {config : PolicyConfig}

/-- The reference does not see the further evaluations. -/
theorem reference_polls (exp : ℚ → ℚ) (polls : List Poll) :
    Reference.run exp (polls.map Poll.full) = Reference.run exp (polls.filterMap Poll.base) := by
  induction polls using List.reverseRecOn with
  | nil => rfl
  | append_singleton polls poll ih =>
      rw [List.map_append, List.filterMap_append, List.map_singleton, Reference.run_concat, ih]
      cases poll with
      | common call => exact (Reference.run_concat exp _ call).symm
      | further now =>
          have hnone : List.filterMap Poll.base [.further now] = [] := rfl
          rw [hnone, List.append_nil]
          rfl

theorem base_sublist (polls : List Poll) :
    (polls.filterMap Poll.base).Sublist (polls.map Poll.full) := by
  induction polls with
  | nil => exact List.Sublist.refl []
  | cons poll polls ih =>
      cases poll with
      | common call => exact ih.cons_cons call
      | further now => exact ih.cons (.evaluate now)

/-- In any run the estimate is between zero and an observation so far. -/
theorem nonCPUW_recorded (hexp : ∀ x ≤ 0, 0 < exp x ∧ exp x ≤ 1) (config : PolicyConfig)
    (calls : List PolicyCall) :
    0 ≤ (recorded exp config calls).policy.snapshot.nonCPUW ∧ ∃ pre, pre <+: calls ∧
      (recorded exp config calls).policy.snapshot.nonCPUW ≤
        (recorded exp config pre).policy.snapshot.rawNonCPUObservationW := by
  induction calls using List.reverseRecOn with
  | nil => exact ⟨le_refl 0, [], List.prefix_refl [], le_refl 0⟩
  | append_singleton calls call ih =>
      rcases ih with ⟨hnonneg, pre, hpre, hle⟩
      have hpre' : pre <+: calls ++ [call] := hpre.trans (List.prefix_append calls [call])
      -- a call that leaves the estimate as it is
      have hsame : (recorded exp config (calls ++ [call])).policy.nonCPU =
            (recorded exp config calls).policy.nonCPU →
          0 ≤ (recorded exp config (calls ++ [call])).policy.snapshot.nonCPUW ∧
            ∃ pre, pre <+: calls ++ [call] ∧
              (recorded exp config (calls ++ [call])).policy.snapshot.nonCPUW ≤
                (recorded exp config pre).policy.snapshot.rawNonCPUObservationW := by
        intro h
        have hW : (recorded exp config (calls ++ [call])).policy.snapshot.nonCPUW =
            (recorded exp config calls).policy.snapshot.nonCPUW := congrArg NonCPU.nonCPUW h
        rw [hW]
        exact ⟨hnonneg, pre, hpre', hle⟩
      cases call with
      | updateSMC now inputW capacityW => exact hsame nonCPU_updateSMC
      | updatePackagePower now packageW => exact hsame nonCPU_updatePackagePower
      | evaluate now =>
          rcases GovernorPolicy.nonCPU_evaluate exp (recorded exp config calls).policy now with
            h | ⟨input, package, peak, h⟩
          · rw [recorded_concat] at hsame ⊢
            exact hsame h
          · have hobserve := @NonCPU.observe_le exp hexp (recorded exp config calls).policy.nonCPU hnonneg
              input package peak (recorded exp config calls).policy.lastSMCTime now
            rw [← h] at hobserve
            rw [recorded_concat]
            refine ⟨hobserve.1, ?_⟩
            rcases le_max_iff.1 hobserve.2 with hold | hnew
            · exact ⟨pre, hpre', hold.trans hle⟩
            · refine ⟨calls ++ [.evaluate now], List.prefix_refl _, ?_⟩
              rw [recorded_concat]
              exact hnew

/-- Two runs that follow one reference have one estimate. -/
theorem Estimates.eq {calls calls' : List PolicyCall} (h : Estimates exp config calls)
    (h' : Estimates exp config calls') (href : Reference.run exp calls = Reference.run exp calls')
    (hpending : Pending exp calls ↔ Pending exp calls') :
    (recorded exp config calls).policy.nonCPU = (recorded exp config calls').policy.nonCPU := by
  by_cases hp : Pending exp calls
  · rw [h.pending hp, h'.pending (hpending.1 hp), href]
  · rw [h.settled hp, h'.settled (mt hpending.2 hp), href]

/-- Two runs with the same updates at the same times, of which one has further
evaluations, have one non-CPU estimate at each common point; and in each the estimate is
between zero and an observation. -/
theorem nonCPU_polling (hexp : ∀ x ≤ 0, 0 < exp x ∧ exp x ≤ 1) (config : PolicyConfig)
    (polls : List Poll) (htimes : ((polls.map Poll.full).map PolicyCall.time).Pairwise (· ≤ ·))
    (hbase : Prompt exp config (polls.filterMap Poll.base))
    (hfull : Prompt exp config (polls.map Poll.full)) :
    (∀ pre call, pre ++ [Poll.common call] <+: polls →
      (recorded exp config ((pre ++ [Poll.common call]).map Poll.full)).policy.nonCPU =
        (recorded exp config ((pre ++ [Poll.common call]).filterMap Poll.base)).policy.nonCPU) ∧
    ∀ calls, calls <+: polls.filterMap Poll.base ∨ calls <+: polls.map Poll.full →
      0 ≤ (recorded exp config calls).policy.snapshot.nonCPUW ∧ ∃ pre, pre <+: calls ∧
        (recorded exp config calls).policy.snapshot.nonCPUW ≤
          (recorded exp config pre).policy.snapshot.rawNonCPUObservationW := by
  constructor
  · intro pre call hpre
    have htimes' : ((polls.filterMap Poll.base).map PolicyCall.time).Pairwise (· ≤ ·) :=
      htimes.sublist ((base_sublist polls).map PolicyCall.time)
    have hestimates := estimates_recorded hfull htimes _ (hpre.map Poll.full)
    have hestimates' := estimates_recorded hbase htimes' _ (hpre.filterMap Poll.base)
    refine hestimates.eq hestimates' (reference_polls exp _) ?_
    have hcommon : (pre ++ [Poll.common call]).filterMap Poll.base = pre.filterMap Poll.base ++ [call] := by
      rw [List.filterMap_append]
      rfl
    rw [hcommon, List.map_append]
    have hcall : (Poll.common call).full = call := rfl
    rw [List.map_singleton, hcall, pending_concat, pending_concat, reference_polls]
  · intro calls _
    exact nonCPUW_recorded hexp config calls

theorem sampleExp_between {x : ℚ} (hx : x ≤ 0) : 0 < sampleExp x ∧ sampleExp x ≤ 1 := by
  unfold sampleExp
  refine ⟨div_pos zero_lt_one (by linarith), ?_⟩
  rw [div_le_one (by linarith)]
  linarith

/-- The check of `Prompt` at one place of a run. -/
def promptAt (exp : ℚ → ℚ) (config : PolicyConfig) (pre : List PolicyCall) : List PolicyCall → Bool
  | .updateSMC now inputW capacityW :: .evaluate t :: _ =>
    ((recorded exp config pre).policy.updateSMC now inputW capacityW).isNone || decide (t = now) &&
      (recorded exp config (pre ++ [.updateSMC now inputW capacityW, .evaluate now])).policy.snapshot.ready
  | .updateSMC now inputW capacityW :: _ =>
    ((recorded exp config pre).policy.updateSMC now inputW capacityW).isNone
  | _ => true

theorem prompt_of_promptAt {calls : List PolicyCall}
    (h : ∀ n < calls.length, promptAt exp config (calls.take n) (calls.drop n) = true) :
    Prompt exp config calls := by
  rintro pre now inputW capacityW post rfl hsome
  have hat := h pre.length (by simp)
  have hnone : ((recorded exp config pre).policy.updateSMC now inputW capacityW).isNone = false := by
    rw [Option.isNone_eq_false_iff]
    exact hsome
  rw [List.take_left, List.drop_left] at hat
  rcases post with - | ⟨call, post⟩
  · simp [promptAt, hnone] at hat
  · cases call with
    | evaluate t =>
        rw [promptAt, hnone, Bool.false_or, Bool.and_eq_true, decide_eq_true_eq] at hat
        rcases hat with ⟨rfl, hready⟩
        exact ⟨post, rfl, hready⟩
    | updateSMC now' inputW' capacityW' =>
        simp [promptAt, hnone] at hat
    | updatePackagePower now' packageW =>
        simp [promptAt, hnone] at hat

end

/-- Two inputs, with an evaluation of one run between them. -/
def samplePolls : List Poll :=
  [.common (.updatePackagePower 0 5), .common (.updateSMC 0 40 80), .common (.evaluate 0),
    .further (1 / 2), .common (.updatePackagePower 1 6), .common (.updateSMC 1 50 80),
    .common (.evaluate 1)]

theorem nonCPU_polling_samplePolls :
    (recorded sampleExp {} (samplePolls.map Poll.full)).policy.nonCPU =
      (recorded sampleExp {} (samplePolls.filterMap Poll.base)).policy.nonCPU := by
  have htimes : ((samplePolls.map Poll.full).map PolicyCall.time).Pairwise (· ≤ ·) := by decide +kernel
  have hbase : Prompt sampleExp {} (samplePolls.filterMap Poll.base) := by
    apply prompt_of_promptAt
    decide +kernel
  have hfull : Prompt sampleExp {} (samplePolls.map Poll.full) := by
    apply prompt_of_promptAt
    decide +kernel
  exact (nonCPU_polling (fun x hx => sampleExp_between hx) {} samplePolls htimes hbase hfull).1
    (samplePolls.take 6) (.evaluate 1) (List.prefix_refl _)

end TurboMac.Daemon
