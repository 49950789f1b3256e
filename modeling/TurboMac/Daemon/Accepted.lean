import Mathlib.Data.List.Infix
import TurboMac.Daemon.Band

/-! # What the policy has accepted

The queues of the policy hold what it has accepted, up to what their windows no
longer see. So what it filters is a matter of the samples and of the time: the
input is the mean of one second, the package power the median of one second out
of a queue of two.
-/

namespace TurboMac.Daemon

open Window

/-! ## What `evaluate` filters -/

/-- The filters of the policy: the package power, and the non-CPU estimate with what
it was last updated from. -/
structure Filters where
  filteredPackageW : ℚ
  nonCPUW : ℚ
  rawNonCPUObservationW : ℚ
  nonCPUObservationW : ℚ
  nonCPUInitialized : Bool
  lastNonCPUTime : ℚ
  lastNonCPUSMCTime : ℚ

namespace GovernorPolicy

variable {exp : ℚ → ℚ} {p p' : GovernorPolicy} {clock now : ℚ}

def filters (p : GovernorPolicy) : Filters where
  filteredPackageW := p.snapshot.filteredPackageW
  nonCPUW := p.snapshot.nonCPUW
  rawNonCPUObservationW := p.snapshot.rawNonCPUObservationW
  nonCPUObservationW := p.snapshot.nonCPUObservationW
  nonCPUInitialized := p.nonCPUInitialized
  lastNonCPUTime := p.lastNonCPUTime
  lastNonCPUSMCTime := p.lastNonCPUSMCTime

theorem filters_updateBand (p : GovernorPolicy) : (p.updateBand now).filters = p.filters := by
  obtain ⟨_, _, _, _, _, _, hframe⟩ := p.updateBand_frame now
  rw [hframe]
  rfl

/-- Of a ready evaluation only the update of the non-CPU estimate filters. -/
theorem filters_evaluate (hnow : 0 ≤ now) : (p.evaluate exp now).filters =
    if (p.refresh now).snapshot.ready = true then ((p.refresh now).updateNonCPU exp now).filters
    else (p.refresh now).filters := by
  unfold evaluate
  rw [if_neg (not_lt.2 hnow)]
  dsimp only
  by_cases hready : (p.refresh now).snapshot.ready = true
  · rw [if_neg (by simp [hready]), if_pos hready]
    have hlimits : ∀ q : GovernorPolicy, (q.updateLimits now).flagOverBudget.filters = q.filters :=
      fun _ => rfl
    have hpredict : ∀ q : GovernorPolicy, q.predict.filters = q.filters := fun _ => rfl
    rw [hlimits, filters_updateBand, hpredict]
  · rw [if_pos (Bool.eq_false_iff.2 hready), if_neg hready]

theorem filteredPackageW_updateNonCPU (p : GovernorPolicy) :
    (p.updateNonCPU exp now).snapshot.filteredPackageW = p.snapshot.filteredPackageW := by
  unfold updateNonCPU
  split <;> rfl

theorem evaluate_filteredPackageW (hnow : 0 ≤ now) :
    (p.evaluate exp now).snapshot.filteredPackageW = (p.refresh now).snapshot.filteredPackageW := by
  have hfilters : (p.evaluate exp now).snapshot.filteredPackageW =
      (p.evaluate exp now).filters.filteredPackageW := rfl
  rw [hfilters, filters_evaluate hnow]
  split
  · exact filteredPackageW_updateNonCPU _
  · rfl

end GovernorPolicy

/-! ## Runs -/

/-- A policy, and what it has accepted of inputs and package powers, oldest first. -/
structure Recorded where
  policy : GovernorPolicy
  inputs : List Sample
  packages : List Sample

def PolicyCall.record (exp : ℚ → ℚ) (call : PolicyCall) (r : Recorded) : Recorded :=
  match call with
  | .updateSMC now inputW capacityW =>
    match r.policy.updateSMC now inputW capacityW with
    | some policy => { r with policy := policy, inputs := r.inputs ++ [⟨now, inputW⟩] }
    | none => r
  | .updatePackagePower now packageW =>
    match r.policy.updatePackagePower now packageW with
    | some policy => { r with policy := policy, packages := r.packages ++ [⟨now, packageW⟩] }
    | none => r
  | .evaluate now => { r with policy := r.policy.evaluate exp now }

/-- The policy after a reset and some calls, the first of them first. -/
def recorded (exp : ℚ → ℚ) (config : PolicyConfig) (calls : List PolicyCall) : Recorded :=
  calls.foldl (fun r call => call.record exp r) ⟨.reset config, [], []⟩

theorem recorded_concat (exp : ℚ → ℚ) (config : PolicyConfig) (calls : List PolicyCall)
    (call : PolicyCall) :
    recorded exp config (calls ++ [call]) = call.record exp (recorded exp config calls) := by
  rw [recorded, List.foldl_append]
  rfl

/-- The queues hold what has been accepted by `clock`, as far as their windows see it. -/
structure Recorded.Faithful (clock : ℚ) (r : Recorded) : Prop where
  inputs : Recent inputWindowSeconds clock r.inputs r.policy.inputSamples
  packages : Recent packageAlignmentWindowSeconds clock r.packages r.policy.packageSamples
  inputOrder : Ordered r.inputs
  packageOrder : Ordered r.packages
  inputPast : ∀ s ∈ r.inputs, s.time ≤ clock
  packagePast : ∀ s ∈ r.packages, s.time ≤ clock
  powers : ∀ s ∈ r.packages, 0 ≤ s.value

theorem faithful_reset (config : PolicyConfig) (clock : ℚ) :
    Recorded.Faithful clock ⟨.reset config, [], []⟩ := by
  constructor
  · exact recent_nil
  · exact recent_nil
  · exact List.Pairwise.nil
  · exact List.Pairwise.nil
  all_goals simp

theorem Recorded.Faithful.wait {clock now : ℚ} {r : Recorded} (h : r.Faithful clock)
    (hclock : clock ≤ now) : r.Faithful now :=
  ⟨h.inputs.wait hclock, h.packages.wait hclock, h.inputOrder, h.packageOrder,
    fun s hs => (h.inputPast s hs).trans hclock, fun s hs => (h.packagePast s hs).trans hclock,
    h.powers⟩

/-- A sample at the back of what has been accepted. -/
theorem past_push {clock now : ℚ} {samples : List Sample} (hpast : ∀ s ∈ samples, s.time ≤ clock)
    (hclock : clock ≤ now) (value : ℚ) : ∀ s ∈ samples ++ [⟨now, value⟩], s.time ≤ now := by
  intro s hs
  rcases List.mem_append.1 hs with hs | hs
  · exact (hpast s hs).trans hclock
  · rw [List.mem_singleton.1 hs]

theorem PolicyCall.faithful_record (exp : ℚ → ℚ) (call : PolicyCall) {clock : ℚ} {r : Recorded}
    (h : r.Faithful clock) (hclock : clock ≤ call.time) : (call.record exp r).Faithful call.time := by
  have hwait := h.wait hclock
  cases call with
  | updateSMC now inputW capacityW =>
      simp only [PolicyCall.record]
      cases hexec : r.policy.updateSMC now inputW capacityW with
      | none => exact hwait
      | some p =>
          unfold GovernorPolicy.updateSMC at hexec
          split at hexec
          · cases hexec
          cases hexec
          refine ⟨?_, hwait.packages.expire (le_refl now), ?_, hwait.packageOrder, ?_,
            hwait.packagePast, hwait.powers⟩
          · exact (hwait.inputs.push ⟨now, inputW⟩).expire (le_refl now)
          · exact hwait.inputOrder.push hwait.inputPast
          · exact past_push h.inputPast hclock inputW
  | updatePackagePower now packageW =>
      simp only [PolicyCall.record]
      cases hexec : r.policy.updatePackagePower now packageW with
      | none => exact hwait
      | some p =>
          unfold GovernorPolicy.updatePackagePower at hexec
          split at hexec
          · cases hexec
          rename_i haccepted
          cases hexec
          refine ⟨hwait.inputs, hwait.packages.push ⟨now, packageW⟩, hwait.inputOrder, ?_,
            hwait.inputPast, ?_, ?_⟩
          · exact hwait.packageOrder.push hwait.packagePast
          · exact past_push h.packagePast hclock packageW
          · intro s hs
            rcases List.mem_append.1 hs with hs | hs
            · exact h.powers s hs
            · -- `validPower` admits none below zero
              rw [List.mem_singleton.1 hs]
              simp only [validPower, not_or, decide_eq_false_iff_not, not_not] at haccepted
              exact haccepted.2.2.1
  | evaluate now =>
      simp only [PolicyCall.record]
      by_cases hnow : 0 ≤ now
      · have hevidence := (GovernorPolicy.sameReadiness_evaluate exp r.policy hnow).evidence
        have hinput : (r.policy.evaluate exp now).inputSamples =
            expire inputWindowSeconds now r.policy.inputSamples := congrArg Evidence.inputSamples hevidence
        have hpackage : (r.policy.evaluate exp now).packageSamples =
            expire packageAlignmentWindowSeconds now r.policy.packageSamples :=
          congrArg Evidence.packageSamples hevidence
        refine ⟨?_, ?_, hwait.inputOrder, hwait.packageOrder, hwait.inputPast, hwait.packagePast,
          hwait.powers⟩
        · rw [hinput]
          exact hwait.inputs.expire (le_refl now)
        · rw [hpackage]
          exact hwait.packages.expire (le_refl now)
      · unfold GovernorPolicy.evaluate
        rw [if_pos (not_le.1 hnow)]
        exact ⟨hwait.inputs, hwait.packages, hwait.inputOrder, hwait.packageOrder, hwait.inputPast,
          hwait.packagePast, hwait.powers⟩

/-- In a run with nondecreasing times, before a call at `now`. -/
theorem faithful_recorded (exp : ℚ → ℚ) (config : PolicyConfig) (calls : List PolicyCall) {now : ℚ}
    (htimes : (calls.map PolicyCall.time ++ [now]).Pairwise (· ≤ ·)) :
    (recorded exp config calls).Faithful now := by
  induction calls using List.reverseRecOn generalizing now with
  | nil => exact faithful_reset config now
  | append_singleton calls call ih =>
      rw [List.map_append, List.pairwise_append] at htimes
      have hlast : call.time ≤ now :=
        htimes.2.2 call.time (List.mem_append_right _ (List.mem_singleton_self _)) now
          (List.mem_singleton_self _)
      rw [recorded_concat]
      exact (call.faithful_record exp (ih htimes.1) (le_refl _)).wait hlast

/-! ## The filtered package power -/

/-- The package powers of the last `kTelemetryFreshSeconds`. -/
def Recorded.fresh (r : Recorded) (now : ℚ) : List Sample :=
  r.packages.filter fun s => decide (now - s.time ≤ telemetryFreshSeconds)

theorem Recorded.mem_fresh {r : Recorded} {now : ℚ} {s : Sample} :
    s ∈ r.fresh now ↔ s ∈ r.packages ∧ now - s.time ≤ telemetryFreshSeconds := by
  rw [fresh, List.mem_filter, decide_eq_true_eq]

/-- The filter sees the last `kPackageWindowSeconds` of all that was accepted. -/
theorem Recorded.Faithful.filteredPackageW {clock now : ℚ} {r : Recorded} (h : r.Faithful clock)
    (hclock : clock ≤ now) : (r.policy.refresh now).snapshot.filteredPackageW =
      median (r.packages.filter fun s => decide (now - s.time ≤ packageWindowSeconds)) := by
  have hrefresh : (r.policy.refresh now).snapshot.filteredPackageW =
      median ((expire packageAlignmentWindowSeconds now r.policy.packageSamples).filter fun s =>
        decide (s.time ≤ now ∧ now - s.time ≤ packageWindowSeconds)) := rfl
  rw [hrefresh, h.packages now hclock, expire_eq_filter h.packageOrder, List.filter_filter]
  congr 1
  apply List.filter_congr
  intro s hs
  have hpast : s.time ≤ now := (h.packagePast s hs).trans hclock
  have hwindow : now - s.time ≤ packageWindowSeconds →
      now - s.time ≤ packageAlignmentWindowSeconds := by
    intro hage
    exact hage.trans (by decide +kernel)
  rw [← Bool.decide_and]
  apply decide_eq_decide.2
  constructor
  · rintro ⟨⟨-, hage⟩, -⟩
    exact hage
  · intro hage
    exact ⟨⟨hpast, hage⟩, hwindow hage⟩

theorem nonneg_of_ready {exp : ℚ → ℚ} {p : GovernorPolicy} {now : ℚ}
    (h : (p.evaluate exp now).snapshot.ready = true) : 0 ≤ now := by
  unfold GovernorPolicy.evaluate at h
  split at h
  · cases h
  · rename_i hnow
    exact not_lt.1 hnow

/-- Of any ready evaluation of any run, the filtered package power is between the
fresh measurements exactly if one of them is at most a second old, or is zero: the
median of an empty second is zero, below every other power. -/
theorem filtered_package_iff (exp : ℚ → ℚ) (config : PolicyConfig) (calls : List PolicyCall) {now : ℚ}
    (htimes : (calls.map PolicyCall.time ++ [now]).Pairwise (· ≤ ·))
    (hready : ((recorded exp config calls).policy.evaluate exp now).snapshot.ready = true) :
    Within ((recorded exp config calls).fresh now)
        ((recorded exp config calls).policy.evaluate exp now).snapshot.filteredPackageW ↔
      (∃ s ∈ (recorded exp config calls).packages, now - s.time ≤ 1) ∨
        ∃ s ∈ (recorded exp config calls).packages, now - s.time ≤ 2 ∧ s.value = 0 := by
  have hfaithful := faithful_recorded exp config calls htimes
  rw [GovernorPolicy.evaluate_filteredPackageW (nonneg_of_ready hready),
    hfaithful.filteredPackageW (le_refl now)]
  generalize recorded exp config calls = r at hfaithful
  by_cases hempty : r.packages.filter (fun s => decide (now - s.time ≤ packageWindowSeconds)) = []
  · -- nothing in the last second
    have hold : ¬ ∃ s ∈ r.packages, now - s.time ≤ 1 := by
      rintro ⟨s, hs, hage⟩
      have hmem : s ∈ r.packages.filter fun s => decide (now - s.time ≤ packageWindowSeconds) := by
        rw [List.mem_filter, decide_eq_true_eq]
        exact ⟨hs, hage⟩
      rw [hempty] at hmem
      cases hmem
    have hzero : median [] = 0 := rfl
    rw [hempty, hzero, or_iff_right hold]
    constructor
    · rintro ⟨⟨s, hs, hle⟩, -⟩
      rcases Recorded.mem_fresh.1 hs with ⟨hmem, hage⟩
      exact ⟨s, hmem, hage, le_antisymm hle (hfaithful.powers s hmem)⟩
    · rintro ⟨s, hmem, hage, hvalue⟩
      have hs : s ∈ r.fresh now := Recorded.mem_fresh.2 ⟨hmem, hage⟩
      exact ⟨⟨s, hs, hvalue.le⟩, s, hs, hvalue.ge⟩
  · have hsub : ∀ s ∈ r.packages.filter (fun s => decide (now - s.time ≤ packageWindowSeconds)),
        s ∈ r.fresh now := by
      intro s hs
      rw [List.mem_filter, decide_eq_true_eq] at hs
      exact Recorded.mem_fresh.2 ⟨hs.1, hs.2.trans (by decide +kernel)⟩
    have hwithin := (within_median hempty).mono hsub
    rcases List.exists_mem_of_ne_nil _ hempty with ⟨s, hs⟩
    rw [List.mem_filter, decide_eq_true_eq] at hs
    exact iff_of_true hwithin (.inl ⟨s, hs.1, hs.2⟩)

/-- A package power of 50 W, and an input a second and a half later. -/
def lateInput : List PolicyCall := [.updatePackagePower 0 50, .updateSMC (3 / 2) 40 80]

/-- The policy is ready, and its package power is zero. -/
theorem filtered_package_zero :
    let r := recorded sampleExp {} lateInput
    let snapshot := (r.policy.evaluate sampleExp (3 / 2)).snapshot
    snapshot.ready = true ∧ r.fresh (3 / 2) = [⟨0, 50⟩] ∧ snapshot.filteredPackageW = 0 ∧
      ¬ Within (r.fresh (3 / 2)) snapshot.filteredPackageW := by
  intro r snapshot
  have hfresh : r.fresh (3 / 2) = [⟨0, 50⟩] := by decide +kernel
  have hzero : snapshot.filteredPackageW = 0 := by decide +kernel
  refine ⟨by decide +kernel, hfresh, hzero, ?_⟩
  rw [hfresh, hzero]
  rintro ⟨⟨s, hs, hle⟩, -⟩
  rw [List.mem_singleton.1 hs] at hle
  exact absurd hle (by decide)

/-- A second after the package power it is not. -/
theorem filtered_package_second :
    Within ((recorded sampleExp {} [.updatePackagePower 0 50, .updateSMC 1 40 80]).fresh 1)
      ((recorded sampleExp {} [.updatePackagePower 0 50, .updateSMC 1 40 80]).policy.evaluate
        sampleExp 1).snapshot.filteredPackageW := by
  refine (filtered_package_iff sampleExp {} _ ?_ ?_).2 (.inl ⟨⟨0, 50⟩, ?_, ?_⟩)
  · decide +kernel
  · decide +kernel
  · decide +kernel
  · decide +kernel

end TurboMac.Daemon
