import Mathlib.Tactic.Linarith
import TurboMac.Daemon.Policy

/-! # When the policy is ready

Readiness rests on three sample windows and the times of the newest samples. The
windows hold what has been accepted, up to what has expired, so that readiness
is a matter of these times alone.
-/

namespace TurboMac.Daemon

open Window

/-! ## The median -/

/-- Some value is not above the middle, and some not below it. -/
theorem middleValue_between {sorted : List ℚ} (hne : sorted ≠ []) :
    (∃ v ∈ sorted, v ≤ middleValue sorted) ∧ ∃ v ∈ sorted, middleValue sorted ≤ v := by
  have hlength : 0 < sorted.length := List.length_pos_iff.2 hne
  have hget : ∀ n, n < sorted.length → sorted.getD n 0 ∈ sorted := by
    intro n hn
    rw [List.getD_eq_getElem?_getD, List.getElem?_eq_getElem hn]
    exact List.getElem_mem hn
  have hhigh := hget (sorted.length / 2) (by omega)
  have hlow := hget (sorted.length / 2 - 1) (by omega)
  unfold middleValue
  dsimp only
  split
  · -- the mean of two values is between them
    rcases le_total (sorted.getD (sorted.length / 2 - 1) 0) (sorted.getD (sorted.length / 2) 0) with
      hle | hle
    · exact ⟨⟨_, hlow, by linarith⟩, _, hhigh, by linarith⟩
    · exact ⟨⟨_, hhigh, by linarith⟩, _, hlow, by linarith⟩
  · exact ⟨⟨_, hhigh, le_refl _⟩, _, hhigh, le_refl _⟩

/-- A power that is neither below nor above every sample. -/
def Within (samples : List Sample) (power : ℚ) : Prop :=
  (∃ s ∈ samples, s.value ≤ power) ∧ ∃ s ∈ samples, power ≤ s.value

theorem Within.mono {samples samples' : List Sample} {power : ℚ} (h : Within samples power)
    (hsub : ∀ s ∈ samples, s ∈ samples') : Within samples' power := by
  rcases h with ⟨⟨s, hs, hle⟩, s', hs', hle'⟩
  exact ⟨⟨s, hsub s hs, hle⟩, s', hsub s' hs', hle'⟩

theorem within_median {samples : List Sample} (hne : samples ≠ []) :
    Within samples (median samples) := by
  have hsorted : sortedValues samples ≠ [] := by
    rw [← List.length_pos_iff, sortedValues, List.length_insertionSort, List.length_map]
    exact List.length_pos_iff.2 hne
  have hvalue : ∀ v ∈ sortedValues samples, ∃ s ∈ samples, s.value = v := by
    intro v hv
    rw [sortedValues, List.mem_insertionSort, List.mem_map] at hv
    exact hv
  rw [median, if_neg hne]
  rcases middleValue_between hsorted with ⟨⟨low, hlow, hle⟩, high, hhigh, hle'⟩
  rcases hvalue low hlow with ⟨s, hs, rfl⟩
  rcases hvalue high hhigh with ⟨s', hs', rfl⟩
  exact ⟨⟨s, hs, hle⟩, s', hs', hle'⟩

theorem le_median {samples : List Sample} {c : ℚ} (hne : samples ≠ [])
    (h : ∀ s ∈ samples, c ≤ s.value) : c ≤ median samples := by
  rcases (within_median hne).1 with ⟨s, hs, hle⟩
  exact (h s hs).trans hle

/-! ## The samples of one source -/

/-- The queue of a source whose newest accepted sample is of `last`. -/
def Tracked (span last clock : ℚ) (samples : List Sample) : Prop :=
  last = unset ∧ samples = [] ∨ 0 ≤ last ∧ last ≤ clock ∧ Tracks span last clock samples

section

variable {span last clock now : ℚ} {samples : List Sample}

theorem tracked_unset : Tracked span unset clock [] := .inl ⟨rfl, rfl⟩

theorem ne_unset {t : ℚ} (ht : 0 ≤ t) : t ≠ unset := by
  rintro rfl
  exact absurd ht (by decide)

theorem Tracked.wait (h : Tracked span last clock samples) (hclock : clock ≤ now) :
    Tracked span last now samples := by
  rcases h with ⟨rfl, rfl⟩ | ⟨hpos, hle, htracks⟩
  · exact tracked_unset
  · exact .inr ⟨hpos, hle.trans hclock, htracks.wait hclock⟩

theorem Tracked.push (h : Tracked span last clock samples) (hnow : 0 ≤ now) (hclock : clock ≤ now)
    (value : ℚ) : Tracked span now now (samples ++ [⟨now, value⟩]) := by
  refine .inr ⟨hnow, le_refl now, tracks_push ?_ value⟩
  rcases h with ⟨-, rfl⟩ | ⟨-, hle, htracks⟩
  · simp
  · intro s hs
    exact ((htracks.le s hs).trans hle).trans hclock

theorem Tracked.expire (h : Tracked span last clock samples) (hclock : clock ≤ now) :
    Tracked span last now (expire span now samples) := by
  rcases h with ⟨rfl, rfl⟩ | ⟨hpos, hle, htracks⟩
  · exact tracked_unset
  · exact .inr ⟨hpos, hle.trans hclock, htracks.expire hclock⟩

/-- The queue has a sample exactly if the newest one is within its span. -/
theorem Tracked.expire_ne_nil (h : Tracked span last clock samples) (hclock : clock ≤ now)
    (hlast : last ≠ unset) : Window.expire span now samples ≠ [] ↔ now - last ≤ span := by
  rcases h with ⟨hunset, -⟩ | ⟨-, -, htracks⟩
  · exact absurd hunset hlast
  · exact htracks.expire_ne_nil hclock

theorem Tracked.le (h : Tracked span last clock samples) (hlast : last ≠ unset) : last ≤ clock := by
  rcases h with ⟨hunset, -⟩ | ⟨-, hle, -⟩
  · exact absurd hunset hlast
  · exact hle

end

/-! ## The policy -/

/-- What readiness rests on. -/
structure Evidence where
  inputSamples : List Sample
  packageSamples : List Sample
  capacitySamples : List Sample
  lastSMCTime : ℚ
  lastPackageTime : ℚ

def GovernorPolicy.evidence (p : GovernorPolicy) : Evidence :=
  ⟨p.inputSamples, p.packageSamples, p.capacitySamples, p.lastSMCTime, p.lastPackageTime⟩

/-- The queues hold what has been accepted by `clock`, up to what has expired. -/
structure Tracking (clock : ℚ) (e : Evidence) : Prop where
  input : Tracked inputWindowSeconds e.lastSMCTime clock e.inputSamples
  package : Tracked packageAlignmentWindowSeconds e.lastPackageTime clock e.packageSamples
  capacity : Tracked capacityWindowSeconds e.lastSMCTime clock e.capacitySamples
  bounded : ∀ s ∈ e.capacitySamples, 10 ≤ s.value

theorem tracking_reset (config : PolicyConfig) (clock : ℚ) :
    Tracking clock (GovernorPolicy.reset config).evidence :=
  ⟨tracked_unset, tracked_unset, tracked_unset, by simp [GovernorPolicy.evidence, GovernorPolicy.reset]⟩

namespace GovernorPolicy

variable {exp : ℚ → ℚ} {p p' : GovernorPolicy} {clock now : ℚ}

theorem tracking_updateSMC (h : Tracking clock p.evidence) (hclock : clock ≤ now)
    {inputW capacityW : ℚ} (hexec : p.updateSMC now inputW capacityW = some p') :
    Tracking now p'.evidence ∧ p'.lastSMCTime = now ∧ p'.lastPackageTime = p.lastPackageTime := by
  unfold updateSMC at hexec
  split at hexec
  · exact absurd hexec (by simp)
  rename_i haccepted
  simp only [not_or, not_lt] at haccepted
  obtain ⟨hnow, -, -, -, hcapacity⟩ := haccepted
  obtain rfl := Option.some.inj hexec
  refine ⟨⟨?_, ?_, ?_, ?_⟩, rfl, rfl⟩
  · exact (h.input.push hnow hclock inputW).expire (le_refl now)
  · exact h.package.expire hclock
  · exact (h.capacity.push hnow hclock capacityW).expire (le_refl now)
  · intro s hs
    rcases List.mem_append.1 (mem_of_mem_expire hs) with hs | hs
    · exact h.bounded s hs
    · rw [List.mem_singleton.1 hs]
      exact hcapacity

theorem tracking_updatePackagePower (h : Tracking clock p.evidence) (hclock : clock ≤ now)
    {packageW : ℚ} (hexec : p.updatePackagePower now packageW = some p') :
    Tracking now p'.evidence ∧ p'.lastPackageTime = now ∧ p'.lastSMCTime = p.lastSMCTime := by
  unfold updatePackagePower at hexec
  split at hexec
  · exact absurd hexec (by simp)
  rename_i haccepted
  simp only [not_or, not_lt] at haccepted
  obtain rfl := Option.some.inj hexec
  exact ⟨⟨h.input.wait hclock, h.package.push haccepted.1 hclock packageW, h.capacity.wait hclock,
    h.bounded⟩, rfl, rfl⟩

/-! ### `evaluate` -/

/-- The rest of `evaluate` leaves what readiness rests on, and readiness. -/
structure SameReadiness (p p' : GovernorPolicy) : Prop where
  evidence : p'.evidence = p.evidence
  ready : p'.snapshot.ready = p.snapshot.ready

instance : IsPreorder GovernorPolicy SameReadiness where
  refl _ := ⟨rfl, rfl⟩
  trans _ _ _ h h' := ⟨h'.evidence.trans h.evidence, h'.ready.trans h.ready⟩

theorem sameReadiness_updateNonCPU (p : GovernorPolicy) :
    SameReadiness p (p.updateNonCPU exp now) := by
  unfold updateNonCPU
  split
  · exact refl_of SameReadiness p
  · exact ⟨rfl, rfl⟩

/-- The bands move in the band and its timers, and nowhere else. -/
theorem updateBand_frame (p : GovernorPolicy) (now : ℚ) :
    ∃ band guardHigh shedHigh belowShed belowGuard belowCruise, p.updateBand now =
      { p with
        snapshot := { p.snapshot with band := band }
        guardHighSince := guardHigh
        shedHighSince := shedHigh
        belowShedSince := belowShed
        belowGuardSince := belowGuard
        belowCruiseSince := belowCruise } := by
  unfold updateBand
  split
  · exact ⟨_, _, _, _, _, _, rfl⟩
  · unfold switchBand
    dsimp only
    split
    · split
      · exact ⟨_, _, _, _, _, _, rfl⟩
      · split <;> exact ⟨_, _, _, _, _, _, rfl⟩
    · split
      · exact ⟨_, _, _, _, _, _, rfl⟩
      · split <;> exact ⟨_, _, _, _, _, _, rfl⟩
    · split <;> exact ⟨_, _, _, _, _, _, rfl⟩
    · split <;> exact ⟨_, _, _, _, _, _, rfl⟩

theorem sameReadiness_updateBand (p : GovernorPolicy) : SameReadiness p (p.updateBand now) := by
  obtain ⟨_, _, _, _, _, _, hframe⟩ := p.updateBand_frame now
  rw [hframe]
  exact ⟨rfl, rfl⟩

theorem sameReadiness_updateLimits (p : GovernorPolicy) : SameReadiness p (p.updateLimits now) := by
  unfold updateLimits
  exact ⟨rfl, rfl⟩

theorem sameReadiness_evaluate (exp : ℚ → ℚ) (p : GovernorPolicy) (hnow : 0 ≤ now) :
    SameReadiness (p.refresh now) (p.evaluate exp now) := by
  unfold evaluate
  rw [if_neg (not_lt.2 hnow)]
  dsimp only
  split
  · exact refl_of SameReadiness _
  · have hpredict : SameReadiness (p.refresh now) ((p.refresh now).updateNonCPU exp now).predict := by
      have h := @sameReadiness_updateNonCPU exp now (p.refresh now)
      exact ⟨h.evidence, h.ready⟩
    have hlimits := trans_of _ (trans_of _ hpredict (@sameReadiness_updateBand now _))
      (@sameReadiness_updateLimits now _)
    have hflag : ∀ q : GovernorPolicy, SameReadiness q q.flagOverBudget := fun _ => ⟨rfl, rfl⟩
    exact trans_of _ hlimits (hflag _)

theorem tracking_evaluate (exp : ℚ → ℚ) (h : Tracking clock p.evidence) (hclock : clock ≤ now)
    (hnow : 0 ≤ now) : Tracking now (p.evaluate exp now).evidence ∧
      (p.evaluate exp now).lastSMCTime = p.lastSMCTime ∧
      (p.evaluate exp now).lastPackageTime = p.lastPackageTime := by
  have hevidence := (sameReadiness_evaluate exp p hnow).evidence
  have htracking : Tracking now (p.refresh now).evidence := by
    refine ⟨h.input.expire hclock, h.package.expire hclock, h.capacity.expire hclock, ?_⟩
    intro s hs
    exact h.bounded s (mem_of_mem_expire hs)
  refine ⟨hevidence ▸ htracking, ?_, ?_⟩
  · exact congrArg Evidence.lastSMCTime hevidence
  · exact congrArg Evidence.lastPackageTime hevidence

theorem refresh_ready (p : GovernorPolicy) (now : ℚ) :
    (p.refresh now).snapshot.ready = true ↔
      (p.refresh now).inputSamples ≠ [] ∧ (p.refresh now).packageSamples ≠ [] ∧
        (p.refresh now).capacitySamples ≠ [] ∧
        sampleFresh now p.lastSMCTime telemetryFreshSeconds = true ∧
        sampleFresh now p.lastPackageTime telemetryFreshSeconds = true ∧
        0 < median (p.refresh now).capacitySamples := by
  have hready : (p.refresh now).snapshot.ready =
      (decide ((p.refresh now).inputSamples ≠ [] ∧ (p.refresh now).packageSamples ≠ [] ∧
          (p.refresh now).capacitySamples ≠ []) &&
        sampleFresh now p.lastSMCTime telemetryFreshSeconds &&
        sampleFresh now p.lastPackageTime telemetryFreshSeconds &&
        decide (0 < median (p.refresh now).capacitySamples)) := rfl
  rw [hready]
  simp only [Bool.and_eq_true, decide_eq_true_eq, and_assoc]

/-- The policy is ready exactly while its newest input is within the input window
and its newest package power is fresh: the two seconds the input may be old by
`telemetryFreshSeconds` never come to bear. -/
theorem evaluate_ready_iff (exp : ℚ → ℚ) (h : Tracking clock p.evidence) (hclock : clock ≤ now)
    (hnow : 0 ≤ now) : (p.evaluate exp now).snapshot.ready = true ↔
      (p.lastSMCTime ≠ unset ∧ now - p.lastSMCTime ≤ inputWindowSeconds) ∧
        p.lastPackageTime ≠ unset ∧ now - p.lastPackageTime ≤ telemetryFreshSeconds := by
  rw [(sameReadiness_evaluate exp p hnow).ready, refresh_ready]
  simp only [sampleFresh, decide_eq_true_eq]
  constructor
  · rintro ⟨hinput, -, -, ⟨hsmc, -, -⟩, ⟨hpackage, -, hage⟩, -⟩
    exact ⟨⟨hsmc, (h.input.expire_ne_nil hclock hsmc).1 hinput⟩, hpackage, hage⟩
  · rintro ⟨⟨hsmc, hinput⟩, hpackage, hage⟩
    have hcapacity : (p.refresh now).capacitySamples ≠ [] := by
      refine (h.capacity.expire_ne_nil hclock hsmc).2 (le_trans hinput ?_)
      decide
    refine ⟨(h.input.expire_ne_nil hclock hsmc).2 hinput,
      (h.package.expire_ne_nil hclock hpackage).2 hage, hcapacity,
      ⟨hsmc, (h.input.le hsmc).trans hclock, le_trans hinput ?_⟩,
      ⟨hpackage, (h.package.le hpackage).trans hclock, hage⟩, ?_⟩
    · decide
    · have hmedian : 10 ≤ median (p.refresh now).capacitySamples :=
        le_median hcapacity fun s hs => h.bounded s (mem_of_mem_expire hs)
      exact lt_of_lt_of_le (by decide) hmedian

end GovernorPolicy

/-! ## Runs of the policy -/

/-- A call of the policy. -/
inductive PolicyCall where
  | updateSMC (now inputW capacityW : ℚ)
  | updatePackagePower (now packageW : ℚ)
  | evaluate (now : ℚ)

def PolicyCall.time : PolicyCall → ℚ
  | .updateSMC now _ _ | .updatePackagePower now _ | .evaluate now => now

/-- A rational stand-in for `std::exp` at and below zero. -/
def sampleExp (x : ℚ) : ℚ := 1 / (1 - x)

/-- A policy, and when it accepted the newest sample of each source. -/
structure Fed where
  policy : GovernorPolicy
  smc : Option ℚ
  package : Option ℚ

def PolicyCall.after (exp : ℚ → ℚ) (call : PolicyCall) (f : Fed) : Fed :=
  match call with
  | .updateSMC now inputW capacityW =>
    match f.policy.updateSMC now inputW capacityW with
    | some policy => { f with policy := policy, smc := some now }
    | none => f
  | .updatePackagePower now packageW =>
    match f.policy.updatePackagePower now packageW with
    | some policy => { f with policy := policy, package := some now }
    | none => f
  | .evaluate now => { f with policy := f.policy.evaluate exp now }

/-- The policy after some calls, the first of them first. -/
def feed (exp : ℚ → ℚ) (calls : List PolicyCall) (f : Fed) : Fed :=
  calls.foldl (fun f call => call.after exp f) f

/-- The policy tracks what it has accepted. -/
structure Fed.Tracking (clock : ℚ) (f : Fed) : Prop where
  evidence : Daemon.Tracking clock f.policy.evidence
  smc : ∀ t ∈ f.smc, f.policy.lastSMCTime = t ∧ t ≠ unset
  package : ∀ t ∈ f.package, f.policy.lastPackageTime = t ∧ t ≠ unset

theorem PolicyCall.tracking_after (exp : ℚ → ℚ) (call : PolicyCall) {f : Fed} {clock : ℚ}
    (h : f.Tracking clock) (hpos : 0 ≤ clock) (hclock : clock ≤ call.time) :
    (call.after exp f).Tracking call.time := by
  have hwait : f.Tracking call.time :=
    ⟨⟨h.evidence.input.wait hclock, h.evidence.package.wait hclock, h.evidence.capacity.wait hclock,
      h.evidence.bounded⟩, h.smc, h.package⟩
  cases call with
  | updateSMC now inputW capacityW =>
      simp only [PolicyCall.after]
      cases hexec : f.policy.updateSMC now inputW capacityW with
      | none => exact hwait
      | some p =>
          obtain ⟨htracking, hsmc, hpackage⟩ :=
            GovernorPolicy.tracking_updateSMC h.evidence hclock hexec
          refine ⟨htracking, ?_, fun t ht => hpackage ▸ h.package t ht⟩
          intro t ht
          obtain rfl := Option.some.inj ht
          exact ⟨hsmc, ne_unset (hpos.trans hclock)⟩
  | updatePackagePower now packageW =>
      simp only [PolicyCall.after]
      cases hexec : f.policy.updatePackagePower now packageW with
      | none => exact hwait
      | some p =>
          obtain ⟨htracking, hpackage, hsmc⟩ :=
            GovernorPolicy.tracking_updatePackagePower h.evidence hclock hexec
          refine ⟨htracking, fun t ht => hsmc ▸ h.smc t ht, ?_⟩
          intro t ht
          obtain rfl := Option.some.inj ht
          exact ⟨hpackage, ne_unset (hpos.trans hclock)⟩
  | evaluate now =>
      obtain ⟨htracking, hsmc, hpackage⟩ :=
        GovernorPolicy.tracking_evaluate exp h.evidence hclock (hpos.trans hclock)
      exact ⟨htracking, fun t ht => hsmc ▸ h.smc t ht, fun t ht => hpackage ▸ h.package t ht⟩

/-- A run of the policy with nondecreasing times tracks what it has accepted. -/
theorem tracking_feed (exp : ℚ → ℚ) (calls : List PolicyCall) {f : Fed} {clock : ℚ}
    {rest : List ℚ} (h : f.Tracking clock) (hpos : 0 ≤ clock)
    (htimes : (clock :: (calls.map PolicyCall.time ++ rest)).Pairwise (· ≤ ·)) :
    ∃ clock', 0 ≤ clock' ∧ (feed exp calls f).Tracking clock' ∧
      (clock' :: rest).Pairwise (· ≤ ·) := by
  induction calls generalizing f clock with
  | nil => exact ⟨clock, hpos, h, htimes⟩
  | cons call calls ih =>
      rw [List.map_cons, List.cons_append, List.pairwise_cons] at htimes
      have hclock : clock ≤ call.time := htimes.1 _ List.mem_cons_self
      exact ih (call.tracking_after exp h hpos hclock) (hpos.trans hclock) htimes.2

/-- After any run of the policy since its reset, with times `t₁` and `t₂` of the
newest accepted samples, both at most two seconds old: it is ready exactly if
the input is at most one second old. -/
theorem ready_after_feed (exp : ℚ → ℚ) (config : PolicyConfig) (calls : List PolicyCall) {now : ℚ}
    (htimes : (0 :: (calls.map PolicyCall.time ++ [now])).Pairwise (· ≤ ·)) {t₁ t₂ : ℚ}
    (ht₁ : t₁ ∈ (feed exp calls ⟨.reset config, none, none⟩).smc)
    (ht₂ : t₂ ∈ (feed exp calls ⟨.reset config, none, none⟩).package) (hpackage : now - t₂ ≤ 2) :
    ((feed exp calls ⟨.reset config, none, none⟩).policy.evaluate exp now).snapshot.ready = true ↔
      now - t₁ ≤ 1 := by
  have hreset : Fed.Tracking 0 ⟨.reset config, none, none⟩ :=
    ⟨tracking_reset config 0, by simp, by simp⟩
  obtain ⟨clock, hpos, htracking, hlast⟩ := tracking_feed exp calls hreset (le_refl 0) htimes
  have hclock : clock ≤ now := (List.pairwise_cons.1 hlast).1 now List.mem_cons_self
  obtain ⟨hsmc, hsmc'⟩ := htracking.smc t₁ ht₁
  obtain ⟨hpkg, hpkg'⟩ := htracking.package t₂ ht₂
  rw [GovernorPolicy.evaluate_ready_iff exp htracking.evidence hclock (hpos.trans hclock), hsmc, hpkg]
  constructor
  · rintro ⟨⟨-, hage⟩, -⟩
    exact hage
  · intro hage
    exact ⟨⟨hsmc', hage⟩, hpkg', hpackage⟩

end TurboMac.Daemon
