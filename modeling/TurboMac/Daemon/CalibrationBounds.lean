import TurboMac.Daemon.CalibrationTiers

/-! # Whether the driver takes what the calibration asks for

The sweep goes on up to 0.01 W over its ceiling, and the burst search up to 0.01 W over the
captured second limit, whatever the maximum of the driver is. What may be asked for is asked for in
some calibration, and any calibration may end at any of its requests.
-/

namespace TurboMac.Daemon

section

variable {current : Capabilities} {k n : ℕ} {request : ℚ × ℚ} {before : List (ℚ × ℚ)}

/-! ## What the searches ask for -/

/-- A request of the sweep or of the burst search. -/
def Asked (current : Capabilities) (request : ℚ × ℚ) : Prop :=
  ∃ k n, k ≤ current.tiers ∧ (n = 0 ∨ current.Bursts k n) ∧
    request = (current.tierW k, current.tierW (k + n))

/-- In the sweep. -/
structure Sweeping (current : Capabilities) (s : SweepState) : Prop where
  limit : ∃ k, s.limit = current.tierW k
  mapping : ∀ point ∈ s.mapping, ∃ k ≤ current.tiers, point.requestedLimitW = current.tierW k
  requests : ∀ request ∈ s.requests, Asked current request

theorem tierRuns_requests {limit : ℚ} {runs : ℕ} (inputs : List TierRun) {s s' : TierStep}
    (h : tierRuns limit runs inputs s = some s') :
    ∀ request ∈ s'.requests, request = (limit, limit) ∨ request ∈ s.requests := by
  induction runs generalizing inputs s with
  | zero =>
      cases h
      intro request hrequest
      exact .inr hrequest
  | succ runs ih =>
      cases inputs with
      | nil => cases h
      | cons input inputs =>
          unfold tierRuns at h
          split at h
          · cases h
            intro request hrequest
            exact .inr hrequest
          · intro request hrequest
            -- the request of this run, or an earlier or later one
            have hmem : request = (limit, limit) ∨ request ∈ (limit, limit) :: s.requests := by
              cases hresult : input.outcome.result with
              | abort =>
                  rw [hresult] at h
                  cases h
                  exact .inr hrequest
              | softCeiling =>
                  rw [hresult] at h
                  cases h
                  exact .inr hrequest
              | complete =>
                  rw [hresult] at h
                  exact ih inputs h request hrequest
            rcases hmem with heq | hmem
            · exact .inl heq
            · exact List.mem_cons.mp hmem

theorem tier_cases (s : SweepState) (statistics : LoadStatistics) (accepted : Bool) :
    ((s.tier statistics accepted).2.limit = s.limit ∨ (s.tier statistics accepted).2.limit = s.limit + 2) ∧
    (s.tier statistics accepted).2.requests = s.requests ∧
    ∀ point ∈ (s.tier statistics accepted).2.mapping,
      point ∈ s.mapping ∨ point.requestedLimitW = s.limit := by
  have happend : ∀ point ∈ s.mapping ++ [⟨s.limit, statistics.averagePackage, statistics.averageInput⟩],
      point ∈ s.mapping ∨ point.requestedLimitW = s.limit := by
    intro point hpoint
    rcases List.mem_append.mp hpoint with hpoint | hpoint
    · exact .inl hpoint
    · rw [List.mem_singleton] at hpoint
      rw [hpoint]
      exact .inr rfl
  unfold SweepState.tier
  generalize (if s.responsiveFloor = 0 then s.limit else s.responsiveFloor) = responsiveFloor
  dsimp only
  split_ifs
  · exact ⟨.inr rfl, rfl, fun point hpoint => .inl hpoint⟩
  · exact ⟨.inl rfl, rfl, fun point hpoint => .inl hpoint⟩
  · exact ⟨.inl rfl, rfl, happend⟩
  · exact ⟨.inl rfl, rfl, happend⟩
  · exact ⟨.inr rfl, rfl, happend⟩

theorem sweeping_sweep (inputs : List TierInput) {s s' : SweepState} (hs : Sweeping current s)
    (h : sweep current.sweepCeiling inputs s = some s') : Sweeping current s' := by
  induction inputs generalizing s with
  | nil => cases h
  | cons input inputs ih =>
      unfold sweep at h
      split at h
      · cases h
        exact hs
      rename_i htest
      rw [not_or, not_lt] at htest
      split at h
      · cases h
        exact ⟨hs.limit, hs.mapping, hs.requests⟩
      obtain ⟨k, hlimitW⟩ := hs.limit
      have hk : k ≤ current.tiers := by
        rw [hlimitW] at htest
        exact le_tiers htest.1
      obtain ⟨step, hruns, h⟩ := Option.bind_eq_some_iff.mp h
      have hrequests : ∀ request ∈ step.requests, Asked current request := by
        intro request hrequest
        rcases tierRuns_requests input.runs hruns request hrequest with rfl | hold
        · exact ⟨k, 0, hk, .inl rfl, by rw [hlimitW]; rfl⟩
        · exact hs.requests request hold
      dsimp only at h
      split at h
      · cases h
        exact ⟨hs.limit, hs.mapping, hrequests⟩
      · have htier := tier_cases { s with error := step.error, requests := step.requests } step.statistics
          input.accepted
        obtain ⟨hlimit, hsame, hmapping⟩ := htier
        have hnext : Sweeping current (SweepState.tier { s with error := step.error, requests := step.requests }
            step.statistics input.accepted).2 := by
          refine ⟨?_, ?_, ?_⟩
          · rcases hlimit with hlimit | hlimit
            · rw [hlimit]
              exact hs.limit
            · refine ⟨k + 1, ?_⟩
              rw [hlimit, hlimitW, ← tierW_add]
              norm_num
          · intro point hpoint
            rcases hmapping point hpoint with hold | hnew
            · exact hs.mapping point hold
            · exact ⟨k, hk, hnew.trans hlimitW⟩
          · rw [hsame]
            exact hrequests
        split at h
        · exact ih hnext h
        · cases h
          exact hnext

/-! ### The burst search -/

theorem burstBase_mem (mapping : List CalibrationPoint) (guardW reserveW : ℚ)
    (hpos : 0 < calibrationBurstBase mapping guardW reserveW) :
    ∃ point ∈ mapping, calibrationBurstBase mapping guardW reserveW = point.requestedLimitW := by
  unfold calibrationBurstBase at hpos ⊢
  split at hpos
  · exact absurd hpos (lt_irrefl 0)
  rename_i hguard
  rw [if_neg hguard]
  -- what is selected is the start of the fold or a point's limit
  have hfold : ∀ (points : List CalibrationPoint) (start : ℚ), (points ⊆ mapping) →
      points.foldl (fun selected point =>
        if 0 < point.requestedLimitW ∧ point.averageInputW + reserveW ≤ guardW then
          max selected point.requestedLimitW else selected) start = start ∨
      ∃ point ∈ mapping, points.foldl (fun selected point =>
        if 0 < point.requestedLimitW ∧ point.averageInputW + reserveW ≤ guardW then
          max selected point.requestedLimitW else selected) start = point.requestedLimitW := by
    intro points
    induction points with
    | nil => exact fun start _ => .inl rfl
    | cons point points ih =>
        intro start hsubset
        rw [List.cons_subset] at hsubset
        rw [List.foldl_cons]
        rcases ih (if 0 < point.requestedLimitW ∧ point.averageInputW + reserveW ≤ guardW then
          max start point.requestedLimitW else start) hsubset.2 with heq | hmem
        · rw [heq]
          split_ifs
          · rcases max_choice start point.requestedLimitW with hmax | hmax
            · exact .inl hmax
            · exact .inr ⟨point, hsubset.1, hmax⟩
          · exact .inl rfl
        · exact .inr hmem
  rcases hfold mapping 0 (List.Subset.refl _) with heq | hmem
  · rw [heq] at hpos
    exact absurd hpos (lt_irrefl 0)
  · exact hmem

theorem burstRuns_spec {burstBase : ℚ} {runs : ℕ} (outcomes : List LoadOutcome) {s s' : BurstState}
    {accepted : Bool} (h : burstRuns burstBase runs outcomes s = some (accepted, s')) :
    s'.burst = s.burst ∧
    ∀ request ∈ s'.requests, request = (burstBase, burstBase + s.burst) ∨ request ∈ s.requests := by
  induction runs generalizing outcomes s with
  | zero =>
      cases h
      exact ⟨rfl, fun request hrequest => .inr hrequest⟩
  | succ runs ih =>
      cases outcomes with
      | nil => cases h
      | cons outcome outcomes =>
          unfold burstRuns at h
          dsimp only at h
          split at h
          · cases h
            exact ⟨rfl, fun request hrequest => List.mem_cons.mp hrequest⟩
          · obtain ⟨hburst, hrequests⟩ := ih outcomes h
            refine ⟨hburst, ?_⟩
            intro request hrequest
            rcases hrequests request hrequest with heq | hmem
            · exact .inl heq
            · exact List.mem_cons.mp hmem

/-- In the burst search, over a tier of the sweep. -/
structure Bursting (current : Capabilities) (s : BurstState) : Prop where
  burst : ∃ n : ℕ, s.burst = 2 * n
  requests : ∀ request ∈ s.requests, Asked current request

theorem bursting_burstSearch {burstBase : ℚ} (hbase : burstBase = current.tierW k)
    (hk : k ≤ current.tiers) (inputs : List (List LoadOutcome)) {s s' : BurstState}
    (hs : Bursting current s)
    (h : burstSearch burstBase (current.burstMaximum burstBase) inputs s = some s') :
    Bursting current s' := by
  induction inputs generalizing s with
  | nil =>
      unfold burstSearch at h
      split at h
      · cases h
        exact hs
      · cases h
  | cons runs inputs ih =>
      unfold burstSearch at h
      split at h
      · cases h
        exact hs
      rename_i htest
      rw [not_lt] at htest
      obtain ⟨⟨accepted, s₁⟩, hruns, h⟩ := Option.bind_eq_some_iff.mp h
      obtain ⟨hburst, hrequests⟩ := burstRuns_spec runs hruns
      obtain ⟨n, hn⟩ := hs.burst
      have hasked : Asked current (burstBase, burstBase + s.burst) := by
        rw [hn, hbase] at htest
        refine ⟨k, n, hk, .inr htest, ?_⟩
        rw [hn, hbase, tierW_add]
      have hall : ∀ request ∈ s₁.requests, Asked current request := by
        intro request hrequest
        rcases hrequests request hrequest with rfl | hold
        · exact hasked
        · exact hs.requests request hold
      dsimp only at h
      split at h
      · cases h
        exact ⟨⟨n, hburst.trans hn⟩, hall⟩
      · have hnext : s₁.burst + 2 = 2 * ((n + 1 : ℕ) : ℚ) := by
          rw [hburst, hn]
          push_cast
          ring
        have hs' : Bursting current { s₁ with burst := s₁.burst + 2, selectedBurst := s₁.burst } :=
          ⟨⟨n + 1, hnext⟩, hall⟩
        exact ih hs' h

/-- Every request of a calibration. -/
theorem asked_calibrate {inputs : CalibrationInputs} {search : CalibrationSearch}
    (h : current.calibrate inputs = some search) : ∀ request ∈ search.requests, Asked current request := by
  unfold Capabilities.calibrate at h
  split at h
  · cases h
    intro request hrequest
    cases hrequest
  obtain ⟨s, hsweep, h⟩ := Option.bind_eq_some_iff.mp h
  have hstart : Sweeping current ⟨current.firstLimit, [], 0, 0, 0, "", []⟩ :=
    ⟨⟨0, (tierW_zero current).symm⟩, by simp, by simp⟩
  have hs := sweeping_sweep inputs.tiers hstart hsweep
  unfold SweepState.search at h
  dsimp only at h
  split at h
  · cases h
    exact hs.requests
  · rename_i hrefused
    simp only [not_or, not_le] at hrefused
    obtain ⟨point, hpoint, hbase⟩ := burstBase_mem s.mapping inputs.guardW _ hrefused.2.2.2
    obtain ⟨k, hk, hlimit⟩ := hs.mapping point hpoint
    obtain ⟨b, hburst, rfl⟩ := Option.map_eq_some_iff.mp h
    have hstart : Bursting current ⟨2, 0, s.worstError, s.error, s.requests⟩ :=
      ⟨⟨1, by norm_num⟩, hs.requests⟩
    exact (bursting_burstSearch (hbase.trans hlimit) hk inputs.bursts hstart hburst).requests

/-! ### A calibration that ends early -/

/-- `setManualLimits` fails. -/
def refused : LoadOutcome := ⟨.abort, "TurboMac driver call failed: 0xe00002c2", {}⟩

theorem tierRuns_cut {limit : ℚ} {runs : ℕ} (inputs : List TierRun) {s s' : TierStep}
    (h : tierRuns limit runs inputs s = some s') (hsuffix : request :: before <:+ s'.requests) :
    request :: before <:+ s.requests ∨ ∃ inputs' statistics, tierRuns limit runs inputs' s =
      some ⟨statistics, true, refused.error, request :: before⟩ := by
  induction runs generalizing inputs s with
  | zero =>
      cases h
      exact .inl hsuffix
  | succ runs ih =>
      cases inputs with
      | nil => cases h
      | cons input inputs =>
          unfold tierRuns at h
          split at h
          · cases h
            exact .inl hsuffix
          rename_i htold
          -- this request, or one before it
          have hhere : request :: before <:+ (limit, limit) :: s.requests →
              request :: before <:+ s.requests ∨ ∃ inputs' statistics,
                tierRuns limit (runs + 1) inputs' s =
                  some ⟨statistics, true, refused.error, request :: before⟩ := by
            intro hsuffix
            rcases List.suffix_cons_iff.mp hsuffix with heq | hold
            · exact .inr ⟨[⟨true, refused⟩], s.statistics, by rw [heq]; rfl⟩
            · exact .inl hold
          cases hresult : input.outcome.result with
          | abort =>
              rw [hresult] at h
              cases h
              exact hhere hsuffix
          | softCeiling =>
              rw [hresult] at h
              cases h
              exact hhere hsuffix
          | complete =>
              rw [hresult] at h
              rcases ih inputs h with hold | ⟨inputs', statistics, hruns⟩
              · exact hhere hold
              · refine .inr ⟨input :: inputs', statistics, ?_⟩
                unfold tierRuns
                rw [if_neg htold, hresult]
                exact hruns

theorem sweep_cut {ceiling : ℚ} (inputs : List TierInput) {s s' : SweepState}
    (h : sweep ceiling inputs s = some s') (hsuffix : request :: before <:+ s'.requests) :
    request :: before <:+ s.requests ∨ ∃ inputs' s'', sweep ceiling inputs' s = some s'' ∧
      s''.error = refused.error ∧ s''.requests = request :: before := by
  induction inputs generalizing s with
  | nil => cases h
  | cons input inputs ih =>
      unfold sweep at h
      split at h
      · cases h
        exact .inl hsuffix
      rename_i htest
      split at h
      · cases h
        exact .inl hsuffix
      rename_i htold
      obtain ⟨step, hruns, h⟩ := Option.bind_eq_some_iff.mp h
      -- a request of this tier, or one before it
      have hhere : request :: before <:+ step.requests →
          request :: before <:+ s.requests ∨ ∃ inputs' s'', sweep ceiling inputs' s = some s'' ∧
            s''.error = refused.error ∧ s''.requests = request :: before := by
        intro hsuffix
        rcases tierRuns_cut input.runs hruns hsuffix with hold | ⟨runs', statistics, hcut⟩
        · exact .inl hold
        · refine .inr ⟨[{ input with runs := runs' }], { s with
            error := refused.error
            requests := request :: before }, ?_, rfl, rfl⟩
          unfold sweep
          rw [if_neg htest, if_neg htold, hcut]
          rfl
      dsimp only at h
      split at h
      · cases h
        exact hhere hsuffix
      rename_i hstop
      obtain ⟨-, hsame, -⟩ := tier_cases { s with error := step.error, requests := step.requests }
        step.statistics input.accepted
      split at h
      · rename_i hcontinues
        rcases ih h with hold | ⟨inputs', s'', hsweep, hends⟩
        · rw [hsame] at hold
          exact hhere hold
        · refine .inr ⟨input :: inputs', s'', ?_, hends⟩
          rw [sweep, if_neg htest, if_neg htold, hruns, Option.bind_some]
          dsimp only
          rw [if_neg hstop, if_pos hcontinues]
          exact hsweep
      · cases h
        rw [hsame] at hsuffix
        exact hhere hsuffix

theorem burstRuns_cut {burstBase : ℚ} {runs : ℕ} (outcomes : List LoadOutcome) {s s' : BurstState}
    {accepted : Bool} (h : burstRuns burstBase runs outcomes s = some (accepted, s'))
    (hsuffix : request :: before <:+ s'.requests) :
    request :: before <:+ s.requests ∨ ∃ outcomes' s'',
      burstRuns burstBase runs outcomes' s = some (false, s'') ∧
        s''.error = refused.error ∧ s''.requests = request :: before := by
  induction runs generalizing outcomes s with
  | zero =>
      cases h
      exact .inl hsuffix
  | succ runs ih =>
      cases outcomes with
      | nil => cases h
      | cons outcome outcomes =>
          have hhere : request :: before <:+ (burstBase, burstBase + s.burst) :: s.requests →
              request :: before <:+ s.requests ∨ ∃ outcomes' s'',
                burstRuns burstBase (runs + 1) outcomes' s = some (false, s'') ∧
                  s''.error = refused.error ∧ s''.requests = request :: before := by
            intro hsuffix
            rcases List.suffix_cons_iff.mp hsuffix with heq | hold
            · exact .inr ⟨[refused], _, rfl, rfl, heq.symm⟩
            · exact .inl hold
          unfold burstRuns at h
          dsimp only at h
          split at h
          · cases h
            exact hhere hsuffix
          · rename_i hcomplete
            rcases ih outcomes h with hold | ⟨outcomes', s'', hruns, hends⟩
            · exact hhere hold
            · refine .inr ⟨outcome :: outcomes', s'', ?_, hends⟩
              unfold burstRuns
              dsimp only
              rw [if_neg hcomplete]
              exact hruns

theorem burstSearch_cut {burstBase burstMaximum : ℚ} (inputs : List (List LoadOutcome))
    {s s' : BurstState} (h : burstSearch burstBase burstMaximum inputs s = some s')
    (hsuffix : request :: before <:+ s'.requests) :
    request :: before <:+ s.requests ∨ ∃ inputs' s'',
      burstSearch burstBase burstMaximum inputs' s = some s'' ∧
        s''.error = refused.error ∧ s''.requests = request :: before := by
  induction inputs generalizing s with
  | nil =>
      unfold burstSearch at h
      split at h
      · cases h
        exact .inl hsuffix
      · cases h
  | cons runs inputs ih =>
      unfold burstSearch at h
      split at h
      · cases h
        exact .inl hsuffix
      rename_i htest
      obtain ⟨⟨accepted, s₁⟩, hruns, h⟩ := Option.bind_eq_some_iff.mp h
      have hhere : request :: before <:+ s₁.requests →
          request :: before <:+ s.requests ∨ ∃ inputs' s'',
            burstSearch burstBase burstMaximum inputs' s = some s'' ∧
              s''.error = refused.error ∧ s''.requests = request :: before := by
        intro hsuffix
        rcases burstRuns_cut runs hruns hsuffix with hold | ⟨runs', s'', hcut, hends⟩
        · exact .inl hold
        · refine .inr ⟨[runs'], s'', ?_, hends⟩
          unfold burstSearch
          rw [if_neg htest, hcut]
          rfl
      dsimp only at h
      split at h
      · cases h
        exact hhere hsuffix
      · rename_i haccepted
        rcases ih h with hold | ⟨inputs', s'', hsearch, hends⟩
        · exact hhere hold
        · refine .inr ⟨runs :: inputs', s'', ?_, hends⟩
          rw [burstSearch, if_neg htest, hruns, Option.bind_some]
          dsimp only
          rw [if_neg haccepted]
          exact hsearch

/-- A calibration may end at any of its requests. -/
theorem calibrate_cut {inputs : CalibrationInputs} {search : CalibrationSearch}
    (h : current.calibrate inputs = some search) (hsuffix : request :: before <:+ search.requests) :
    ∃ inputs' search', current.calibrate inputs' = some search' ∧ search'.error = refused.error ∧
      search'.requests = request :: before := by
  have hnone : ¬ request :: before <:+ [] := by simp
  unfold Capabilities.calibrate at h
  split at h
  · cases h
    exact absurd hsuffix hnone
  rename_i hready
  obtain ⟨s, hsweep, h⟩ := Option.bind_eq_some_iff.mp h
  -- a request of the sweep ends it, and no burst is searched for
  have hhere : request :: before <:+ s.requests →
      ∃ inputs' search', current.calibrate inputs' = some search' ∧ search'.error = refused.error ∧
        search'.requests = request :: before := by
    intro hsuffix
    rcases sweep_cut inputs.tiers hsweep hsuffix with hold | ⟨tiers, s', hcut, herror, hrequests⟩
    · exact absurd hold hnone
    · refine ⟨{ inputs with tiers := tiers }, ⟨s'.mapping, s'.lastSafeLimit, 0, s'.worstError,
        s'.error, s'.requests⟩, ?_, herror, hrequests⟩
      unfold Capabilities.calibrate
      rw [if_neg hready]
      show (sweep current.sweepCeiling tiers _).bind _ = _
      rw [hcut, Option.bind_some]
      unfold SweepState.search
      dsimp only
      rw [if_pos (.inl (by rw [herror]; decide))]
  unfold SweepState.search at h
  dsimp only at h
  split at h
  · cases h
    exact hhere hsuffix
  · rename_i hrefused
    obtain ⟨b, hburst, rfl⟩ := Option.map_eq_some_iff.mp h
    rcases burstSearch_cut inputs.bursts hburst hsuffix with hold | ⟨bursts, b', hcut, herror, hrequests⟩
    · exact hhere hold
    · refine ⟨{ inputs with bursts := bursts }, ⟨s.mapping, s.lastSafeLimit, b'.selectedBurst,
        b'.worstError, b'.error, b'.requests⟩, ?_, herror, hrequests⟩
      unfold Capabilities.calibrate
      rw [if_neg hready]
      show (sweep current.sweepCeiling inputs.tiers _).bind _ = _
      rw [hsweep, Option.bind_some]
      unfold SweepState.search
      dsimp only
      rw [if_neg hrefused, hcut]
      rfl

/-- The first that fails, of a list with the newest in front. -/
theorem exists_first {α : Type} {p : α → Prop} {xs : List α} (h : ∃ x ∈ xs, ¬ p x) :
    ∃ x before, x :: before <:+ xs ∧ ¬ p x ∧ ∀ x' ∈ before, p x' := by
  induction xs with
  | nil => simp at h
  | cons x xs ih =>
      by_cases hlater : ∃ x ∈ xs, ¬ p x
      · obtain ⟨x', before, hsuffix, hfirst⟩ := ih hlater
        exact ⟨x', before, hsuffix.trans (List.suffix_cons x xs), hfirst⟩
      · simp only [not_exists, not_and, not_not] at hlater
        have hx : ¬ p x := by
          intro hx
          obtain ⟨x', hmem, hnot⟩ := h
          rcases List.mem_cons.mp hmem with rfl | hmem
          · exact hnot hx
          · exact hnot (hlater x' hmem)
        exact ⟨x, xs, List.suffix_refl _, hx, hlater⟩

/-! ## What the driver takes -/

theorem accepted_of_fits (h : current.calibratable = true) (hfits : current.CalibrationFits)
    (hasked : Asked current request) :
    current.Accepted (wattsToMW request.1) (wattsToMW request.2) := by
  obtain ⟨k, n, hk, hn, rfl⟩ := hasked
  obtain ⟨hsweep, hbursts⟩ := hfits
  have htier : current.tierMW k ≤ current.sweepCeilingMW := by
    unfold Capabilities.tierMW at hsweep ⊢
    omega
  unfold Capabilities.sweepCeilingMW at htier
  rcases Nat.eq_zero_or_pos n with rfl | hpos
  · rw [accepted_tier_iff h (tierMW_lt h hk)]
    rw [Nat.add_zero]
    omega
  · have hburst : current.Bursts k n := by
      rcases hn with hzero | hburst
      · omega
      · exact hburst
    have hlast := hbursts k hk n (le_five_of_bursts hburst) hpos hburst
    rw [accepted_tier_iff h (tierMW_lt_of_bursts hburst)]
    omega

/-! ## Loads that take the searches to their end -/

/-- A run at its limit, with a peak. -/
def fullRun (limit peak : ℚ) : TierRun where
  told := true
  outcome := ⟨.complete, "", { packageTotal := limit, peakInput := peak, samples := 1 }⟩

def fullTier (limit peak : ℚ) : TierInput where
  stopRequested := false
  told := true
  runs := [fullRun limit peak, fullRun limit peak, fullRun limit peak]
  accepted := true

/-- So many tiers without a peak, and one that ends the sweep. -/
def fullTiers (limit : ℚ) : ℕ → List TierInput
  | 0 => [fullTier limit 48]
  | n + 1 => fullTier limit 0 :: fullTiers (limit + 2) n

/-- The sweep has come to `top`, with nothing but the limits on the input. -/
structure SweptTo (top : ℚ) (s : SweepState) : Prop where
  error : s.error = ""
  worstError : s.worstError = 0
  mapping : ∀ point ∈ s.mapping, 0 < point.requestedLimitW ∧ point.requestedLimitW ≤ top ∧
    point.averageInputW = 0

/-- With the tier at `top` as its last point. -/
structure SweptAt (top : ℚ) (s : SweepState) : Prop extends SweptTo top s where
  last : ∃ point ∈ s.mapping, point.requestedLimitW = top
  request : (top, top) ∈ s.requests
  responsiveFloor : s.responsiveFloor ≠ 0
  lastSafeLimit : s.lastSafeLimit ≠ 0

/-- The runs of such a tier together. -/
def fullStatistics (limit peak : ℚ) : LoadStatistics :=
  let run := (fullRun limit peak).outcome.statistics
  (((({} : LoadStatistics).merge run).merge run).merge run)

theorem averagePackage_full (limit peak : ℚ) : (fullStatistics limit peak).averagePackage = limit := by
  show (if (0 + 1 + 1 + 1 : ℕ) = 0 then (0 : ℚ) else (0 + limit + limit + limit) / ((0 + 1 + 1 + 1 : ℕ) : ℚ)) =
    limit
  rw [if_neg (by omega)]
  push_cast
  ring

theorem averageInput_full (limit peak : ℚ) : (fullStatistics limit peak).averageInput = 0 := by
  show (if (0 + 1 + 1 + 1 : ℕ) = 0 then (0 : ℚ) else (0 + 0 + 0 + 0 : ℚ) / ((0 + 1 + 1 + 1 : ℕ) : ℚ)) = 0
  simp

theorem peakInput_full (limit : ℚ) {peak : ℚ} (h : 0 ≤ peak) :
    (fullStatistics limit peak).peakInput = peak := by
  show max (max (max 0 peak) peak) peak = peak
  simp [h]

theorem tier_full {s : SweepState} {peak : ℚ} (hs : SweptTo s.limit s) (hpos : 5 ≤ s.limit)
    (hpeak : 0 ≤ peak) (hrequest : (s.limit, s.limit) ∈ s.requests) :
    ∃ s', SweptAt s.limit s' ∧ s.tier (fullStatistics s.limit peak) true =
      if 48 ≤ peak then (false, s') else (true, { s' with limit := s.limit + 2 }) := by
  have hresponsive : calibrationTierResponsive s.limit s.limit = true := by
    unfold calibrationTierResponsive
    rw [decide_eq_true_eq]
    refine ⟨by linarith, max_le (by linarith) (by linarith), by linarith⟩
  have hworst : (fullStatistics s.limit peak).worstTransientError = 0 := rfl
  have hfloor : (if s.responsiveFloor = 0 then s.limit else s.responsiveFloor) ≠ 0 := by
    split_ifs with hzero
    · linarith
    · exact hzero
  unfold SweepState.tier
  generalize (if s.responsiveFloor = 0 then s.limit else s.responsiveFloor) = responsiveFloor at hfloor ⊢
  dsimp only
  rw [averagePackage_full, averageInput_full, peakInput_full s.limit hpeak, hresponsive, hworst,
    hs.worstError]
  refine ⟨{ s with
    mapping := s.mapping ++ [⟨s.limit, s.limit, 0⟩]
    worstError := max 0 0
    lastSafeLimit := s.limit
    responsiveFloor := responsiveFloor }, ?_, ?_⟩
  · have hpoint : (⟨s.limit, s.limit, 0⟩ : CalibrationPoint) ∈ s.mapping ++ [⟨s.limit, s.limit, 0⟩] :=
      List.mem_append_right _ List.mem_cons_self
    refine ⟨⟨hs.error, max_self 0, ?_⟩, ⟨_, hpoint, rfl⟩, hrequest, hfloor, by positivity⟩
    intro point hmem
    rcases List.mem_append.mp hmem with hmem | hmem
    · exact hs.mapping point hmem
    · rw [List.mem_singleton] at hmem
      rw [hmem]
      exact ⟨by linarith, le_refl _, rfl⟩
  · by_cases hlast : 48 ≤ peak
    · rw [if_neg (by simp), if_neg (by simp), if_pos (by unfold softCalibrationInputW; linarith),
        if_pos hlast]
    · rw [if_neg (by simp), if_neg (by simp), if_neg (by unfold softCalibrationInputW; linarith),
        if_neg hlast]

theorem sweep_fullTier {ceiling peak : ℚ} {s : SweepState} (inputs : List TierInput)
    (hs : SweptTo s.limit s) (hpos : 5 ≤ s.limit) (htest : s.limit ≤ withTolerance ceiling)
    (hpeak : 0 ≤ peak) :
    ∃ s', SweptAt s.limit s' ∧
      sweep ceiling (fullTier s.limit peak :: inputs) s =
        if 48 ≤ peak then some s' else sweep ceiling inputs { s' with limit := s.limit + 2 } := by
  have hruns : tierRuns s.limit 3 (fullTier s.limit peak).runs ⟨{}, false, s.error, s.requests⟩ =
      some ⟨fullStatistics s.limit peak, false, "",
        (s.limit, s.limit) :: (s.limit, s.limit) :: (s.limit, s.limit) :: s.requests⟩ := rfl
  obtain ⟨s', hs', htier⟩ := tier_full (s := { s with
    error := ""
    requests := (s.limit, s.limit) :: (s.limit, s.limit) :: (s.limit, s.limit) :: s.requests })
    ⟨rfl, hs.worstError, hs.mapping⟩ hpos hpeak List.mem_cons_self
  refine ⟨s', hs', ?_⟩
  have hstopped : (fullTier s.limit peak).stopRequested = false := rfl
  have htold : (fullTier s.limit peak).told = true := rfl
  have haccepted : (fullTier s.limit peak).accepted = true := rfl
  rw [sweep, hstopped, htold, hruns, Option.bind_some, haccepted]
  dsimp only
  rw [if_neg (by simpa using htest), if_neg (by simp), if_neg (by simp), htier]
  by_cases hlast : 48 ≤ peak
  · rw [if_pos hlast, if_pos hlast, if_neg (by simp)]
  · rw [if_neg hlast, if_neg hlast, if_pos rfl]

theorem sweep_fullTiers {ceiling : ℚ} (n : ℕ) {s : SweepState} (hs : SweptTo s.limit s)
    (hpos : 5 ≤ s.limit) (htest : s.limit + 2 * n ≤ withTolerance ceiling) :
    ∃ s', SweptAt (s.limit + 2 * n) s' ∧ sweep ceiling (fullTiers s.limit n) s = some s' := by
  induction n generalizing s with
  | zero =>
      rw [Nat.cast_zero, mul_zero, add_zero] at htest ⊢
      obtain ⟨s', hs', hsweep⟩ := sweep_fullTier [] hs hpos htest (by norm_num : (0 : ℚ) ≤ 48)
      rw [if_pos (le_refl _)] at hsweep
      exact ⟨s', hs', hsweep⟩
  | succ n ih =>
      push_cast at htest ⊢
      have hn : (0 : ℚ) ≤ n := Nat.cast_nonneg n
      obtain ⟨s', hs', hsweep⟩ := sweep_fullTier (fullTiers (s.limit + 2) n) hs hpos
        (by linarith : s.limit ≤ withTolerance ceiling) (le_refl (0 : ℚ))
      rw [if_neg (by norm_num)] at hsweep
      have hnext : SweptTo (s.limit + 2) { s' with limit := s.limit + 2 } := by
        refine ⟨hs'.error, hs'.worstError, ?_⟩
        intro point hmem
        obtain ⟨hpoint, hle, hinput⟩ := hs'.mapping point hmem
        exact ⟨hpoint, by linarith, hinput⟩
      obtain ⟨s'', hs'', hrest⟩ := @ih { s' with limit := s.limit + 2 } hnext (by simp; linarith)
        (by simp; linarith)
      refine ⟨s'', ?_, hsweep.trans hrest⟩
      have htop : s.limit + 2 * (n + 1) = s.limit + 2 + 2 * n := by ring
      rw [htop]
      exact hs''

/-- So many bursts that are accepted, and one that reaches the soft stop. -/
def fullBursts : ℕ → List (List LoadOutcome)
  | 0 => [[⟨.softCeiling, "", {}⟩]]
  | n + 1 => [⟨.complete, "", {}⟩, ⟨.complete, "", {}⟩, ⟨.complete, "", {}⟩] :: fullBursts n

theorem burstSearch_full {burstBase burstMaximum : ℚ} (n : ℕ) {s : BurstState}
    (htest : s.burst + 2 * n ≤ withTolerance burstMaximum) :
    ∃ s', burstSearch burstBase burstMaximum (fullBursts n) s = some s' ∧
      s.requests ⊆ s'.requests ∧ (burstBase, burstBase + (s.burst + 2 * n)) ∈ s'.requests := by
  induction n generalizing s with
  | zero =>
      rw [Nat.cast_zero, mul_zero, add_zero] at htest ⊢
      refine ⟨{ s with error := "", requests := (burstBase, burstBase + s.burst) :: s.requests }, ?_,
        List.subset_cons_self _ _, List.mem_cons_self⟩
      rw [fullBursts, burstSearch, if_neg (not_lt.mpr htest)]
      rfl
  | succ n ih =>
      push_cast at htest ⊢
      have hn : (0 : ℚ) ≤ n := Nat.cast_nonneg n
      obtain ⟨s', hsearch, hsubset, hmem⟩ := @ih { s with
        burst := s.burst + 2
        selectedBurst := s.burst
        worstError := max (max (max s.worstError 0) 0) 0
        error := ""
        requests := (burstBase, burstBase + s.burst) :: (burstBase, burstBase + s.burst) ::
          (burstBase, burstBase + s.burst) :: s.requests } (by simp; linarith)
      refine ⟨s', ?_, ?_, ?_⟩
      · rw [fullBursts, burstSearch, if_neg (by linarith)]
        exact hsearch
      · intro request hrequest
        exact hsubset (List.mem_cons_of_mem _ (List.mem_cons_of_mem _ (List.mem_cons_of_mem _ hrequest)))
      · have hburst : s.burst + 2 * (n + 1) = s.burst + 2 + 2 * n := by ring
        rw [hburst]
        exact hmem

/-- Without a burst the search ends as well. -/
theorem burstSearch_none (burstBase burstMaximum : ℚ) (s : BurstState) :
    ∃ s', burstSearch burstBase burstMaximum (fullBursts 0) s = some s' ∧ s.requests ⊆ s'.requests := by
  by_cases htest : withTolerance burstMaximum < s.burst
  · refine ⟨s, ?_, List.Subset.refl _⟩
    rw [fullBursts, burstSearch, if_pos htest]
  · refine ⟨{ s with error := "", requests := (burstBase, burstBase + s.burst) :: s.requests }, ?_,
      List.subset_cons_self _ _⟩
    rw [fullBursts, burstSearch, if_neg htest]
    rfl

/-- The base of the burst search is the last tier. -/
theorem burstBase_swept {top : ℚ} (htop : 0 ≤ top) {s : SweepState} (hs : SweptAt top s) :
    calibrationBurstBase s.mapping 50 2 = top := by
  have hbounds : ∀ (points : List CalibrationPoint) (start : ℚ), start ≤ top →
      (∀ point ∈ points, 0 < point.requestedLimitW ∧ point.requestedLimitW ≤ top ∧
        point.averageInputW = 0) →
      start ≤ points.foldl (fun selected point =>
        if 0 < point.requestedLimitW ∧ point.averageInputW + 2 ≤ 50 then
          max selected point.requestedLimitW else selected) start ∧
      points.foldl (fun selected point =>
        if 0 < point.requestedLimitW ∧ point.averageInputW + 2 ≤ 50 then
          max selected point.requestedLimitW else selected) start ≤ top ∧
      ∀ point ∈ points, point.requestedLimitW ≤ points.foldl (fun selected point =>
        if 0 < point.requestedLimitW ∧ point.averageInputW + 2 ≤ 50 then
          max selected point.requestedLimitW else selected) start := by
    intro points
    induction points with
    | nil => exact fun start hstart _ => ⟨le_refl _, hstart, by simp⟩
    | cons point points ih =>
        intro start hstart hpoints
        rw [List.forall_mem_cons] at hpoints
        obtain ⟨⟨hpos, hle, hinput⟩, hrest⟩ := hpoints
        rw [List.foldl_cons, if_pos ⟨hpos, by rw [hinput]; norm_num⟩]
        obtain ⟨hge, hbound, hall⟩ := ih (max start point.requestedLimitW) (max_le hstart hle) hrest
        refine ⟨(le_max_left _ _).trans hge, hbound, ?_⟩
        rw [List.forall_mem_cons]
        exact ⟨(le_max_right _ _).trans hge, hall⟩
  obtain ⟨-, hbound, hall⟩ := hbounds s.mapping 0 htop hs.mapping
  obtain ⟨point, hmem, hpoint⟩ := hs.last
  unfold calibrationBurstBase
  rw [if_neg (by norm_num)]
  apply le_antisymm hbound
  rw [← hpoint]
  exact hall point hmem

/-- Loads that take the sweep to a tier, and the burst search past so many bursts over it. -/
def fullInputs (current : Capabilities) (k bursts : ℕ) : CalibrationInputs where
  passiveHWP := some ⟨3, 1600, 0x93, 0⟩
  told := true
  tiers := fullTiers current.firstLimit k
  guardW := 50
  bursts := fullBursts bursts

theorem calibrationReserve_zero : calibrationReserve 0 = 2 := by
  unfold calibrationReserve
  norm_num

/-- Whatever may be asked for is asked for in some calibration. -/
theorem calibrate_full (h : current.calibratable = true) (hasked : Asked current request) :
    ∃ inputs search, current.calibrate inputs = some search ∧ request ∈ search.requests := by
  obtain ⟨k, n, hk, hn, rfl⟩ := hasked
  have hpos := five_le_firstLimit current
  have htest : current.firstLimit + 2 * k ≤ withTolerance current.sweepCeiling := tierW_le h hk
  have hstart : SweptTo current.firstLimit ⟨current.firstLimit, [], 0, 0, 0, "", []⟩ :=
    ⟨rfl, rfl, by simp⟩
  obtain ⟨s, hs, hsweep⟩ := sweep_fullTiers (s := ⟨current.firstLimit, [], 0, 0, 0, "", []⟩)
    k hstart hpos htest
  replace hs : SweptAt (current.tierW k) s := hs
  have htopPos := tierW_pos current k
  have hbase := burstBase_swept htopPos.le hs
  refine ⟨fullInputs current k (n - 1), ?_⟩
  have hcalibrate : current.calibrate (fullInputs current k (n - 1)) =
      s.search current (fullInputs current k (n - 1)) := by
    have hhwp : (passiveHWPReady (some ⟨3, 1600, 0x93, 0⟩)).isNone = false := by decide
    have hready : (fullInputs current k (n - 1)).passiveHWP = some ⟨3, 1600, 0x93, 0⟩ := rfl
    have htold : (fullInputs current k (n - 1)).told = true := rfl
    unfold Capabilities.calibrate
    rw [h, hready, hhwp, htold, if_neg (by simp)]
    show (sweep current.sweepCeiling (fullTiers current.firstLimit k) _).bind _ = _
    rw [hsweep]
    rfl
  have hguard : (fullInputs current k (n - 1)).guardW = 50 := rfl
  rw [hcalibrate]
  unfold SweepState.search
  dsimp only
  rw [hs.worstError, calibrationReserve_zero, hguard, hbase, if_neg (by
    simp only [not_or, not_not, not_le]
    exact ⟨hs.error, hs.responsiveFloor, hs.lastSafeLimit, htopPos⟩)]
  show ∃ search, (burstSearch _ _ (fullBursts (n - 1)) _).map _ = some search ∧ _
  rcases Nat.eq_zero_or_pos n with rfl | hposN
  · obtain ⟨b, hsearch, hsubset⟩ := burstSearch_none (current.tierW k)
      (current.burstMaximum (current.tierW k)) ⟨2, 0, 0, s.error, s.requests⟩
    refine ⟨⟨s.mapping, s.lastSafeLimit, b.selectedBurst, b.worstError, b.error, b.requests⟩, ?_,
      hsubset hs.request⟩
    rw [hsearch]
    rfl
  · have hburst : current.Bursts k n := by
      rcases hn with hzero | hburst
      · omega
      · exact hburst
    have hlast : (2 : ℚ) + 2 * (n - 1 : ℕ) = 2 * n := by
      rw [Nat.cast_sub hposN]
      push_cast
      ring
    obtain ⟨b, hsearch, -, hmem⟩ := @burstSearch_full (current.tierW k) _ (n - 1)
      ⟨2, 0, 0, s.error, s.requests⟩ (hlast.trans_le hburst)
    dsimp only at hmem
    rw [hlast, tierW_add] at hmem
    refine ⟨⟨s.mapping, s.lastSafeLimit, b.selectedBurst, b.worstError, b.error, b.requests⟩, ?_, hmem⟩
    rw [hsearch]
    rfl

end

theorem accepted_iff_fits {current : Capabilities} (h : current.calibratable = true) :
    (∀ inputs search, current.calibrate inputs = some search →
      ∀ request ∈ search.requests, current.Accepted (wattsToMW request.1) (wattsToMW request.2)) ↔
    current.CalibrationFits := by
  constructor
  · intro haccepted
    constructor
    · obtain ⟨inputs, search, hsearch, hmem⟩ := calibrate_full h
        (⟨current.tiers, 0, le_refl _, .inl rfl, rfl⟩ : Asked current _)
      have htier := haccepted inputs search hsearch _ hmem
      rw [accepted_tier_iff h (tierMW_lt h (le_refl _)), Nat.add_zero] at htier
      unfold Capabilities.sweepCeilingMW
      omega
    · intro k hk n hfive hpos hburst
      obtain ⟨inputs, search, hsearch, hmem⟩ := calibrate_full h
        (⟨k, n, hk, .inr hburst, rfl⟩ : Asked current _)
      have hlimits := haccepted inputs search hsearch _ hmem
      rw [accepted_tier_iff h (tierMW_lt_of_bursts hburst)] at hlimits
      exact hlimits.2
  · intro hfits inputs search hsearch request hrequest
    exact accepted_of_fits h hfits (asked_calibrate hsearch _ hrequest)

/-- **Calibration within the driver's bounds**: the driver takes every request of every
calibration iff the last tier and the bursts over the tiers are within its ceilings. Where they are
not, there is a calibration that ends with its first refusal. -/
theorem calibration_accepted_iff {current : Capabilities} (h : current.calibratable = true) :
    ((∀ inputs search, current.calibrate inputs = some search →
      ∀ request ∈ search.requests, current.Accepted (wattsToMW request.1) (wattsToMW request.2)) ↔
    current.CalibrationFits) ∧
    (¬ current.CalibrationFits → ∃ inputs search request before,
      current.calibrate inputs = some search ∧ search.requests = request :: before ∧
        search.error = refused.error ∧
        ¬ current.Accepted (wattsToMW request.1) (wattsToMW request.2) ∧
        ∀ earlier ∈ before, current.Accepted (wattsToMW earlier.1) (wattsToMW earlier.2)) := by
  refine ⟨accepted_iff_fits h, ?_⟩
  intro hnot
  rw [← accepted_iff_fits h] at hnot
  simp only [not_forall, exists_prop] at hnot
  obtain ⟨inputs, search, hsearch, hrefused⟩ := hnot
  obtain ⟨request, before, hsuffix, hfirst, hearlier⟩ := exists_first
    (p := fun request : ℚ × ℚ => current.Accepted (wattsToMW request.1) (wattsToMW request.2)) hrefused
  obtain ⟨inputs', search', hsearch', herror, hrequests⟩ := calibrate_cut hsearch hsuffix
  exact ⟨inputs', search', request, before, hsearch', hrequests, herror, hfirst, hearlier⟩

theorem calibratable_sample : sampleCapabilities.calibratable = true := by decide +kernel

/-- Limits of 45 W and 60 W, and a maximum of 100 W: 10 W over the cruise limit fit. -/
theorem fits_sample : sampleCapabilities.CalibrationFits := by decide +kernel

theorem calibration_accepted_sample : ∃ search, 60 < search.requests.length ∧
    sampleCapabilities.calibrate (fullInputs sampleCapabilities 20 4) = some search ∧
      ∀ request ∈ search.requests,
        sampleCapabilities.Accepted (wattsToMW request.1) (wattsToMW request.2) := by
  have haccepted := (calibration_accepted_iff calibratable_sample).1.mpr fits_sample
  have hlength : ((sampleCapabilities.calibrate (fullInputs sampleCapabilities 20 4)).any fun search =>
      decide (60 < search.requests.length)) = true := by decide +kernel
  rw [Option.any_eq_true] at hlength
  obtain ⟨search, hsearch, hmany⟩ := hlength
  exact ⟨search, of_decide_eq_true hmany, hsearch, haccepted _ search hsearch⟩

/-- 9.99 W over a tier of 7 W, in doubles, with the tolerance less than 10 W: a second limit of
16.99 W is not passed. -/
example : (⟨capabilityBidirProchotEnabled, 10, 14, 5000, 100000, 0x000043f600001c00⟩ :
    Capabilities).CalibrationFits := by
  decide +kernel

/-! ## A maximum below the captured second limit -/

/-- A captured limit of 45 W and a second one of 60 W, and a maximum of 45 W. -/
def narrowCapabilities : Capabilities := { sampleCapabilities with maximumPowerMW := 45000 }

/-- Every tier up to 45 W, and a first burst that the driver refuses. -/
def narrowInputs : CalibrationInputs :=
  { fullInputs narrowCapabilities 20 0 with
    bursts := [[refused]] }

/-- The first burst over a cruise limit of 45 W is 47 W: the driver refuses it, and the
calibration ends. -/
theorem refused_burst : narrowCapabilities.calibratable = true ∧
    ∃ search, narrowCapabilities.calibrate narrowInputs = some search ∧
      search.requests.head? = some (45, 47) ∧ search.error ≠ "" ∧
      ¬narrowCapabilities.Accepted (wattsToMW 45) (wattsToMW 47) ∧
      ∀ request ∈ search.requests.tail,
        narrowCapabilities.Accepted (wattsToMW request.1) (wattsToMW request.2) := by
  have hrun : ((narrowCapabilities.calibrate narrowInputs).any fun search =>
      decide (search.requests.head? = some (45, 47) ∧ search.error ≠ "") &&
        search.requests.tail.all fun request =>
          narrowCapabilities.admits (wattsToMW request.1) (wattsToMW request.2)) = true := by
    decide +kernel
  rw [Option.any_eq_true] at hrun
  obtain ⟨search, hsearch, hends⟩ := hrun
  rw [Bool.and_eq_true, decide_eq_true_eq, List.all_eq_true] at hends
  obtain ⟨⟨hhead, herror⟩, htail⟩ := hends
  refine ⟨by decide +kernel, search, hsearch, hhead, herror, ?_, ?_⟩
  · rw [Capabilities.accepted_iff]
    decide +kernel
  · intro request hrequest
    rw [Capabilities.accepted_iff]
    exact htail request hrequest

end TurboMac.Daemon
