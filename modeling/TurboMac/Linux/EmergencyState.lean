import TurboMac.Linux.Emergency

/-! # The EMERGENCY state

EMERGENCY outlasts invalid samples, thermal trims and means above shed, each of
which recomputes the limits. They stay at the floor (`Path.emergency_limits`),
and only `EMERGENCY_HOLD_S` of calm samples lead on to TRIM.
-/

namespace TurboMac.Linux

namespace Step

variable {w w' : Step} {sample : Sample} {ceiling : ℚ} {d : Decision}

/-- Capped, the floor is the floor under any ceiling of the thermal rule. -/
theorem cap1_min_floor (hle : min w.floor w.top ≤ ceiling) :
    w.cap1 (min w.floor ceiling) = w.cap1 w.floor := by
  apply le_antisymm
  · exact w.cap1_mono (min_le_left _ _)
  · have hmono := w.cap1_mono (le_min (min_le_left w.floor w.top) hle)
    rwa [← cap1_floor, cap1_cap1] at hmono

/-- A decision for EMERGENCY is the floor, or the lower ceiling. -/
theorem Outcome.emergency_pl1 (h : Outcome w sample ceiling d) (hd : d.new = .emergency)
    (hw : w.s.state = .emergency → w.s.pl1W = some (w.cap1 w.floor)) :
    d.pl1 = w.floor ∨ d.pl1 = min w.floor ceiling := by
  -- kept by a rule, EMERGENCY was there before
  have hkept : w.entryState ceiling = .emergency → w.entryPl1 ceiling = min w.floor ceiling := by
    intro hentry
    have hstay : ¬ w.Resume ∧ w.s.state = .emergency := by
      unfold entryState at hentry
      split at hentry
      · exact absurd hentry (w.label_ne_emergency _)
      · exact ⟨by assumption, hentry⟩
    have hresume : w.resumePl1 = w.cap1 w.floor := by
      simp [resumePl1, hstay.1, hw hstay.2]
    rw [entryPl1, hresume, max_eq_right (w.cap1_le _)]
  cases h with
  | invalid | hold | stay => exact Or.inr (hkept hd)
  | emergency => exact Or.inl rfl
  | cut | shed | leave => simp at hd
  | below | recover | between => exact absurd hd (w.label_ne_emergency _)

/-- A step that ends in EMERGENCY leaves both limits at the floor. -/
theorem Path.emergency_limits (h : Path w sample w') (hg : w.g.Validated)
    (hw : w.s.state = .emergency → w.s.pl1W = some (w.cap1 w.floor))
    (hw' : w'.s.state = .emergency) :
    w'.s.pl1W = some (w.cap1 w.floor) ∧ ∃ pl2, w'.s.pl2W = some pl2 ∧ pl2 ≤ w.floor := by
  rcases h.governed (Or.inr (Or.inr hw')) with ⟨-, u, force, same, rfl⟩
  rcases control_spec u sample force with ⟨v, d, hv, hd, hsettled⟩
  have hceiling := (thermal_interval u sample (same.g.symm ▸ hg.thermalStepW_pos.le)).1
  generalize (u.thermal sample.pkgC u.floor u.top).1 = ceiling at hd hceiling
  rw [← hv.floor, ← hv.top] at hceiling
  have hnew : d.new = .emergency := hsettled.state.symm.trans hw'
  have hpl1 := hd.emergency_pl1 hnew (by
    rw [hv.state, same.state, hv.pl1W, same.pl1W, hv.floor, hv.cap1, same.floor, same.cap1]
    exact hw)
  have hfloor : v.floor = w.floor := hv.floor.trans same.floor
  have hcap : ∀ x, v.cap1 x = w.cap1 x := fun x => (hv.cap1 x).trans (same.cap1 x)
  have hle : d.pl1 ≤ w.floor := by
    rcases hpl1 with h | h
    · exact (h.trans hfloor).le
    · rw [h, hfloor]
      exact min_le_left _ _
  have hd1 : w.cap1 d.pl1 = w.cap1 w.floor := by
    rcases hpl1 with h | h
    · rw [h, hfloor]
    · rw [h, ← hcap, cap1_min_floor hceiling, hfloor, hcap]
  refine ⟨?_, _, hsettled.pl2W, ?_⟩
  · rw [hsettled.pl1W, same.cap1, hd1]
  · rw [hnew]
    exact (u.cap2_le _).trans hle

/-- A rule that leaves the hold timer running has seen a calm sample. -/
theorem Outcome.below_shed (h : Outcome w sample ceiling d)
    (hd : d.w.s.belowShedSince ≠ none) {pdtr acpw : ℚ}
    (hsample : sample.valid? = some (pdtr, acpw)) :
    pdtr < (thresholds acpw w.g).emergencyW ∧
      sample.mean pdtr < (thresholds acpw w.g).shedW := by
  cases h with
  | invalid hnone => simp [hsample] at hnone
  | emergency _ _ after => exact absurd after.belowShedSince hd
  | hold _ _ _ _ after | shed _ _ _ _ after | cut _ _ _ _ _ after =>
      exact absurd after.belowShedSince hd
  | leave hsome hcalm hshed | stay hsome hcalm hshed | below hsome hcalm hshed
  | recover hsome hcalm hshed | between hsome hcalm hshed =>
      cases hsample.symm.trans hsome
      exact ⟨hcalm, hshed⟩

theorem Path.below_shed (h : Path w sample w') (hmode : w.g.mode = .dynamic)
    (hw' : w'.s.state ≠ .fallback) (htimer : w'.s.belowShedSince ≠ none) {pdtr acpw : ℚ}
    (hsample : sample.valid? = some (pdtr, acpw)) :
    pdtr < (thresholds acpw w.g).emergencyW ∧
      sample.mean pdtr < (thresholds acpw w.g).shedW := by
  cases h with
  | off hoff => simp [hmode] at hoff
  | static hstatic => simp [hmode] at hstatic
  | readbackFailed => exact absurd (w.readbackFailed_spec _).1 hw'
  | @wait u _ _ hwait same _ =>
      exact absurd ((wait_spec u sample).1.trans (same.state.trans hwait.1)) hw'
  | @stale u _ _ _ _ _ retried => exact absurd (runStale_spec u retried).1 hw'
  | @control u _ _ _ _ same force =>
      rcases control_spec u sample force with ⟨v, d, hv, hd, hsettled⟩
      rw [hsettled.belowShedSince] at htimer
      have hbelow := hd.below_shed htimer hsample
      rwa [hv.g, same.g] at hbelow

/-- When the hold is over its timer is left running. -/
theorem Outcome.leave_timer (h : Outcome w sample ceiling d) (hw : w.s.state = .emergency)
    (hpl1 : w.s.pl1W ≠ none) (hd : d.new ≠ .emergency) : d.w.s.belowShedSince ≠ none := by
  have hentry : w.entryState ceiling = .emergency := by
    simp [Step.entryState, Resume, hw, hpl1]
  cases h with
  | invalid | hold | stay => exact absurd hentry hd
  | emergency => exact absurd rfl hd
  | leave _ _ _ _ _ after => simp [after.belowShedSince]
  | cut _ _ _ hstate | shed _ _ _ hstate | below _ _ _ hstate | recover _ _ _ hstate
  | between _ _ _ hstate => exact absurd hw hstate

theorem Path.leave_timer (h : Path w sample w') (hmode : w.g.mode = .dynamic)
    (hw : w.s.state = .emergency) (hpl1 : w.s.pl1W ≠ none) (hfallback : w'.s.state ≠ .fallback)
    (hemergency : w'.s.state ≠ .emergency) : w'.s.belowShedSince ≠ none := by
  cases h with
  | off hoff => simp [hmode] at hoff
  | static hstatic => simp [hmode] at hstatic
  | readbackFailed => exact absurd (w.readbackFailed_spec _).1 hfallback
  | @wait u _ _ hwait same _ =>
      exact absurd ((wait_spec u sample).1.trans (same.state.trans hwait.1)) hfallback
  | @stale u _ _ _ _ _ retried => exact absurd (runStale_spec u retried).1 hfallback
  | @control u _ _ _ _ same force =>
      rcases control_spec u sample force with ⟨v, d, hv, hd, hsettled⟩
      rw [hsettled.belowShedSince]
      refine hd.leave_timer (hv.state.trans (same.state.trans hw)) (by rwa [hv.pl1W, same.pl1W]) ?_
      rwa [← hsettled.state]

end Step

namespace Run

variable {r : Run} {g : GovernorConfig} (hconfig : ∀ n, (r.ticks n).config = g)
  (hmode : g.mode = .dynamic) (hg : g.Validated)

include hconfig hg in
/-- In EMERGENCY both limits are at the floor. -/
theorem emergency_limits (n : ℕ) (hstate : (r.state n).state = .emergency) :
    (r.state n).pl1W = some (r.firmware.cap1 g.floor) ∧
      ∃ pl2, (r.state n).pl2W = some pl2 ∧ pl2 ≤ g.floor := by
  induction n with
  | zero => cases hstate
  | succ n ih =>
      have h := (r.path n).emergency_limits (by simpa [hconfig] using hg) (by
        rw [before_cap1, before_floor, hconfig]
        simpa using fun hn => (ih hn).1) hstate
      rwa [before_cap1, before_floor, hconfig] at h

include hconfig hmode in
/-- A tick that leaves the hold timer running was calm. -/
theorem calm_of_timer {k : ℕ} (htimer : (r.state (k + 1)).belowShedSince ≠ none)
    {pdtr acpw : ℚ} (hsample : (r.ticks k).sample.valid? = some (pdtr, acpw)) :
    pdtr < (thresholds acpw g).emergencyW ∧
      (r.ticks k).sample.mean pdtr < (thresholds acpw g).shedW := by
  have hfallback : (r.state (k + 1)).state ≠ .fallback := by
    intro hstate
    exact htimer ((r.timersClear (k + 1)).fallbackShed hstate)
  have h := (r.path k).below_shed (by simp [hconfig, hmode]) hfallback htimer hsample
  simpa [hconfig] using h

include hconfig hmode in
/-- EMERGENCY is left to TRIM by a hold timer that started `EMERGENCY_HOLD_S`
before, and is left running. -/
theorem leave_emergency {n : ℕ} (hstate : (r.state n).state = .emergency)
    (hpl1 : (r.state n).pl1W ≠ none) (hleft : (r.state (n + 1)).state = .trim) :
    (∃ since, (r.state n).belowShedSince = some since ∧
      emergencyHoldS ≤ r.time n - since) ∧ (r.state (n + 1)).belowShedSince ≠ none := by
  have hheld := (r.path n).leave_emergency (by simp [hconfig, hmode]) hstate hpl1
  have htimer := (r.path n).leave_timer (by simp [hconfig, hmode]) hstate hpl1
    (by simp [hleft]) (by simp [hleft])
  simp only [after_s, before_frame, hleft] at hheld
  refine ⟨?_, htimer⟩
  rcases hheld with hfallback | hemergency | hheld
  · cases hfallback
  · cases hemergency
  · cases hsince : (r.state n).belowShedSince with
    | none =>
        rw [hsince] at hheld
        norm_num [emergencyHoldS] at hheld
    | some since => exact ⟨since, rfl, by simpa [hsince] using hheld⟩

/-- The EMERGENCY state. In a dynamic run under one validated configuration with
strictly increasing times, EMERGENCY keeps both limits at the floor, and goes
over to TRIM only when every valid sample of the last `EMERGENCY_HOLD_S` was
below both thresholds, without raising PL1. -/
theorem emergency_state (r : Run) (g : GovernorConfig) (hconfig : ∀ n, (r.ticks n).config = g)
    (hmode : g.mode = .dynamic) (hg : g.Validated) (hmono : StrictMono r.time) :
    (∀ n, (r.state n).state = .emergency →
      (r.state n).pl1W = some (r.firmware.cap1 g.floor) ∧
        ∃ pl2, (r.state n).pl2W = some pl2 ∧ pl2 ≤ g.floor) ∧
    ∀ n, (r.state n).state = .emergency → (r.state (n + 1)).state = .trim →
      (∀ k pdtr acpw, r.time n - emergencyHoldS ≤ r.time k → r.time k ≤ r.time n →
        (r.ticks k).sample.valid? = some (pdtr, acpw) →
        pdtr < (thresholds acpw g).emergencyW ∧
          (r.ticks k).sample.mean pdtr < (thresholds acpw g).shedW) ∧
      ∃ pl1 pl1', (r.state n).pl1W = some pl1 ∧ (r.state (n + 1)).pl1W = some pl1' ∧
        pl1' ≤ pl1 := by
  refine ⟨emergency_limits hconfig hg, ?_⟩
  intro n hstate hleft
  have hpl1 := (emergency_limits hconfig hg n hstate).1
  rcases leave_emergency hconfig hmode hstate (by simp [hpl1]) hleft with
    ⟨⟨since, hsince, hheld⟩, hrunning⟩
  rcases r.shed_stopwatch.started hsince with ⟨m, -, htime, hrun⟩
  constructor
  · intro k pdtr acpw hafter hbefore hsample
    have hkn : k ≤ n := hmono.le_iff_le.1 hbefore
    have hmk : m ≤ k := by
      apply hmono.le_iff_le.1
      linarith
    refine calm_of_timer hconfig hmode ?_ hsample
    rcases Nat.lt_or_eq_of_le hkn with hlt | rfl
    · simp [hrun (k + 1) (Nat.lt_succ_of_le hmk) hlt]
    · exact hrunning
  · -- only `recover` lifts PL1, and not out of EMERGENCY
    have hsilent : ¬ r.Emits n .recover := by
      intro hrecover
      exact (r.recovers n hrecover).state hstate
    have hlevel := (ratchet hconfig hmode hg).hold n hsilent
    rcases floor_le hconfig hmode hg n with ⟨-, pl1', hpl1', -⟩
    have hn : n ≠ 0 := by
      rintro rfl
      cases hstate
    have hpos : max n 1 = n := max_eq_left (Nat.one_le_iff_ne_zero.2 hn)
    rw [level_succ hpl1', level, hpos, hpl1] at hlevel
    exact ⟨_, pl1', hpl1, hpl1', hlevel⟩

/-- A spike, then one calm tick a second. -/
def spike : Run where
  started := 0
  firmware := ⟨none, none⟩
  ticks n :=
    { sample := ⟨.num (if n = 0 then 78 else 40), .none, .num 80, .none, none⟩
      config := { GovernorConfig.defaults with mode := .dynamic }
      now := n }
  mono := mono_seconds

/-- The hold of the spike is over at 6 s, five seconds after the first calm
tick. -/
theorem emergency_state_spike :
    (spike.state 6).pl1W = some 10 ∧ (40 : ℚ) < (thresholds 80 (spike.ticks 3).config).shedW := by
  have h := emergency_state spike (spike.ticks 0).config (fun _ => rfl) rfl
    (GovernorConfig.defaults_validated.withMode .dynamic) Nat.strictMono_cast
  constructor
  · exact (h.1 6 (by decide +kernel)).1
  · exact ((h.2 6 (by decide +kernel) (by decide +kernel)).1 3 40 80 (by decide +kernel)
      (by decide +kernel) (by decide +kernel)).2

end Run

end TurboMac.Linux
