import TurboMac.Linux.Limits

/-! # The evidence behind a recovery

Rule 4 recovers when the mean has been below the recover threshold for
`recover_interval_s`. The evidence is one timer, which the rules and `fallback`
clear; the static and off paths leave it running, so `recovery_evidence` asks
that no dynamic tick resumes from them with the timer set.
-/

namespace TurboMac.Linux

/-- A dynamic tick that resumes from OFF or STATIC finds the recovery timer
clear. -/
def FreshStart (s : GovState) (g : GovernorConfig) : Prop :=
  g.mode = .dynamic → s.state = .off ∨ s.state = .static → s.belowRecoverSince = none

namespace Step

variable {w w' : Step} {sample : Sample} {ceiling : ℚ} {d : Decision}

/-- Off and static modes end in OFF, STATIC or FALLBACK. -/
theorem Path.idle (h : Path w sample w') (hmode : w.g.mode ≠ .dynamic) :
    w'.s.state = .off ∨ w'.s.state = .static ∨ w'.s.state = .fallback := by
  cases h with
  | off => exact Or.inl w.runOff_spec.1
  | @static u _ _ force => exact Or.inr (Or.inl (runStatic_spec u force).1)
  | readbackFailed => exact Or.inr (Or.inr (w.readbackFailed_spec _).1)
  | @wait u _ _ hwait same _ =>
      exact Or.inr (Or.inr ((wait_spec u sample).1.trans (same.state.trans hwait.1)))
  | stale hdynamic | control hdynamic => exact absurd hdynamic hmode

/-- A rule that leaves the recovery timer running has seen the mean below the
recover threshold. -/
theorem Outcome.below_recover (h : Outcome w sample ceiling d)
    (hw : w.s.state = .emergency → w.s.belowRecoverSince = none)
    (hd : d.w.s.belowRecoverSince ≠ none) {pdtr acpw : ℚ}
    (hsample : sample.valid? = some (pdtr, acpw)) :
    sample.mean pdtr < (thresholds acpw w.g).recoverW := by
  cases h with
  | invalid hnone => simp [hsample] at hnone
  | emergency _ _ after => exact absurd after.belowRecoverSince hd
  | hold _ _ _ _ after | shed _ _ _ _ after | cut _ _ _ _ _ after | leave _ _ _ _ _ after
  | between _ _ _ _ _ after => exact absurd after.belowRecoverSince hd
  | stay _ _ _ hstate _ after =>
      -- in EMERGENCY the timer is clear
      exact absurd (after.belowRecoverSince.trans (hw hstate)) hd
  | below hsome _ _ _ hrecover | recover hsome _ _ _ hrecover =>
      cases hsample.symm.trans hsome
      exact hrecover

theorem Path.below_recover (h : Path w sample w') (hmode : w.g.mode = .dynamic)
    (hw : TimersClear w.s) (hw' : w'.s.state ≠ .fallback) (htimer : w'.s.belowRecoverSince ≠ none)
    {pdtr acpw : ℚ} (hsample : sample.valid? = some (pdtr, acpw)) :
    sample.mean pdtr < (thresholds acpw w.g).recoverW := by
  cases h with
  | off hoff => simp [hmode] at hoff
  | static hstatic => simp [hmode] at hstatic
  | readbackFailed => exact absurd (w.readbackFailed_spec _).1 hw'
  | @wait u _ _ hwait same _ =>
      exact absurd ((wait_spec u sample).1.trans (same.state.trans hwait.1)) hw'
  | @stale u _ _ _ _ _ retried => exact absurd (runStale_spec u retried).1 hw'
  | @control u _ _ _ _ same force =>
      rcases control_spec u sample force with ⟨v, d, hv, hd, hsettled⟩
      have hbelow := hd.below_recover (by
        rw [hv.state, same.state, hv.belowRecoverSince, same.belowRecoverSince]
        exact hw.emergencyRecover) (by rwa [← hsettled.belowRecoverSince]) hsample
      rwa [hv.g, same.g] at hbelow

end Step

namespace Run

/-- Tick `k` is evidence for a recovery: it ran in dynamic mode, cut nothing,
met no emergency, recovered nothing, and its mean, if valid, was below the
recover threshold. -/
structure Evidence (r : Run) (k : ℕ) : Prop where
  dynamic : (r.ticks k).config.mode = .dynamic
  silent : ∀ t : EventType, t.IsRule → ¬ r.Emits k t
  below : ∀ pdtr acpw, (r.ticks k).sample.valid? = some (pdtr, acpw) →
    (r.ticks k).sample.mean pdtr < (thresholds acpw (r.ticks k).config).recoverW

variable {r : Run} {m n : ℕ} {since : ℚ}

/-- Off and static ticks that leave the recovery timer running end in OFF or
STATIC. -/
theorem idle (hmode : (r.ticks n).config.mode ≠ .dynamic)
    (htimer : (r.state (n + 1)).belowRecoverSince = some since) :
    (r.state (n + 1)).state = .off ∨ (r.state (n + 1)).state = .static := by
  have h := (r.path n).idle (by simpa using hmode)
  simp only [after_s] at h
  rcases h with hoff | hstatic | hfallback
  · exact Or.inl hoff
  · exact Or.inr hstatic
  · simp [(r.timersClear (n + 1)).fallbackRecover hfallback] at htimer

/-- While the recovery timer runs on towards a dynamic tick, every tick is
dynamic, if dynamic ticks start afresh. -/
theorem dynamic_of_running (hfresh : ∀ n, FreshStart (r.state n) (r.ticks n).config)
    (hdynamic : (r.ticks n).config.mode = .dynamic) (hmn : m < n)
    (hrun : ∀ k, m ≤ k → k ≤ n → (r.state k).belowRecoverSince = some since) :
    (r.ticks m).config.mode = .dynamic := by
  by_contra hidle
  -- from the idle tick on, every state up to `n` is OFF or STATIC
  have hstate : ∀ k, m + 1 ≤ k → k ≤ n →
      (r.state k).state = .off ∨ (r.state k).state = .static := by
    intro k hmk
    induction k, hmk using Nat.le_induction with
    | base =>
        intro hle
        exact idle hidle (hrun (m + 1) (by omega) hle)
    | succ k hmk ih =>
        intro hle
        have hstate := ih (by omega)
        refine idle ?_ (hrun (k + 1) (by omega) hle)
        intro hmode
        have hnone := hfresh k hmode hstate
        rw [hrun k (by omega) (by omega)] at hnone
        cases hnone
  have hnone := hfresh n hdynamic (hstate n hmn (le_refl n))
  rw [hrun n hmn.le (le_refl n)] at hnone
  cases hnone

/-- Recovery evidence. In a run whose dynamic ticks start afresh, every tick less
than a recovery interval before a `recover` is evidence for it. -/
theorem recovery_evidence (r : Run) (hfresh : ∀ n, FreshStart (r.state n) (r.ticks n).config)
    {k n : ℕ} (hrecover : r.Emits n .recover)
    (hafter : r.time n - (r.ticks n).config.recoverIntervalS < r.time k)
    (hbefore : r.time k < r.time n) : r.Evidence k := by
  have hstep := r.recovers n hrecover
  rcases hstep.since with ⟨since, hsince, hspan⟩
  simp only [before_frame] at hsince hspan
  rcases r.recover_stopwatch.started hsince with ⟨m, -, htime, hrun⟩
  have hsk : since < r.time k := by linarith
  -- the recovery timer was started before `k` and runs until `n`
  have hmk : m < k := by
    by_contra hle
    have hk := r.mono (not_lt.1 hle)
    rw [← htime] at hsk
    exact absurd hsk (not_lt.2 hk)
  have hkn : k < n := by
    by_contra hle
    exact absurd hbefore (not_lt.2 (r.mono (not_lt.1 hle)))
  have hrunning : ∀ j, k ≤ j → j ≤ n → (r.state j).belowRecoverSince = some since := by
    intro j hkj hjn
    exact hrun j (by omega) hjn
  have hdynamic := dynamic_of_running hfresh (by simpa using hstep.mode) hkn hrunning
  have htimer : (r.state (k + 1)).belowRecoverSince = some since := hrun (k + 1) (by omega) hkn
  refine ⟨hdynamic, ?_, ?_⟩
  · -- a restart in between would have set it to a later time
    intro t hrule ht
    rcases r.rule_timer k hrule ht with ⟨-, hrestart⟩ | ⟨-, hclear⟩
    · have hnow := hrestart.restart
      simp only [after_s, before_frame, htimer] at hnow
      cases hnow
      exact absurd hsk (lt_irrefl _)
    · simp [htimer] at hclear
  · intro pdtr acpw hsample
    have hk := r.timersClear k
    have hfallback : (r.state (k + 1)).state ≠ .fallback := by
      intro hstate
      simp [(r.timersClear (k + 1)).fallbackRecover hstate] at htimer
    exact (r.path k).below_recover (by simpa using hdynamic)
      ⟨hk.fallbackShed, hk.fallbackRecover, hk.emergencyRecover⟩ (by simpa using hfallback)
      (by simp [htimer]) hsample

/-- The steady run never comes from OFF or STATIC with a running timer. -/
theorem steady_freshStart (n : ℕ) : FreshStart (steady.state n) (steady.ticks n).config := by
  intro _ hstate
  cases n with
  | zero => rfl
  | succ n =>
      have h := (@floor_le steady _ (fun _ => rfl) rfl
        (GovernorConfig.defaults_validated.withMode .dynamic) n).1
      rcases hstate with hoff | hstatic
      · exact absurd hoff h.1
      · exact absurd hstatic h.2

theorem steady_recovers : steady.Emits 3 .recover := by
  unfold Emits
  decide +kernel

/-- Its first recovery, at 3 s, has the tick at 1 s as evidence. -/
theorem recovery_evidence_steady :
    (40 : ℚ) < (thresholds 80 (steady.ticks 1).config).recoverW :=
  (recovery_evidence steady steady_freshStart steady_recovers
    (by decide +kernel : _ < steady.time 1) (by decide +kernel)).below 40 80 (by decide +kernel)

/-- Dynamic mode at 0 s, static at 1 s, dynamic again at 3 s. -/
def interlude : Run where
  started := 0
  firmware := ⟨none, none⟩
  ticks n :=
    { sample := ⟨.num 40, .none, .num 80, .none, none⟩
      config :=
        { GovernorConfig.defaults with mode := if n = 1 then .static else .dynamic }
      now := if n ≤ 1 then n else n + 1 }
  mono := fun i j hij => by
    have h : (i : ℚ) ≤ j := by exact_mod_cast hij
    show (if i ≤ 1 then (i : ℚ) else i + 1) ≤ if j ≤ 1 then (j : ℚ) else j + 1
    split_ifs
    · exact h
    · linarith
    · omega
    · linarith

/-- The tick at 3 s recovers at once. -/
theorem interlude_recovers : interlude.Emits 2 .recover := by
  unfold Emits
  decide +kernel

/-- A recovery does not always have its evidence. -/
theorem recovery_evidence_fails :
    ¬ ∀ r : Run, (∀ n, (r.ticks n).config.Validated) → ∀ k n : ℕ, r.Emits n .recover →
      r.time n - (r.ticks n).config.recoverIntervalS < r.time k → r.time k < r.time n →
      r.Evidence k := by
  intro hclaim
  have hg : ∀ n, (interlude.ticks n).config.Validated :=
    fun n => GovernorConfig.defaults_validated.withMode _
  have hstatic := hclaim interlude hg 1 2 interlude_recovers (by decide +kernel) (by decide +kernel)
  exact absurd hstatic.dynamic (by decide +kernel)

end Run

end TurboMac.Linux
