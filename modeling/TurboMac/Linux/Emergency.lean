import TurboMac.Linux.Limits

/-! # The emergency rule

Rule 2 cuts both limits to the floor, and EMERGENCY holds them there for
`EMERGENCY_HOLD_S`. `emergency_override_iff` says exactly which spikes reach
the rule: a failed readback returns before it, and a FALLBACK that waits for its
retry looks at PL1 only. `emergency_hold` says how long the floor lasts: a run
that leaves FALLBACK meanwhile has only the recovery interval to wait.
-/

namespace TurboMac.Linux

/-- Both limits in force are at the emergency target of `g`, or below. -/
def AtFloor (s : GovState) (g : GovernorConfig) : Prop :=
  (∃ pl1 ∈ s.pl1W, pl1 ≤ g.floor) ∧ ∃ pl2 ∈ s.pl2W, pl2 ≤ g.floor

/-- `FALLBACK` before its retry time. -/
def GovState.Waiting (s : GovState) (now : ℚ) : Prop :=
  s.state = .fallback ∧ ∃ retryAt ∈ s.retryAt, now < retryAt

/-- The state, sample and configuration with which a spike meets rule 2, or
needs no cut. -/
structure SpikeHandled (s : GovState) (sample : Sample) (g : GovernorConfig) (now : ℚ) : Prop where
  /-- With a failed readback outside FALLBACK, the fallback limit is low enough
  by itself: by the static cap, by the PL1 in force, or by the firmware. -/
  readback : (∃ rb, sample.Failed rb) → s.state ≠ .fallback →
    g.staticCapW ≤ g.floorW ∨ (∃ pl1 ∈ s.pl1W, pl1 ≤ g.floor) ∨
      (Step.orHardMax s.fwPl1W ≤ g.floor ∧ Step.orHardMax s.fwPl2W ≤ g.floor)
  /-- With a failed readback in FALLBACK, both limits are low already. -/
  fallback : (∃ rb, sample.Failed rb) → s.state = .fallback → AtFloor s g
  /-- While FALLBACK waits, PL2 is not left above a low PL1. -/
  waiting : (∀ rb, ¬ sample.Failed rb) → s.Waiting now →
    (∃ pl1 ∈ s.pl1W, pl1 ≤ g.floor) → ∃ pl2 ∈ s.pl2W, pl2 ≤ g.floor

namespace Step

variable {w w' : Step} {sample : Sample} {ceiling : ℚ} {d : Decision}

theorem floor_eq (w : Step) : w.floor = w.g.floor := rfl

theorem floor_lt_hardMax (hg : w.g.Validated) : w.g.floor < hardMaxW := by
  have hbound : (20 : ℚ) + eps < hardMaxW := by decide +kernel
  exact ((min_le_left _ _).trans hg.floorW.2).trans_lt hbound

/-- A clamp reaches the floor when the value does, or the firmware. -/
theorem min_le_floor_iff (hg : w.g.Validated) (x : ℚ) (fw : Option ℚ) :
    min (min x hardMaxW) (orHardMax fw) ≤ w.g.floor ↔
      x ≤ w.g.floor ∨ orHardMax fw ≤ w.g.floor := by
  rw [min_le_iff, min_le_iff]
  constructor
  · rintro ((hx | hmax) | hfw)
    · exact Or.inl hx
    · exact absurd hmax (not_le.2 (floor_lt_hardMax hg))
    · exact Or.inr hfw
  · rintro (hx | hfw)
    · exact Or.inl (Or.inl hx)
    · exact Or.inr hfw

theorem static_le_floor_iff (g : GovernorConfig) : g.staticCapW ≤ g.floor ↔ g.staticCapW ≤ g.floorW := by
  simp [GovernorConfig.floor]

theorem fallbackW_le_floor_iff :
    w.fallbackW w.g.staticCapW ≤ w.g.floor ↔
      w.g.staticCapW ≤ w.g.floorW ∨ ∃ pl1 ∈ w.s.pl1W, pl1 ≤ w.g.floor := by
  unfold fallbackW
  split
  · rename_i pl1 hpl1
    rw [min_le_iff, static_le_floor_iff]
    simp [hpl1]
  · rename_i hpl1
    rw [static_le_floor_iff]
    simp [hpl1]

/-- The path of a failed readback never looks at the spike. -/
theorem readbackFailed_atFloor_iff (hg : w.g.Validated) {rb : Readback}
    (hrb : sample.Failed rb) :
    AtFloor (w.readbackFailed rb).s w.g ↔ SpikeHandled w.s sample w.g w.now := by
  have hfailed : ∃ rb, sample.Failed rb := ⟨rb, hrb⟩
  rcases w.readbackFailed_spec rb with ⟨-, hpl1, hpl2, -⟩
  by_cases hstate : w.s.state = .fallback
  · simp only [hstate, if_true] at hpl1 hpl2
    have hsame : AtFloor (w.readbackFailed rb).s w.g ↔ AtFloor w.s w.g := by
      simp [AtFloor, hpl1, hpl2]
    rw [hsame]
    constructor
    · intro h
      exact ⟨fun _ hother => absurd hstate hother, fun _ _ => h,
        fun hnone _ _ => absurd hrb (hnone rb)⟩
    · intro h
      exact h.fallback hfailed hstate
  · simp only [hstate, if_false] at hpl1 hpl2
    have hlimits : AtFloor (w.readbackFailed rb).s w.g ↔
        w.fallbackW w.g.staticCapW ≤ w.g.floor ∨
          (orHardMax w.s.fwPl1W ≤ w.g.floor ∧ orHardMax w.s.fwPl2W ≤ w.g.floor) := by
      simp only [AtFloor, hpl1, hpl2, Option.mem_some_iff, exists_eq_left', cap1, cap2,
        min_le_floor_iff hg]
      tauto
    rw [hlimits, fallbackW_le_floor_iff, or_assoc]
    constructor
    · intro h
      exact ⟨fun _ _ => h, fun _ hother => absurd hother hstate,
        fun hnone _ _ => absurd hrb (hnone rb)⟩
    · intro h
      exact h.readback hfailed hstate

/-- A spike while FALLBACK waits is cut, unless PL1 is low already. -/
theorem wait_atFloor_iff (hmode : w.g.mode = .dynamic) (hspike : sample.Spike w.g)
    (hrb : ∀ rb, ¬ sample.Failed rb) (hwait : w.Waiting) :
    AtFloor (w.wait sample).s w.g ↔ SpikeHandled w.s sample w.g w.now := by
  have hhandled : SpikeHandled w.s sample w.g w.now ↔
      ((∃ pl1 ∈ w.s.pl1W, pl1 ≤ w.g.floor) → ∃ pl2 ∈ w.s.pl2W, pl2 ≤ w.g.floor) := by
    constructor
    · intro h
      exact h.waiting hrb hwait
    · intro h
      exact ⟨fun ⟨rb, hfail⟩ => absurd hfail (hrb rb), fun ⟨rb, hfail⟩ => absurd hfail (hrb rb),
        fun _ _ => h⟩
  rw [hhandled]
  rcases wait_spec w sample with ⟨-, -, -, -, -, ⟨-, -, habove, hpl1, hpl2⟩ | ⟨hkeep, hpl1, hpl2⟩⟩
  · -- cut to the floor
    have hcut : AtFloor (w.wait sample).s w.g :=
      ⟨⟨_, hpl1, w.cap1_le _⟩, ⟨_, hpl2, w.cap2_le _⟩⟩
    refine iff_of_true hcut ?_
    rintro ⟨pl1, hmem, hle⟩
    exact absurd hle (not_le.2 (habove pl1 hmem))
  · have hlow : ∃ pl1 ∈ w.s.pl1W, pl1 ≤ w.g.floor := by
      by_contra hnone
      refine hkeep ⟨hmode, hspike, ?_⟩
      intro pl1 hmem
      rw [floor_eq]
      by_contra hle
      exact hnone ⟨pl1, hmem, not_lt.1 hle⟩
    rw [AtFloor, hpl1, hpl2]
    exact ⟨fun h _ => h.2, fun h => ⟨hlow, h hlow⟩⟩

/-- Under control a spike always meets rule 2. -/
theorem Outcome.spike (h : Outcome w sample ceiling d) (hspike : sample.Spike w.g) :
    d.new = .emergency ∧ d.pl1 = w.floor ∧ d.w.s.belowShedSince = none := by
  rcases hspike with ⟨pdtr, acpw, hsample, hge⟩
  cases h with
  | emergency _ _ after => exact ⟨rfl, rfl, after.belowShedSince⟩
  | invalid hnone => simp [hsample] at hnone
  | hold hsome hcalm | cut hsome hcalm | shed hsome hcalm | leave hsome hcalm
  | stay hsome hcalm | below hsome hcalm | recover hsome hcalm | between hsome hcalm =>
      -- below emergency
      cases hsample.symm.trans hsome
      exact absurd hge (not_le.2 hcalm)

theorem control_atFloor (w : Step) (hspike : sample.Spike w.g) (force : Bool) :
    AtFloor (w.control sample force).s w.g := by
  rcases control_spec w sample force with ⟨v, d, hv, hd, hsettled⟩
  rw [← hv.g] at hspike
  rcases hd.spike hspike with ⟨hnew, hpl1, -⟩
  rw [hv.floor] at hpl1
  refine ⟨⟨_, hsettled.pl1W, ?_⟩, ⟨_, hsettled.pl2W, ?_⟩⟩
  · rw [hpl1]
    exact w.cap1_le _
  · have hpl2 := w.cap2_le w.floor
    rw [floor_eq] at hpl2
    simpa [hnew, hpl1, floor_eq] using hpl2

/-- A dynamic step on a spike, path by path. -/
theorem Path.atFloor_iff (h : Path w sample w') (hmode : w.g.mode = .dynamic)
    (hg : w.g.Validated) (hspike : sample.Spike w.g) (hfresh : ¬ w.Stale) :
    AtFloor w'.s w.g ↔ SpikeHandled w.s sample w.g w.now := by
  -- the working copy differs from the state only in what no exception looks at
  have hcongr : ∀ {u : Step}, Same w u → u.s.retryAt = w.s.retryAt →
      (SpikeHandled u.s sample u.g u.now ↔ SpikeHandled w.s sample w.g w.now) := by
    intro u same hretry
    rw [same.g, same.now]
    constructor
    all_goals
      intro hu
      constructor
      · simpa [same.state, same.pl1W, same.fwPl1W, same.fwPl2W] using hu.readback
      · simpa [same.state, AtFloor, same.pl1W, same.pl2W] using hu.fallback
      · simpa [GovState.Waiting, same.state, hretry, same.pl1W, same.pl2W] using hu.waiting
  cases h with
  | off hoff => simp [hmode] at hoff
  | static hstatic => simp [hmode] at hstatic
  | stale _ _ _ hstale => exact absurd hstale hfresh
  | readbackFailed _ hrb => exact readbackFailed_atFloor_iff hg hrb
  | @wait u _ hrb hwait same hretry =>
      rw [← same.g] at hmode hspike
      have hwait' : u.Waiting := by
        simpa [Waiting, same.state, hretry, same.now] using hwait
      rw [← hcongr same hretry, ← same.g]
      exact wait_atFloor_iff hmode hspike hrb hwait'
  | @control u _ hrb hwait _ same force =>
      rw [← same.g] at hspike
      have hlow := control_atFloor u hspike force
      rw [same.g] at hlow
      -- under control there is no exception
      refine iff_of_true hlow ⟨?_, ?_, ?_⟩
      · rintro ⟨rb, hfail⟩
        exact absurd hfail (hrb rb)
      · rintro ⟨rb, hfail⟩
        exact absurd hfail (hrb rb)
      · intro _ hwaiting
        exact absurd hwaiting hwait

end Step

namespace Run

variable (r : Run)

/-- Emergency override. After a dynamic tick with a valid sample at or above the
emergency threshold, both limits are at the floor exactly when the spike met
rule 2 or needed no cut. -/
theorem emergency_override_iff (n : ℕ) (hg : (r.ticks n).config.Validated)
    (hmode : (r.ticks n).config.mode = .dynamic)
    (hspike : (r.ticks n).sample.Spike (r.ticks n).config) :
    AtFloor (r.state (n + 1)) (r.ticks n).config ↔
      SpikeHandled (r.state n) (r.ticks n).sample (r.ticks n).config (r.time n) := by
  have hfresh : ¬ (r.before n).Stale := by
    rcases hspike with ⟨pdtr, acpw, hsample, -⟩
    exact r.before_fresh n hsample hg.staleTimeoutS_pos
  have h := (r.path n).atFloor_iff hmode hg hspike hfresh
  rw [r.after_s] at h
  refine h.trans ?_
  constructor <;> exact fun hs => ⟨hs.readback, hs.fallback, hs.waiting⟩

/-- 40 W of an 80 W adapter, then a failed readback together with 78 W. -/
def mismatch : Run where
  started := 0
  firmware := ⟨none, none⟩
  ticks n :=
    { sample :=
        if n = 0 then ⟨.num 40, .none, .num 80, .none, none⟩
        else ⟨.num 78, .none, .num 80, .none, some ⟨false, none⟩⟩
      config := { GovernorConfig.defaults with mode := .dynamic }
      now := n / 4 }
  mono := fun i j hij => by
    have h : (i : ℚ) ≤ j := by exact_mod_cast hij
    show (i : ℚ) / 4 ≤ j / 4
    linarith

theorem mismatch_spike : (mismatch.ticks 1).sample.Spike (mismatch.ticks 1).config :=
  ⟨78, 80, by decide +kernel, by decide +kernel⟩

/-- The spike of the second tick is not cut: PL1 stays at the static cap. -/
theorem mismatch_pl1 : (mismatch.state 2).pl1W = some 35 := by decide +kernel

/-- Not every spike is cut to the floor. -/
theorem emergency_override_fails :
    ¬ ∀ (r : Run) (n : ℕ), (∀ k, (r.ticks k).config.Validated) →
      (r.ticks n).config.mode = .dynamic →
      (r.ticks n).sample.Spike (r.ticks n).config →
      AtFloor (r.state (n + 1)) (r.ticks n).config := by
  intro hclaim
  have hg := GovernorConfig.defaults_validated.withMode .dynamic
  rcases hclaim mismatch 1 (fun _ => hg) rfl mismatch_spike with ⟨⟨pl1, hpl1, hle⟩, -⟩
  rw [mismatch_pl1] at hpl1
  cases hpl1
  exact absurd hle (by decide +kernel)

/-- The failed readback of that tick is outside the condition. -/
theorem emergency_override_iff_mismatch :
    ¬ SpikeHandled (mismatch.state 1) (mismatch.ticks 1).sample (mismatch.ticks 1).config
      (mismatch.time 1) := by
  intro hhandled
  have hg := GovernorConfig.defaults_validated.withMode .dynamic
  have h := (mismatch.emergency_override_iff 1 hg rfl mismatch_spike).2 hhandled
  rcases h with ⟨⟨pl1, hpl1, hle⟩, -⟩
  rw [mismatch_pl1] at hpl1
  cases hpl1
  exact absurd hle (by decide +kernel)

end Run

/-! ## How long the floor is held -/

namespace Step

variable {w w' : Step} {sample : Sample} {ceiling : ℚ} {d : Decision}

/-- EMERGENCY is entered with the hold timer clear, and kept with one that is
not older. -/
theorem Outcome.emergency_shed (h : Outcome w sample ceiling d) (hd : d.new = .emergency) :
    d.w.s.belowShedSince = none ∨ (w.s.state = .emergency ∧
      (d.w.s.belowShedSince = w.s.belowShedSince ∨ d.w.s.belowShedSince = some w.now)) := by
  cases h with
  | emergency _ _ after => exact Or.inl after.belowShedSince
  | hold _ _ _ _ after => exact Or.inl after.belowShedSince
  | invalid _ after =>
      right
      refine ⟨?_, Or.inl after.belowShedSince⟩
      by_contra hstate
      unfold Step.entryState at hd
      split at hd
      · exact w.label_ne_emergency _ hd
      · exact hstate hd
  | stay _ _ _ hstate _ after =>
      right
      refine ⟨hstate, ?_⟩
      rw [after.belowShedSince]
      cases w.s.belowShedSince <;> simp
  | cut | shed | leave => simp at hd
  | below | recover | between => exact absurd hd (w.label_ne_emergency _)

theorem Path.emergency_shed (h : Path w sample w') (hw' : w'.s.state = .emergency) :
    w'.s.belowShedSince = none ∨ (w.s.state = .emergency ∧
      (w'.s.belowShedSince = w.s.belowShedSince ∨ w'.s.belowShedSince = some w.now)) := by
  cases h with
  | off => simp [w.runOff_spec.1] at hw'
  | @readbackFailed rb _ _ => simp [(w.readbackFailed_spec rb).1] at hw'
  | @wait u _ _ hwait same _ => simp [(wait_spec u sample).1, same.state, hwait.1] at hw'
  | @static u _ _ force => simp [(runStatic_spec u force).1] at hw'
  | @stale u _ _ _ _ _ retried => simp [(runStale_spec u retried).1] at hw'
  | @control u _ _ _ _ same force =>
      rcases control_spec u sample force with ⟨v, d, hv, hd, hsettled⟩
      have h := hd.emergency_shed (hsettled.state.symm.trans hw')
      rwa [hv.state, same.state, hv.belowShedSince, same.belowShedSince, hv.now, same.now,
        ← hsettled.belowShedSince] at h

/-- EMERGENCY is left by the rules only after its hold. -/
theorem Outcome.leave_emergency (h : Outcome w sample ceiling d) (hw : w.s.state = .emergency)
    (hpl1 : w.s.pl1W ≠ none) :
    d.new = .emergency ∨ emergencyHoldS ≤ w.now - w.s.belowShedSince.getD w.now := by
  have hentry : w.entryState ceiling = .emergency := by
    simp [Step.entryState, Resume, hw, hpl1]
  cases h with
  | invalid | hold | stay => exact Or.inl hentry
  | emergency => exact Or.inl rfl
  | leave _ _ _ _ hheld => exact Or.inr hheld
  | cut _ _ _ hstate | shed _ _ _ hstate | below _ _ _ hstate | recover _ _ _ hstate
  | between _ _ _ hstate => exact absurd hw hstate

theorem Path.leave_emergency (h : Path w sample w') (hmode : w.g.mode = .dynamic)
    (hw : w.s.state = .emergency) (hpl1 : w.s.pl1W ≠ none) :
    w'.s.state = .fallback ∨ w'.s.state = .emergency ∨
      emergencyHoldS ≤ w.now - w.s.belowShedSince.getD w.now := by
  cases h with
  | off hoff => simp [hmode] at hoff
  | static hstatic => simp [hmode] at hstatic
  | readbackFailed => exact Or.inl (w.readbackFailed_spec _).1
  | @wait u _ _ hwait same _ => exact Or.inl ((wait_spec u sample).1.trans (same.state.trans hwait.1))
  | @stale u _ _ _ _ _ retried => exact Or.inl (runStale_spec u retried).1
  | @control u _ _ _ _ same force =>
      right
      rcases control_spec u sample force with ⟨v, d, hv, hd, hsettled⟩
      have h := hd.leave_emergency (hv.state.trans (same.state.trans hw))
        (by rwa [hv.pl1W, same.pl1W])
      rwa [hv.now, same.now, hv.belowShedSince, same.belowShedSince, ← hsettled.state] at h

/-- A spike leaves FALLBACK, or EMERGENCY with the hold timer clear. -/
theorem Path.spike_state (h : Path w sample w') (hmode : w.g.mode = .dynamic)
    (hspike : sample.Spike w.g) (hfresh : ¬ w.Stale) :
    w'.s.state = .fallback ∨ (w'.s.state = .emergency ∧ w'.s.belowShedSince = none) := by
  cases h with
  | off hoff => simp [hmode] at hoff
  | static hstatic => simp [hmode] at hstatic
  | stale _ _ _ hstale => exact absurd hstale hfresh
  | readbackFailed => exact Or.inl (w.readbackFailed_spec _).1
  | @wait u _ _ hwait same _ => exact Or.inl ((wait_spec u sample).1.trans (same.state.trans hwait.1))
  | @control u _ _ _ _ same force =>
      right
      rcases control_spec u sample force with ⟨v, d, hv, hd, hsettled⟩
      rw [← same.g, ← hv.g] at hspike
      rcases hd.spike hspike with ⟨hnew, -, hshed⟩
      exact ⟨hsettled.state.trans hnew, hsettled.belowShedSince.trans hshed⟩

end Step

namespace Run

/-- The run left FALLBACK between the ticks `m` and `n`, with a recovery
interval to spare. -/
def Released (r : Run) (g : GovernorConfig) (m n : ℕ) : Prop :=
  ∃ k, m < k ∧ k < n ∧ (r.state k).state = .fallback ∧ (r.state (k + 1)).state ≠ .fallback ∧
    r.time k + g.recoverIntervalS ≤ r.time n

/-- Still on hold before tick `n`, after the spike of tick `m`: in EMERGENCY
with a hold timer that started since, or since a FALLBACK at tick `k` with a
recovery timer that started since. -/
structure OnHold (r : Run) (g : GovernorConfig) (m n : ℕ) : Prop where
  pl1W : (r.state n).pl1W = some (r.firmware.cap1 g.floor)
  timer : ((r.state n).state = .emergency ∧
      ∀ since ∈ (r.state n).belowShedSince, r.time m ≤ since) ∨
    ∃ k, m < k ∧ k ≤ n ∧ (r.state k).state = .fallback ∧
      (k < n → (r.state (k + 1)).state ≠ .fallback ∧ (r.state n).state ≠ .emergency) ∧
      ∀ since ∈ (r.state n).belowRecoverSince, r.time k ≤ since

variable {r : Run} {g : GovernorConfig} {m n : ℕ}

theorem Released.mono (h : r.Released g m n) : r.Released g m (n + 1) := by
  rcases h with ⟨k, hmk, hkn, hfallback, hleft, htime⟩
  exact ⟨k, hmk, Nat.lt_succ_of_lt hkn, hfallback, hleft,
    htime.trans (r.mono (Nat.le_succ n))⟩

variable (hconfig : ∀ n, (r.ticks n).config = g) (hmode : g.mode = .dynamic) (hg : g.Validated)

include hconfig hmode hg in
/-- A spike that leaves PL1 at the floor starts the hold. -/
theorem onHold_spike (hspike : (r.ticks m).sample.Spike g)
    (hpl1 : (r.state (m + 1)).pl1W = some (r.firmware.cap1 g.floor)) : r.OnHold g m (m + 1) := by
  refine ⟨hpl1, ?_⟩
  have hfresh : ¬ (r.before m).Stale := by
    rcases hspike with ⟨pdtr, acpw, hsample, -⟩
    exact r.before_fresh m hsample ((hconfig m).symm ▸ hg.staleTimeoutS_pos)
  have hpath := (r.path m).spike_state (by simp [hconfig, hmode]) (by simpa [hconfig] using hspike)
    hfresh
  rw [r.after_s] at hpath
  rcases hpath with hfallback | ⟨hemergency, hshed⟩
  · right
    refine ⟨m + 1, Nat.lt_succ_self m, le_refl _, hfallback, fun h => absurd h (lt_irrefl _), ?_⟩
    simp [(r.timersClear (m + 1)).fallbackRecover hfallback]
  · left
    simp [hemergency, hshed]

/-- A recovery on hold shows that the run left FALLBACK long enough ago. -/
theorem OnHold.released (h : r.OnHold g m n) (hconfig : ∀ n, (r.ticks n).config = g)
    (hrecover : r.Emits n .recover) : r.Released g m n := by
  have hstep := r.recovers n hrecover
  rcases hstep.since with ⟨since, hsince, hspan⟩
  have hstate := hstep.state
  simp only [before_frame, hconfig] at hsince hspan hstate
  rcases h.timer with ⟨hemergency, -⟩ | ⟨k, hmk, hkn, hfallback, hleft, hrun⟩
  · exact absurd hemergency hstate
  · rcases Nat.lt_or_eq_of_le hkn with hlt | rfl
    · refine ⟨k, hmk, hlt, hfallback, (hleft hlt).1, ?_⟩
      have hk := hrun since hsince
      linarith
    · -- still in FALLBACK: the recovery timer is clear
      simp [(r.timersClear k).fallbackRecover hfallback] at hsince

include hconfig hmode hg in
/-- One tick within the hold keeps the floor, unless it recovers. -/
theorem OnHold.step (h : r.OnHold g m n) (hmn : m < n) (ht : r.time n < r.time m + emergencyHoldS)
    (hcalm : ¬ r.Emits n .recover) : r.OnHold g m (n + 1) := by
  constructor
  case pl1W =>
    -- PL1 is at the floor, and only a recovery raises it
    rcases floor_le hconfig hmode hg n with ⟨-, pl1, hpl1, hge⟩
    obtain ⟨i, rfl⟩ : ∃ i, n = i + 1 := ⟨n - 1, by omega⟩
    rcases level_step hconfig hmode hg (i + 1) with hle | ⟨hrecover, -⟩
    · rw [level_succ hpl1, level_succ h.pl1W] at hle
      rw [hpl1, le_antisymm hle hge]
    · exact absurd hrecover hcalm
  case timer =>
    by_cases hfallback : (r.state (n + 1)).state = .fallback
    · -- FALLBACK: its timers are clear, and it is the one to leave
      right
      refine ⟨n + 1, Nat.lt_succ_of_lt hmn, le_refl _, hfallback,
        fun hlt => absurd hlt (lt_irrefl _), ?_⟩
      simp [(r.timersClear (n + 1)).fallbackRecover hfallback]
    by_cases hemergency : (r.state (n + 1)).state = .emergency
    · -- EMERGENCY: entered by a new spike, or not left yet
      left
      refine ⟨hemergency, ?_⟩
      have hshed := (r.path n).emergency_shed (by simpa using hemergency)
      simp only [after_s, before_frame] at hshed
      rcases hshed with hnone | ⟨hstate, hkeep⟩
      · simp [hnone]
      · rcases h.timer with ⟨-, hrun⟩ | ⟨k, hmk, hkn, hk, hleft, -⟩
        · intro since hsince
          rcases hkeep with hkeep | hstart
          · rw [hkeep] at hsince
            exact hrun since hsince
          · rw [hstart] at hsince
            cases hsince
            exact r.mono hmn.le
        · rcases Nat.lt_or_eq_of_le hkn with hlt | rfl
          · exact absurd hstate (hleft hlt).2
          · simp [hk] at hstate
    -- NORMAL or TRIM
    rcases h.timer with ⟨hstate, hrun⟩ | ⟨k, hmk, hkn, hk, hleft, hrun⟩
    · -- straight from EMERGENCY it takes the whole hold
      exfalso
      have hleave := (r.path n).leave_emergency (by simp [hconfig, hmode]) (by simpa using hstate)
        (by simp [h.pl1W])
      simp only [after_s, before_frame] at hleave
      rcases hleave with h' | h' | hheld
      · exact hfallback h'
      · exact hemergency h'
      · have hm : r.time m ≤ (r.state n).belowShedSince.getD (r.time n) := by
          cases hs : (r.state n).belowShedSince with
          | none => exact r.mono hmn.le
          | some since => exact hrun since hs
        linarith
    · -- since a FALLBACK: the recovery timer can only be restarted
      right
      refine ⟨k, hmk, Nat.le_succ_of_le hkn, hk, ?_, ?_⟩
      · intro _
        refine ⟨?_, hemergency⟩
        rcases Nat.lt_or_eq_of_le hkn with hlt | rfl
        · exact (hleft hlt).1
        · exact hfallback
      · intro since hsince
        rcases r.recover_stopwatch.step n with hclear | hkeep | hstart
        · simp [hclear] at hsince
        · exact hrun since (hkeep ▸ hsince)
        · rw [hstart] at hsince
          cases hsince
          exact r.mono hkn

/-- Emergency hold. In a dynamic run under one validated configuration, after a
spike at tick `m` that leaves PL1 at the capped floor, no tick earlier than
`EMERGENCY_HOLD_S` later raises PL1 above it, unless the run has left FALLBACK
since, at least a recovery interval before. -/
theorem emergency_hold (r : Run) (g : GovernorConfig) (hconfig : ∀ n, (r.ticks n).config = g)
    (hmode : g.mode = .dynamic) (hg : g.Validated) {m n : ℕ}
    (hspike : (r.ticks m).sample.Spike g)
    (hpl1 : (r.state (m + 1)).pl1W = some (r.firmware.cap1 g.floor))
    (hmn : m ≤ n) (ht : r.time n < r.time m + emergencyHoldS) :
    (r.state (n + 1)).pl1W = some (r.firmware.cap1 g.floor) ∨ r.Released g m n := by
  have hrun : r.OnHold g m (n + 1) ∨ r.Released g m n := by
    induction n, hmn using Nat.le_induction with
    | base => exact Or.inl (onHold_spike hconfig hmode hg hspike hpl1)
    | succ n hmn ih =>
        rcases ih (lt_of_le_of_lt (r.mono (Nat.le_succ n)) ht) with hhold | hreleased
        · by_cases hrecover : r.Emits (n + 1) .recover
          · exact Or.inr (hhold.released hconfig hrecover)
          · exact Or.inl (hhold.step hconfig hmode hg (Nat.lt_succ_of_le hmn) ht hrecover)
        · exact Or.inr hreleased.mono
  rcases hrun with hhold | hreleased
  · exact Or.inl hhold.pl1W
  · exact Or.inr hreleased

/-- A spike, a failed readback a quarter second later, the retry a second after
that, all under a recovery interval of one second. -/
def detour : Run where
  started := 0
  firmware := ⟨none, none⟩
  ticks n :=
    { sample :=
        if n = 0 then ⟨.num 78, .none, .num 80, .none, none⟩
        else if n = 1 then ⟨.num 40, .none, .num 80, .none, some ⟨false, none⟩⟩
        else ⟨.num 40, .none, .num 80, .none, none⟩
      config := { GovernorConfig.defaults with mode := .dynamic, recoverIntervalS := 1 }
      now := if n = 0 then 0 else n - 3 / 4 }
  mono := fun i j hij => by
    have h : (i : ℚ) ≤ j := by exact_mod_cast hij
    show (if i = 0 then 0 else (i : ℚ) - 3 / 4) ≤ if j = 0 then 0 else (j : ℚ) - 3 / 4
    split_ifs with hi hj hj
    · exact le_refl _
    · have hj' : (1 : ℚ) ≤ j := by exact_mod_cast Nat.one_le_iff_ne_zero.2 hj
      linarith
    · omega
    · linarith

theorem detour_validated (n : ℕ) : (detour.ticks n).config.Validated :=
  (GovernorConfig.defaults_validated.withMode .dynamic).withRecoverIntervalS (by decide +kernel)

theorem detour_spike : (detour.ticks 0).sample.Spike (detour.ticks 0).config :=
  ⟨78, 80, by decide +kernel, by decide +kernel⟩

theorem detour_floor :
    (detour.state 1).pl1W = some (detour.firmware.cap1 (detour.ticks 0).config.floor) := by
  decide +kernel

/-- The fourth tick, 2.25 s after the spike, recovers to 11 W. -/
theorem detour_pl1 : (detour.state 4).pl1W = some 11 := by decide +kernel

/-- The floor of an emergency does not always last `EMERGENCY_HOLD_S`. -/
theorem emergency_hold_fails :
    ¬ ∀ (r : Run) (g : GovernorConfig), (∀ n, (r.ticks n).config = g) → g.mode = .dynamic →
      g.Validated → ∀ m n : ℕ, (r.ticks m).sample.Spike g →
      (r.state (m + 1)).pl1W = some (r.firmware.cap1 g.floor) → m ≤ n →
      r.time n < r.time m + emergencyHoldS →
      ∀ pl1 ∈ (r.state (n + 1)).pl1W, pl1 ≤ r.firmware.cap1 g.floor := by
  intro hclaim
  have hle := hclaim detour (detour.ticks 0).config (fun _ => rfl) rfl (detour_validated 0) 0 3
    detour_spike detour_floor (by decide) (by decide +kernel) 11 detour_pl1
  exact absurd hle (by decide +kernel)

/-- In that run the hold ended by leaving FALLBACK a recovery interval before. -/
theorem emergency_hold_detour : detour.Released (detour.ticks 0).config 0 3 := by
  rcases emergency_hold detour (detour.ticks 0).config (fun _ => rfl) rfl (detour_validated 0)
    detour_spike detour_floor (show 0 ≤ 3 by decide) (by decide +kernel) with hpl1 | hreleased
  · rw [detour_pl1] at hpl1
    exact absurd hpl1 (by decide +kernel)
  · exact hreleased

end Run

end TurboMac.Linux
