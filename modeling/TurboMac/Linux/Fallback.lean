import TurboMac.Linux.Emergency

/-! # FALLBACK never releases

FALLBACK commands the static cap or what is in force, whichever is lower
(rules 6 and 7). `fallback_never_releases` follows one episode from the tick
that enters it to the tick that leaves it, and says what evidence a governed
state rests on.
-/

namespace TurboMac.Linux

namespace Step

variable {w w' : Step} {sample : Sample}

/-! ## A command is in force after its step -/

/-- What `w'` commands over `w` is in force in `w'`, and was written now. -/
def InForce (w w' : Step) : Prop :=
  ∀ limits ∈ commanded w'.actions, limits ∈ commanded w.actions ∨
    (w'.s.pl1W = some limits.1 ∧ w'.s.pl2W = some limits.2 ∧ w'.s.lastWrite = some w.now)

theorem InForce.write {u : Step} (hcmd : commanded u.actions = commanded w.actions)
    (hnow : u.now = w.now) (pl1 pl2 : ℚ) (reason : WriteReason) (force : Bool) :
    InForce w (u.write pl1 pl2 reason force) := by
  intro limits hmem
  have hlimits := write_limits u pl1 pl2 reason force
  rcases u.write_cases pl1 pl2 reason force with ⟨h, -⟩ | ⟨h, hstamp⟩
  · rw [h, hcmd] at hmem
    exact Or.inl hmem
  · rw [h, hcmd, List.mem_append, List.mem_singleton] at hmem
    rcases hmem with hold | rfl
    · exact Or.inl hold
    · exact Or.inr ⟨hlimits.1, hlimits.2, hstamp.trans (congrArg some hnow)⟩

theorem InForce.silent {u : Step} (hcmd : commanded u.actions = commanded w.actions) :
    InForce w u := by
  intro limits hmem
  rw [hcmd] at hmem
  exact Or.inl hmem

theorem InForce.enter {u : Step} (h : InForce w u) (new : State)
    (reason : Option FallbackReason) : InForce w (u.enter new reason) := by
  intro limits hmem
  rw [enter_commanded] at hmem
  simpa using h limits hmem

theorem InForce.event {u : Step} (h : InForce w u) (e : Event) : InForce w (u.event e) := by
  intro limits hmem
  rw [event_commanded] at hmem
  exact h limits hmem

/-- Silent bookkeeping before the step. -/
theorem InForce.congr {u : Step} (h : InForce u w')
    (hcmd : commanded u.actions = commanded w.actions) (hnow : u.now = w.now) :
    InForce w w' := by
  intro limits hmem
  rw [← hcmd, ← hnow]
  exact h limits hmem

theorem fallback_inForce (w : Step) (reason : FallbackReason) (static : ℚ) :
    InForce w (w.fallback reason static) := by
  unfold fallback
  dsimp only
  apply InForce.write <;> split <;> simp [clearBelow]

theorem runOff_inForce (w : Step) : InForce w w.runOff := by
  unfold runOff
  dsimp only
  apply InForce.enter
  split
  · exact InForce.write rfl rfl _ _ _ _
  · exact InForce.silent rfl

theorem readbackFailed_inForce (w : Step) (rb : Readback) : InForce w (w.readbackFailed rb) := by
  unfold readbackFailed
  dsimp only
  apply InForce.event
  split
  · exact (fallback_inForce _ _ _).congr rfl rfl
  · exact InForce.silent rfl

theorem wait_inForce (w : Step) (sample : Sample) : InForce w (w.wait sample) := by
  unfold wait
  split
  · dsimp only
    split
    · exact InForce.write (by simp) (by simp) _ _ _ _
    · exact InForce.silent rfl
  · exact InForce.silent rfl

/-- Waiting without a cut commands nothing. -/
theorem wait_kept (w : Step) (sample : Sample)
    (h : ¬ (w.g.mode = .dynamic ∧ sample.Spike w.g ∧ w.AboveFloor)) : w.wait sample = w := by
  unfold wait
  split
  · rename_i pdtr acpw hsample
    have hspike : sample.Spike w.g ↔ (thresholds acpw w.g).emergencyW ≤ pdtr := by
      simp [Sample.Spike, hsample]
    rw [hspike] at h
    exact if_neg h
  · rfl

theorem runStatic_inForce (w : Step) (force : Bool) : InForce w (w.runStatic force) := by
  unfold runStatic
  exact InForce.write (by simp) (by simp) _ _ _ _

theorem runStale_inForce (w : Step) (retried : Bool) : InForce w (w.runStale retried) := by
  unfold runStale
  dsimp only
  split
  · exact (fallback_inForce _ _ _).congr rfl rfl
  · exact InForce.write rfl rfl _ _ _ _

/-- Both limits of stale telemetry are the fallback limit. -/
theorem runStale_limits (w : Step) (retried : Bool) :
    (w.runStale retried).s.pl1W = some (w.cap1 (w.fallbackW w.g.staticCapW)) ∧
      (w.runStale retried).s.pl2W = some (w.cap2 (w.fallbackW w.g.staticCapW)) := by
  unfold runStale
  by_cases h : w.s.state = .fallback
  · simp [h, cap1, cap2, fallbackW]
  · simp [h, fallback_spec, cap1, cap2, fallbackW]

theorem control_inForce (w : Step) (sample : Sample) (force : Bool) :
    InForce w (w.control sample force) := by
  have hd := decision_outcome (w := (w.thermal sample.pkgC w.floor w.top).2) sample
    (w.thermal sample.pkgC w.floor w.top).1
  rw [control_eq]
  unfold settle
  apply InForce.write
  · rw [enter_commanded]
    exact hd.same.2.2.2.trans (same_thermal _ _ _).commanded
  · rw [(enter_frame _ _ _).2.1]
    exact hd.stamps.1.trans (same_thermal _ _ _).now

/-- A step's commands are in force after it. -/
theorem Path.inForce (h : Path w sample w') : InForce w w' := by
  cases h with
  | off => exact w.runOff_inForce
  | readbackFailed => exact w.readbackFailed_inForce _
  | wait _ _ _ same _ => exact (wait_inForce _ sample).congr same.commanded same.now
  | static _ same force => exact (runStatic_inForce _ force).congr same.commanded same.now
  | stale _ _ _ _ same retried =>
      exact (runStale_inForce _ retried).congr same.commanded same.now
  | control _ _ _ _ same force =>
      exact (control_inForce _ sample force).congr same.commanded same.now

/-! ## Fresh telemetry -/

theorem fallback_telemetry (w : Step) (reason : FallbackReason) (static : ℚ) :
    (w.fallback reason static).s.lastValid = w.s.lastValid ∧
      (w.fallback reason static).s.started = w.s.started := by
  unfold fallback
  dsimp only
  split <;> simp [clearBelow]

theorem control_telemetry (w : Step) (sample : Sample) (force : Bool) :
    (w.control sample force).s.lastValid = w.s.lastValid ∧
      (w.control sample force).s.started = w.s.started := by
  have hd := decision_outcome (w := (w.thermal sample.pkgC w.floor w.top).2) sample
    (w.thermal sample.pkgC w.floor w.top).1
  have hu := w.same_thermal sample.pkgC w.floor w.top
  have hsettle := settle_stamps ((w.thermal sample.pkgC w.floor w.top).2.decision sample
    (w.thermal sample.pkgC w.floor w.top).1)
  rw [control_eq]
  constructor
  · rw [(hsettle _).2.2.1, hd.stamps.2.2.1, hu.lastValid]
  · rw [(hsettle _).2.1, hd.stamps.2.1, hu.started]

/-- No path moves the stamps that staleness is measured from. -/
theorem Path.telemetry (h : Path w sample w') :
    w'.s.lastValid = w.s.lastValid ∧ w'.s.started = w.s.started := by
  cases h with
  | off =>
      unfold runOff
      dsimp only
      split <;> simp
  | readbackFailed =>
      unfold Step.readbackFailed
      dsimp only
      split <;> simp [fallback_telemetry]
  | @wait u _ _ _ same _ =>
      rw [← same.lastValid, ← same.started]
      unfold Step.wait
      split
      · dsimp only
        split <;> simp
      · exact ⟨rfl, rfl⟩
  | static _ same force => simp [runStatic, same.lastValid, same.started]
  | @stale u _ _ _ _ same retried =>
      rw [← same.lastValid, ← same.started]
      unfold runStale
      dsimp only
      split <;> simp [fallback_telemetry]
  | @control u _ _ _ _ same force =>
      rw [← same.lastValid, ← same.started]
      exact control_telemetry u sample force

/-! ## One step of an episode -/

/-- What is commanded on the way into FALLBACK, and in it. -/
theorem Path.fallback_le {pl1 limit : ℚ} (h : Path w sample w') (hmode : w.g.mode = .dynamic)
    (hw' : w'.s.state = .fallback) (hpl1 : w.s.pl1W = some pl1)
    (henter : w.s.state ≠ .fallback → min w.g.staticCapW pl1 ≤ limit)
    (hstay : w.s.state = .fallback → pl1 ≤ limit) :
    (∃ new, w'.s.pl1W = some new ∧ new ≤ pl1 ∧ new ≤ limit) ∧
      ∀ limits ∈ commanded w'.actions,
        limits ∈ commanded w.actions ∨ (limits.1 ≤ limit ∧ limits.2 ≤ limit) := by
  have hfallback : w.fallbackW w.g.staticCapW ≤ pl1 ∧ w.fallbackW w.g.staticCapW ≤ limit := by
    simp only [fallbackW, hpl1]
    refine ⟨min_le_right _ _, ?_⟩
    by_cases hw : w.s.state = .fallback
    · exact (min_le_right _ _).trans (hstay hw)
    · exact henter hw
  have hcap1 := w.cap1_le (w.fallbackW w.g.staticCapW)
  have hcap2 := w.cap2_le (w.fallbackW w.g.staticCapW)
  -- with both limits in force bounded, so are the commands
  have hcommands : ∀ new1 new2, w'.s.pl1W = some new1 → w'.s.pl2W = some new2 → new1 ≤ limit →
      new2 ≤ limit → ∀ limits ∈ commanded w'.actions,
        limits ∈ commanded w.actions ∨ (limits.1 ≤ limit ∧ limits.2 ≤ limit) := by
    intro new1 new2 hnew1 hnew2 hle1 hle2 limits hmem
    rcases h.inForce limits hmem with hold | ⟨hforce1, hforce2, -⟩
    · exact Or.inl hold
    · cases hnew1.symm.trans hforce1
      cases hnew2.symm.trans hforce2
      exact Or.inr ⟨hle1, hle2⟩
  cases h with
  | off hoff => simp [hmode] at hoff
  | static hstatic => simp [hmode] at hstatic
  | @readbackFailed rb _ _ =>
      rcases w.readbackFailed_spec rb with ⟨-, hpl1', hpl2', -⟩
      by_cases hw : w.s.state = .fallback
      · -- only the backoff is noted
        simp only [hw, if_true] at hpl1'
        refine ⟨⟨pl1, hpl1'.trans hpl1, le_refl _, hstay hw⟩, ?_⟩
        intro limits hmem
        left
        simpa [Step.readbackFailed, hw] using hmem
      · simp only [hw, if_false] at hpl1' hpl2'
        exact ⟨⟨_, hpl1', hcap1.trans hfallback.1, hcap1.trans hfallback.2⟩,
          hcommands _ _ hpl1' hpl2' (hcap1.trans hfallback.2) (hcap2.trans hfallback.2)⟩
  | @wait u _ _ hwait same _ =>
      rcases wait_spec u sample with ⟨-, -, -, -, -, ⟨-, -, habove, hcut1, hcut2⟩ |
        ⟨hkeep, hkeep1, -⟩⟩
      · -- rule 2: the floor is below what is in force
        have hlt : u.floor < pl1 := habove pl1 (same.pl1W.trans hpl1)
        have hle := hlt.le.trans (hstay hwait.1)
        exact ⟨⟨_, hcut1, (u.cap1_le _).trans hlt.le, (u.cap1_le _).trans hle⟩,
          hcommands _ _ hcut1 hcut2 ((u.cap1_le _).trans hle) ((u.cap2_le _).trans hle)⟩
      · refine ⟨⟨pl1, hkeep1.trans (same.pl1W.trans hpl1), le_refl _, hstay hwait.1⟩, ?_⟩
        intro limits hmem
        left
        rw [← same.commanded]
        rwa [wait_kept u sample hkeep] at hmem
  | @stale u _ _ _ _ same retried =>
      rcases runStale_limits u retried with ⟨hpl1', hpl2'⟩
      rw [same.fallbackW, same.cap1, same.g] at hpl1'
      rw [same.fallbackW, same.cap2, same.g] at hpl2'
      exact ⟨⟨_, hpl1', hcap1.trans hfallback.1, hcap1.trans hfallback.2⟩,
        hcommands _ _ hpl1' hpl2' (hcap1.trans hfallback.2) (hcap2.trans hfallback.2)⟩
  | @control u _ _ _ _ same force =>
      rcases control_spec u sample force with ⟨_, d, _, hd, hsettled⟩
      rcases hd.new_governed with hnew | hnew | hnew <;> simp [hsettled.state, hnew] at hw'

end Step

/-! ## Episodes of a run -/

namespace Run

/-- Tick `i` enters FALLBACK, and the run is still there before tick `n`. -/
structure Episode (r : Run) (i n : ℕ) : Prop where
  lt : i < n
  entered : (r.state i).state ≠ .fallback
  during : ∀ k, i < k → k ≤ n → (r.state k).state = .fallback

/-- The stamp of the last valid sample, this tick's included. -/
theorem before_lastValid (r : Run) (n : ℕ) :
    (∃ k ≤ n, (r.ticks k).sample.valid?.isSome ∧ (r.before n).s.lastValid = some (r.time k)) ∨
      ((∀ k ≤ n, (r.ticks k).sample.valid? = none) ∧ (r.before n).s.lastValid = none) := by
  have hbefore : ∀ n, (r.before n).s.lastValid =
      if (r.ticks n).sample.valid?.isSome then some (r.time n) else (r.state n).lastValid := by
    intro n
    rfl
  -- on the ticks: a valid sample is noted, and nothing else clears the note
  induction n with
  | zero =>
      rw [hbefore]
      by_cases hvalid : (r.ticks 0).sample.valid?.isSome
      · exact Or.inl ⟨0, le_refl _, hvalid, by simp [hvalid]⟩
      · right
        simp only [hvalid]
        simpa [state, initial] using hvalid
  | succ n ih =>
      have hkeep := (r.path n).telemetry.1
      rw [r.after_s] at hkeep
      by_cases hvalid : (r.ticks (n + 1)).sample.valid?.isSome
      · exact Or.inl ⟨n + 1, le_refl _, hvalid, by simp [hbefore, hvalid]⟩
      · have hold : (r.before (n + 1)).s.lastValid = (r.before n).s.lastValid := by
          simp [hbefore (n + 1), hvalid, hkeep]
        rw [hold]
        rcases ih with ⟨k, hkn, hk, hlast⟩ | ⟨hnone, hlast⟩
        · exact Or.inl ⟨k, Nat.le_succ_of_le hkn, hk, hlast⟩
        · right
          refine ⟨?_, hlast⟩
          intro k hk
          rcases Nat.lt_or_eq_of_le hk with hlt | rfl
          · exact hnone k (Nat.le_of_lt_succ hlt)
          · simpa using hvalid

theorem state_started (r : Run) (n : ℕ) : (r.state n).started = r.started := by
  induction n with
  | zero => rfl
  | succ n ih =>
      have hkeep := (r.path n).telemetry.2
      rw [r.after_s] at hkeep
      simpa [ih] using hkeep

/-- A governed state rests on a valid sample less than `stale_timeout_s` old;
before any, on the start of the run. -/
theorem governed_fresh (r : Run) (n : ℕ) (hstate : State.Governed (r.state (n + 1)).state) :
    (∃ k ≤ n, (r.ticks k).sample.valid?.isSome ∧
        r.time n - r.time k < (r.ticks n).config.staleTimeoutS) ∨
      ((∀ k ≤ n, (r.ticks k).sample.valid? = none) ∧
        r.time n - r.started < (r.ticks n).config.staleTimeoutS) := by
  have hfresh : r.time n - (r.before n).s.lastValid.getD r.started <
      (r.ticks n).config.staleTimeoutS := by
    have h := ((r.path n).governed hstate).1
    simpa [Step.Stale, r.state_started] using h
  rcases r.before_lastValid n with ⟨k, hkn, hvalid, hlast⟩ | ⟨hnone, hlast⟩
  · left
    exact ⟨k, hkn, hvalid, by simpa [hlast] using hfresh⟩
  · right
    exact ⟨hnone, by simpa [hlast] using hfresh⟩

variable {r : Run} {g : GovernorConfig} {i k n : ℕ} {pl1 limit : ℚ}

/-- A tick that ends in FALLBACK, along the run. -/
theorem fallback_step (hconfig : ∀ n, (r.ticks n).config = g) (hmode : g.mode = .dynamic)
    (hfallback : (r.state (k + 1)).state = .fallback) (hpl1 : (r.state k).pl1W = some pl1)
    (henter : (r.state k).state ≠ .fallback → min g.staticCapW pl1 ≤ limit)
    (hstay : (r.state k).state = .fallback → pl1 ≤ limit) :
    (∃ pl1', (r.state (k + 1)).pl1W = some pl1' ∧ pl1' ≤ pl1 ∧ pl1' ≤ limit) ∧
      ∀ limits ∈ commanded (r.actions k), limits.1 ≤ limit ∧ limits.2 ≤ limit := by
  have hpath := (r.path k).fallback_le (by simp [hconfig, hmode]) hfallback hpl1
    (by simpa [hconfig] using henter) hstay
  rcases hpath with ⟨hlimit, hcommands⟩
  refine ⟨hlimit, ?_⟩
  intro limits hmem
  rcases hcommands limits hmem with hold | hbounds
  · simp [commanded] at hold
  · exact hbounds

/-- In an episode PL1 is held at the static cap or the limit it started with. -/
theorem Episode.pl1_le (h : r.Episode i n) (hconfig : ∀ n, (r.ticks n).config = g)
    (hmode : g.mode = .dynamic) (hlimit : (r.state i).pl1W = some limit) (hik : i < k)
    (hkn : k ≤ n) : ∃ pl1, (r.state k).pl1W = some pl1 ∧ pl1 ≤ min g.staticCapW limit := by
  induction k, hik using Nat.le_induction with
  | base =>
      -- entering
      have hstep := fallback_step hconfig hmode (h.during (i + 1) (Nat.lt_succ_self i) hkn) hlimit
        (fun _ => le_refl _) (fun hstate => absurd hstate h.entered)
      rcases hstep.1 with ⟨pl1, hpl1, -, hle⟩
      exact ⟨pl1, hpl1, hle⟩
  | succ k hik ih =>
      rcases ih (by omega) with ⟨pl1, hpl1, hle⟩
      have hstay := h.during k hik (by omega)
      have hstep := fallback_step hconfig hmode (h.during (k + 1) (by omega) hkn) hpl1
        (fun hstate => absurd hstay hstate) (fun _ => hle)
      rcases hstep.1 with ⟨pl1', hpl1', -, hle'⟩
      exact ⟨pl1', hpl1', hle'⟩

/-- No tick of an episode raises PL1, or commands more than the static cap or
the limit the episode started with. -/
theorem Episode.step (h : r.Episode i n) (hconfig : ∀ n, (r.ticks n).config = g)
    (hmode : g.mode = .dynamic) (hlimit : (r.state i).pl1W = some limit) (hik : i ≤ k)
    (hkn : k < n) :
    (∃ pl1 pl1', (r.state k).pl1W = some pl1 ∧ (r.state (k + 1)).pl1W = some pl1' ∧
      pl1' ≤ pl1) ∧
    ∀ limits ∈ commanded (r.actions k),
      limits.1 ≤ min g.staticCapW limit ∧ limits.2 ≤ min g.staticCapW limit := by
  have hfallback := h.during (k + 1) (Nat.lt_succ_of_le hik) hkn
  rcases Nat.lt_or_eq_of_le hik with hlt | rfl
  · rcases h.pl1_le hconfig hmode hlimit hlt hkn.le with ⟨pl1, hpl1, hle⟩
    have hstay := h.during k hlt hkn.le
    rcases fallback_step hconfig hmode hfallback hpl1 (fun hstate => absurd hstay hstate)
      (fun _ => hle) with ⟨⟨pl1', hpl1', hdown, -⟩, hcommands⟩
    exact ⟨⟨pl1, pl1', hpl1, hpl1', hdown⟩, hcommands⟩
  · rcases fallback_step hconfig hmode hfallback hlimit (fun _ => le_refl _)
      (fun hstate => absurd hstate h.entered) with ⟨⟨pl1', hpl1', hdown, -⟩, hcommands⟩
    exact ⟨⟨limit, pl1', hlimit, hpl1', hdown⟩, hcommands⟩

/-- Leaving FALLBACK does not raise PL1: the recovery timer is clear. -/
theorem Episode.leave (h : r.Episode i n) (hconfig : ∀ n, (r.ticks n).config = g)
    (hmode : g.mode = .dynamic) (hg : g.Validated) (hlimit : (r.state i).pl1W = some limit) :
    ∀ limits ∈ commanded (r.actions n), limits.1 ≤ min g.staticCapW limit := by
  intro limits hmem
  rcases h.pl1_le hconfig hmode hlimit h.lt (le_refl n) with ⟨pl1, hpl1, hle⟩
  have hforce : (r.state (n + 1)).pl1W = some limits.1 := by
    rcases (r.path n).inForce limits hmem with hold | ⟨hforce, -⟩
    · simp [commanded] at hold
    · exact hforce
  have hsilent : ¬ r.Emits n .recover := by
    intro hrecover
    rcases (r.recovers n hrecover).since with ⟨since, hsince, -⟩
    simp only [before_frame] at hsince
    rw [(r.timersClear n).fallbackRecover (h.during n h.lt (le_refl n))] at hsince
    cases hsince
  have hlevel := (ratchet hconfig hmode hg).hold n hsilent
  rw [level_succ hforce] at hlevel
  have hn : r.level n = pl1 := by
    have hpos : max n 1 = n := max_eq_left (Nat.one_le_of_lt h.lt)
    simp [level, hpos, hpl1]
  rw [hn] at hlevel
  exact hlevel.trans hle

/-- FALLBACK never releases. In a dynamic run under one validated configuration,
a FALLBACK that is entered with a PL1 in force commands nothing above it or the
static cap, never raises PL1, and does not raise it on leaving. And a governed
state rests on a valid sample, or the start, less than `stale_timeout_s` old. -/
theorem fallback_never_releases (r : Run) (g : GovernorConfig)
    (hconfig : ∀ n, (r.ticks n).config = g) (hmode : g.mode = .dynamic) (hg : g.Validated) :
    (∀ i n limit, r.Episode i n → (r.state i).pl1W = some limit →
      (∀ k, i ≤ k → k < n →
        (∃ pl1 pl1', (r.state k).pl1W = some pl1 ∧ (r.state (k + 1)).pl1W = some pl1' ∧
          pl1' ≤ pl1) ∧
        ∀ limits ∈ commanded (r.actions k),
          limits.1 ≤ min g.staticCapW limit ∧ limits.2 ≤ min g.staticCapW limit) ∧
      ((r.state (n + 1)).state ≠ .fallback →
        ∀ limits ∈ commanded (r.actions n), limits.1 ≤ min g.staticCapW limit)) ∧
    ∀ n, State.Governed (r.state (n + 1)).state →
      (∃ k ≤ n, (r.ticks k).sample.valid?.isSome ∧ r.time n - r.time k < g.staleTimeoutS) ∨
        ((∀ k ≤ n, (r.ticks k).sample.valid? = none) ∧
          r.time n - r.started < g.staleTimeoutS) := by
  constructor
  · intro i n limit hepisode hlimit
    constructor
    · intro k hik hkn
      exact hepisode.step hconfig hmode hlimit hik hkn
    · intro _
      exact hepisode.leave hconfig hmode hg hlimit
  · intro n hstate
    simpa [hconfig] using r.governed_fresh n hstate

/-- The failed readback of `detour`'s second tick, and the spike before it. -/
theorem detour_episode : detour.Episode 1 2 := by
  constructor
  · decide
  · decide +kernel
  · intro k hk hk'
    have hk2 : k = 2 := by omega
    rw [hk2]
    decide +kernel

theorem fallback_never_releases_detour :
    (commanded (detour.actions 2)).Forall fun limits => limits.1 ≤ min 35 10 := by
  apply List.forall_iff_forall_mem.2
  have h := fallback_never_releases detour (detour.ticks 0).config (fun _ => rfl) rfl
    (detour_validated 0)
  exact (h.1 1 2 10 detour_episode (by decide +kernel)).2 (by decide +kernel)

end Run

end TurboMac.Linux
