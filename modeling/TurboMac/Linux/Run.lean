import TurboMac.Lib.Timing
import TurboMac.Linux.Path

/-! # Runs of the governor

A run is `initial()` followed by one call of `step` per tick, at nondecreasing
times. Ticks are indexed by `ℕ`: what holds after every tick of every such run
holds after every finite sequence of calls.
-/

namespace TurboMac.Linux

/-- `floor` of `step`: the emergency target of a configuration. -/
def GovernorConfig.floor (g : GovernorConfig) : ℚ := min g.floorW g.staticCapW

/-- The clamp on PL1 under the firmware limits of a run. -/
def Firmware.cap1 (fw : Firmware) (watts : ℚ) : ℚ :=
  min (min watts hardMaxW) (Step.orHardMax fw.pl1W)

/-- The arguments of one call of `step`, its state apart. -/
structure Tick where
  sample : Sample
  config : GovernorConfig
  now : ℚ

/-- The daemon's calls of the governor. -/
structure Run where
  started : ℚ
  firmware : Firmware
  ticks : ℕ → Tick
  mono : Monotone fun n => (ticks n).now

namespace Run

variable (r : Run)

/-- The governor state before tick `n`. -/
def state : ℕ → GovState
  | 0 => initial r.started r.firmware
  | n + 1 => (step (state n) (r.ticks n).sample (r.ticks n).config (r.ticks n).now).1

/-- The actions of tick `n`. -/
def actions (n : ℕ) : List Action :=
  (step (r.state n) (r.ticks n).sample (r.ticks n).config (r.ticks n).now).2

def time (n : ℕ) : ℚ := (r.ticks n).now

/-- Tick `n` emits an event of type `t`. -/
def Emits (n : ℕ) (t : EventType) : Prop := t ∈ emitted (r.actions n)

/-- The working copy tick `n` starts from. -/
def before (n : ℕ) : Step :=
  Step.start (r.state n) (r.ticks n).sample (r.ticks n).config (r.ticks n).now

/-- The working copy tick `n` ends with. -/
def after (n : ℕ) : Step := (r.before n).run (r.ticks n).sample

@[simp] theorem after_s (n : ℕ) : (r.after n).s = r.state (n + 1) := rfl

@[simp] theorem after_actions (n : ℕ) : (r.after n).actions = r.actions n := rfl

theorem path (n : ℕ) : (r.before n).Path (r.ticks n).sample (r.after n) :=
  Step.run_path _ _

@[simp] theorem before_frame (n : ℕ) :
    (r.before n).g = (r.ticks n).config ∧ (r.before n).now = r.time n ∧
    (r.before n).actions = [] ∧
    (r.before n).s.state = (r.state n).state ∧
    (r.before n).s.started = (r.state n).started ∧
    (r.before n).s.pl1W = (r.state n).pl1W ∧ (r.before n).s.pl2W = (r.state n).pl2W ∧
    (r.before n).s.retryAt = (r.state n).retryAt ∧
    (r.before n).s.belowShedSince = (r.state n).belowShedSince ∧
    (r.before n).s.belowRecoverSince = (r.state n).belowRecoverSince ∧
    (r.before n).s.fwPl1W = (r.state n).fwPl1W ∧
    (r.before n).s.fwPl2W = (r.state n).fwPl2W :=
  ⟨rfl, rfl, rfl, rfl, rfl, rfl, rfl, rfl, rfl, rfl, rfl, rfl⟩

/-- Right after a valid sample nothing is stale. -/
theorem before_fresh (n : ℕ) {pdtr acpw : ℚ}
    (hsample : (r.ticks n).sample.valid? = some (pdtr, acpw))
    (hg : 0 < (r.ticks n).config.staleTimeoutS) : ¬ (r.before n).Stale := by
  have hvalid : (r.before n).s.lastValid = some (r.time n) := by
    show (if (r.ticks n).sample.valid?.isSome then some (r.ticks n).now else _) = _
    simp [hsample, time]
  simpa [Step.Stale, hvalid] using hg

/-- One tick a second. -/
theorem mono_seconds : Monotone fun n : ℕ => (n : ℚ) := Nat.mono_cast

/-- A calm dynamic run under the defaults, one tick a second: 40 W of an 80 W
adapter, firmware limits 40 W and 45 W. -/
def steady : Run where
  started := 0
  firmware := ⟨some 40, some 45⟩
  ticks n :=
    { sample := ⟨.num 40, .none, .num 80, .none, none⟩
      config := { GovernorConfig.defaults with mode := .dynamic }
      now := n }
  mono := mono_seconds

end Run

/-! ## What a path leaves behind -/

namespace Step

variable {w w' : Step} {sample : Sample}

theorem label_ne_emergency (w : Step) (x : ℚ) : w.label x ≠ .emergency := by
  unfold label
  split <;> simp

theorem Outcome.new_governed {ceiling : ℚ} {d : Decision} (h : Outcome w sample ceiling d) :
    d.new = .normal ∨ d.new = .trim ∨ d.new = .emergency := by
  have hlabel : ∀ x, w.label x = .normal ∨ w.label x = .trim ∨ w.label x = .emergency := by
    intro x
    unfold label
    split <;> simp
  have hentry : w.entryState ceiling = .normal ∨ w.entryState ceiling = .trim ∨
      w.entryState ceiling = .emergency := by
    unfold entryState
    split
    · exact hlabel _
    · rename_i hresume
      simp only [Resume, not_or, not_and_or, not_not] at hresume
      exact hresume.1
  cases h with
  | invalid | hold | stay => exact hentry
  | emergency => simp
  | cut | shed | leave => simp
  | below | recover | between => exact hlabel _

/-- The firmware limits never change. -/
theorem Path.firmware (h : Path w sample w') :
    w'.s.fwPl1W = w.s.fwPl1W ∧ w'.s.fwPl2W = w.s.fwPl2W := by
  cases h with
  | off => exact ⟨w.runOff_spec.2.2.1, w.runOff_spec.2.2.2.1⟩
  | @readbackFailed rb _ _ =>
      rcases w.readbackFailed_spec rb with ⟨-, -, -, hfw1, hfw2, -⟩
      exact ⟨hfw1, hfw2⟩
  | wait _ _ _ same _ =>
      rcases wait_spec _ sample with ⟨-, hfw1, hfw2, -⟩
      exact ⟨hfw1.trans same.fwPl1W, hfw2.trans same.fwPl2W⟩
  | static _ same force =>
      rcases runStatic_spec _ force with ⟨-, -, hfw1, hfw2, -⟩
      exact ⟨hfw1.trans same.fwPl1W, hfw2.trans same.fwPl2W⟩
  | stale _ _ _ _ same retried =>
      rcases runStale_spec _ retried with ⟨-, -, hfw1, hfw2, -⟩
      exact ⟨hfw1.trans same.fwPl1W, hfw2.trans same.fwPl2W⟩
  | control _ _ _ _ same force =>
      rcases control_spec _ sample force with ⟨_, d, _, _, hd⟩
      exact ⟨hd.fwPl1W.trans same.fwPl1W, hd.fwPl2W.trans same.fwPl2W⟩

/-- Each rule keeps, clears or starts each of the two timers. -/
theorem Outcome.timers {ceiling : ℚ} {d : Decision} (h : Outcome w sample ceiling d) :
    Timing.Moves w.now w.s.belowShedSince d.w.s.belowShedSince ∧
      Timing.Moves w.now w.s.belowRecoverSince d.w.s.belowRecoverSince := by
  have hstart := Timing.moves_getD w.now
  cases h with
  | invalid _ after =>
      rw [after.belowShedSince, after.belowRecoverSince]
      exact ⟨Timing.moves_keep _ _, Timing.moves_keep _ _⟩
  | emergency _ _ after | hold _ _ _ _ after | shed _ _ _ _ after | cut _ _ _ _ _ after =>
      rw [after.belowShedSince, after.belowRecoverSince]
      exact ⟨Or.inl rfl, Or.inl rfl⟩
  | leave _ _ _ _ _ after | between _ _ _ _ _ after =>
      rw [after.belowShedSince, after.belowRecoverSince]
      exact ⟨hstart _, Or.inl rfl⟩
  | stay _ _ _ _ _ after =>
      rw [after.belowShedSince, after.belowRecoverSince]
      exact ⟨hstart _, Timing.moves_keep _ _⟩
  | below _ _ _ _ _ after =>
      rw [after.belowShedSince, after.belowRecoverSince]
      exact ⟨hstart _, hstart _⟩
  | recover _ _ _ _ _ _ _ _ after =>
      rw [after.belowShedSince, after.belowRecoverSince]
      exact ⟨hstart _, Or.inr (Or.inr rfl)⟩

theorem Path.timers (h : Path w sample w') :
    Timing.Moves w.now w.s.belowShedSince w'.s.belowShedSince ∧
      Timing.Moves w.now w.s.belowRecoverSince w'.s.belowRecoverSince := by
  -- entering FALLBACK clears both timers, staying there keeps them
  have hfallback : ∀ {shed recover : Option ℚ},
      shed = (if w.s.state = .fallback then w.s.belowShedSince else none) →
      recover = (if w.s.state = .fallback then w.s.belowRecoverSince else none) →
      Timing.Moves w.now w.s.belowShedSince shed ∧
        Timing.Moves w.now w.s.belowRecoverSince recover := by
    rintro _ _ rfl rfl
    split
    · exact ⟨Timing.moves_keep _ _, Timing.moves_keep _ _⟩
    · exact ⟨Or.inl rfl, Or.inl rfl⟩
  cases h with
  | off =>
      rcases w.runOff_spec with ⟨-, -, -, -, hshed, hrecover⟩
      rw [hshed, hrecover]
      exact ⟨Timing.moves_keep _ _, Timing.moves_keep _ _⟩
  | @readbackFailed rb _ _ =>
      rcases w.readbackFailed_spec rb with ⟨-, -, -, -, -, hshed, hrecover⟩
      exact hfallback hshed hrecover
  | wait _ _ _ same _ =>
      rcases wait_spec _ sample with ⟨-, -, -, hshed, hrecover, -⟩
      rw [hshed, hrecover, same.belowShedSince, same.belowRecoverSince]
      exact ⟨Timing.moves_keep _ _, Timing.moves_keep _ _⟩
  | static _ same force =>
      rcases runStatic_spec _ force with ⟨-, -, -, -, hshed, hrecover⟩
      rw [hshed, hrecover, same.belowShedSince, same.belowRecoverSince]
      exact ⟨Timing.moves_keep _ _, Timing.moves_keep _ _⟩
  | stale _ _ _ _ same retried =>
      rcases runStale_spec _ retried with ⟨-, -, -, -, hshed, hrecover⟩
      rw [same.state, same.belowShedSince] at hshed
      rw [same.state, same.belowRecoverSince] at hrecover
      exact hfallback hshed hrecover
  | control _ _ _ _ same force =>
      rcases control_spec _ sample force with ⟨v, d, hv, hd, hsettled⟩
      rw [hsettled.belowShedSince, hsettled.belowRecoverSince, ← same.now, ← same.belowShedSince,
        ← same.belowRecoverSince, ← hv.now, ← hv.belowShedSince, ← hv.belowRecoverSince]
      exact hd.timers

/-- The timers of the states that no recovery starts from are clear. -/
structure TimersClear (s : GovState) : Prop where
  fallbackShed : s.state = .fallback → s.belowShedSince = none
  fallbackRecover : s.state = .fallback → s.belowRecoverSince = none
  emergencyRecover : s.state = .emergency → s.belowRecoverSince = none

theorem Outcome.emergency_timer {ceiling : ℚ} {d : Decision} (h : Outcome w sample ceiling d)
    (hw : w.s.state = .emergency → w.s.belowRecoverSince = none) (hd : d.new = .emergency) :
    d.w.s.belowRecoverSince = none := by
  cases h with
  | invalid _ after =>
      -- EMERGENCY without a rule: it was EMERGENCY before
      rw [after.belowRecoverSince]
      apply hw
      by_contra hstate
      unfold Step.entryState at hd
      split at hd
      · exact w.label_ne_emergency _ hd
      · exact hstate hd
  | stay _ _ _ hstate _ after => exact after.belowRecoverSince.trans (hw hstate)
  | emergency _ _ after => exact after.belowRecoverSince
  | hold _ _ _ _ after => exact after.belowRecoverSince
  | cut | shed | leave => simp at hd
  | below | recover | between => exact absurd hd (w.label_ne_emergency _)

theorem Path.timersClear (h : Path w sample w') (hw : TimersClear w.s) : TimersClear w'.s := by
  cases h with
  | off =>
      have hstate := w.runOff_spec.1
      constructor <;> simp [hstate]
  | @readbackFailed rb _ _ =>
      rcases w.readbackFailed_spec rb with ⟨hstate, -, -, -, -, hshed, hrecover⟩
      constructor
      case emergencyRecover => simp [hstate]
      all_goals
        intro _
        by_cases hw' : w.s.state = .fallback
        · simp [hshed, hrecover, hw', hw.fallbackShed, hw.fallbackRecover]
        · simp [hshed, hrecover, hw']
  | @wait u _ _ hwait same _ =>
      -- waiting keeps the timers, which FALLBACK has cleared
      rcases wait_spec u sample with ⟨hstate, -, -, hshed, hrecover, -⟩
      rw [same.state] at hstate
      constructor
      · intro _
        exact (hshed.trans same.belowShedSince).trans (hw.fallbackShed hwait.1)
      · intro _
        exact (hrecover.trans same.belowRecoverSince).trans (hw.fallbackRecover hwait.1)
      · simp [hstate, hwait.1]
  | @static u _ same force =>
      have hstate := (runStatic_spec u force).1
      constructor <;> simp [hstate]
  | @stale u _ _ _ _ same retried =>
      rcases runStale_spec u retried with ⟨hstate, -, -, -, hshed, hrecover⟩
      rw [same.state] at hshed hrecover
      constructor
      case emergencyRecover => simp [hstate]
      all_goals
        intro _
        by_cases hw' : w.s.state = .fallback
        · simp [hshed, hrecover, hw', same.belowShedSince, same.belowRecoverSince,
            hw.fallbackShed, hw.fallbackRecover]
        · simp [hshed, hrecover, hw']
  | control _ _ _ _ same force =>
      rcases control_spec _ sample force with ⟨v, d, hv, hd, hsettled⟩
      -- the rules never decide for FALLBACK
      have hnew : d.new ≠ .fallback := by
        rcases hd.new_governed with h | h | h <;> simp [h]
      constructor
      · intro hstate
        exact absurd (hsettled.state.symm.trans hstate) hnew
      · intro hstate
        exact absurd (hsettled.state.symm.trans hstate) hnew
      · intro hstate
        rw [hsettled.belowRecoverSince]
        refine hd.emergency_timer ?_ (hsettled.state.symm.trans hstate)
        rw [hv.state, same.state, hv.belowRecoverSince, same.belowRecoverSince]
        exact hw.emergencyRecover

/-- `w'` recovers: in dynamic mode, outside EMERGENCY, with the recovery timer
over and restarted. -/
structure Recovers (w w' : Step) : Prop where
  mode : w.g.mode = .dynamic
  state : w.s.state ≠ .emergency
  since : ∃ since, w.s.belowRecoverSince = some since ∧ w.g.recoverIntervalS ≤ w.now - since
  restart : w'.s.belowRecoverSince = some w.now

/-- A rule that speaks has set the recovery timer: rule 4 to now, any other to
clear. -/
theorem Outcome.rule_timer {ceiling : ℚ} {d : Decision} (h : Outcome w sample ceiling d)
    {t : EventType} (hw : t ∉ emitted w.actions) (ht : t ∈ emitted d.w.actions) :
    (t = .recover ∧ w.s.state ≠ .emergency ∧
      (∃ since, w.s.belowRecoverSince = some since ∧ w.g.recoverIntervalS ≤ w.now - since) ∧
      d.w.s.belowRecoverSince = some w.now) ∨
    (t ≠ .recover ∧ d.w.s.belowRecoverSince = none) := by
  cases h with
  | recover _ _ _ hstate _ hsince hspan _ after =>
      rw [after.emitted, List.mem_append] at ht
      have hrecover := List.mem_singleton.1 (ht.resolve_left hw)
      exact Or.inl ⟨hrecover, hstate, ⟨_, hsince, hspan⟩, after.belowRecoverSince⟩
  | emergency _ _ after =>
      rw [after.emitted, List.mem_append] at ht
      right
      refine ⟨?_, after.belowRecoverSince⟩
      rintro rfl
      have hrecover := ht.resolve_left hw
      split at hrecover <;> simp at hrecover
  | cut _ _ _ _ _ after =>
      rw [after.emitted, List.mem_append] at ht
      right
      refine ⟨?_, after.belowRecoverSince⟩
      rintro rfl
      simpa using ht.resolve_left hw
  | invalid _ after | hold _ _ _ _ after | shed _ _ _ _ after | leave _ _ _ _ _ after
  | stay _ _ _ _ _ after | below _ _ _ _ _ after | between _ _ _ _ _ after =>
      -- the other branches are silent
      rw [after.emitted, List.append_nil] at ht
      exact absurd ht hw

theorem Path.rule_timer (h : Path w sample w') (hw : TimersClear w.s) (hactions : w.actions = [])
    {t : EventType} (hrule : t.IsRule) (ht : t ∈ emitted w'.actions) :
    (t = .recover ∧ Recovers w w') ∨ (t ≠ .recover ∧ w'.s.belowRecoverSince = none) := by
  have hsilent : t ∉ emitted w.actions := by simp [hactions, emitted]
  cases h with
  | off => exact absurd ((w.runOff_emitted hrule).1 ht) hsilent
  | readbackFailed => exact absurd ((w.readbackFailed_emitted _ hrule).1 ht) hsilent
  | @wait u _ _ hwait same _ =>
      -- rule 2 in FALLBACK, where the timer is clear anyway
      right
      constructor
      · rintro rfl
        rw [wait_emitted u sample (Or.inr rfl), same.emitted _ hrule] at ht
        exact hsilent ht
      · rcases wait_spec u sample with ⟨-, -, -, -, hrecover, -⟩
        exact (hrecover.trans same.belowRecoverSince).trans (hw.fallbackRecover hwait.1)
  | static _ same force =>
      rw [runStatic_emitted _ force hrule, same.emitted _ hrule] at ht
      exact absurd ht hsilent
  | stale _ _ _ _ same retried =>
      rw [runStale_emitted _ retried hrule, same.emitted _ hrule] at ht
      exact absurd ht hsilent
  | @control u hmode _ _ _ same force =>
      rcases control_spec u sample force with ⟨v, d, hv, hd, hsettled⟩
      rw [hsettled.emitted _ hrule] at ht
      rw [← same.emitted _ hrule, ← hv.emitted _ hrule] at hsilent
      rcases hd.rule_timer hsilent ht with ⟨hrecover, hstate, ⟨since, hsince, hspan⟩, hrestart⟩ |
        ⟨hother, hclear⟩
      · left
        refine ⟨hrecover, hmode, ?_, ⟨since, ?_, ?_⟩, ?_⟩
        · rwa [hv.state, same.state] at hstate
        · exact (same.belowRecoverSince.symm.trans hv.belowRecoverSince.symm).trans hsince
        · rwa [hv.g, same.g, hv.now, same.now] at hspan
        · rw [hsettled.belowRecoverSince, hrestart, hv.now, same.now]
      · exact Or.inr ⟨hother, hsettled.belowRecoverSince.trans hclear⟩

end Step

/-! ## What holds along every run -/

namespace Run

variable (r : Run)

theorem firmware_state (n : ℕ) :
    (r.state n).fwPl1W = r.firmware.pl1W ∧ (r.state n).fwPl2W = r.firmware.pl2W := by
  induction n with
  | zero => exact ⟨rfl, rfl⟩
  | succ n ih =>
      rcases (r.path n).firmware with ⟨h1, h2⟩
      rw [r.after_s] at h1 h2
      simp only [before_frame] at h1 h2
      exact ⟨h1.trans ih.1, h2.trans ih.2⟩

theorem before_cap1 (n : ℕ) (x : ℚ) : (r.before n).cap1 x = r.firmware.cap1 x := by
  simp [Step.cap1, Firmware.cap1, (r.firmware_state n).1]

theorem before_floor (n : ℕ) : (r.before n).floor = (r.ticks n).config.floor := by
  simp [Step.floor, GovernorConfig.floor]

theorem timersClear (n : ℕ) : Step.TimersClear (r.state n) := by
  induction n with
  | zero => constructor <;> intro h <;> cases h
  | succ n ih =>
      have hbefore : Step.TimersClear (r.before n).s :=
        ⟨ih.fallbackShed, ih.fallbackRecover, ih.emergencyRecover⟩
      exact (r.path n).timersClear hbefore

theorem rule_timer (n : ℕ) {t : EventType} (hrule : t.IsRule) (ht : r.Emits n t) :
    (t = .recover ∧ Step.Recovers (r.before n) (r.after n)) ∨
      (t ≠ .recover ∧ (r.state (n + 1)).belowRecoverSince = none) := by
  have hn := r.timersClear n
  exact (r.path n).rule_timer ⟨hn.fallbackShed, hn.fallbackRecover, hn.emergencyRecover⟩
    (by simp) hrule ht

theorem recovers (n : ℕ) (h : r.Emits n .recover) : Step.Recovers (r.before n) (r.after n) := by
  rcases r.rule_timer n (Or.inr (Or.inr rfl)) h with ⟨-, hrecovers⟩ | ⟨hother, -⟩
  · exact hrecovers
  · exact absurd rfl hother

/-- The recovery timer is a stopwatch of the run. -/
theorem recover_stopwatch :
    Timing.Stopwatch r.time fun n => (r.state n).belowRecoverSince where
  init := rfl
  step n := by
    have h := (r.path n).timers.2
    rw [r.after_s] at h
    simpa using h

/-- So is the hold timer. -/
theorem shed_stopwatch : Timing.Stopwatch r.time fun n => (r.state n).belowShedSince where
  init := rfl
  step n := by
    have h := (r.path n).timers.1
    rw [r.after_s] at h
    simpa using h

end Run

end TurboMac.Linux
