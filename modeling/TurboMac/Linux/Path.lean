import TurboMac.Linux.Step

/-! # The paths through one step

`run_path` inverts `step` once: off, failed readback, waiting in FALLBACK,
static, stale, or control. Each path then has one lemma that says what it
leaves in the fields the invariants are about.
-/

namespace TurboMac.Linux

/-- The sample reports that the last write did not take. -/
def Sample.Failed (sample : Sample) (rb : Readback) : Prop :=
  sample.readback = some rb ∧ rb.ok = false

namespace Step

variable (w : Step)

/-! ## Commands -/

/-- `w'` commands what `w` did, and at most one clamped pair more. -/
def Commands (w w' : Step) : Prop :=
  commanded w'.actions = commanded w.actions ∨
    ∃ pl1 pl2, commanded w'.actions = commanded w.actions ++ [(w.cap1 pl1, w.cap2 pl2)]

/-- One write on top of silent bookkeeping is at most one command. -/
theorem Commands.write {w u : Step} (hcmd : commanded u.actions = commanded w.actions)
    (hfw1 : u.s.fwPl1W = w.s.fwPl1W) (hfw2 : u.s.fwPl2W = w.s.fwPl2W)
    (pl1 pl2 : ℚ) (reason : WriteReason) (force : Bool) :
    Commands w (u.write pl1 pl2 reason force) := by
  have hcap1 : u.cap1 pl1 = w.cap1 pl1 := by simp [cap1, hfw1]
  have hcap2 : u.cap2 pl2 = w.cap2 pl2 := by simp [cap2, hfw2]
  rcases write_commanded u pl1 pl2 reason force with h | h
  · exact Or.inl (h.trans hcmd)
  · right
    refine ⟨pl1, pl2, ?_⟩
    rw [h, hcmd, hcap1, hcap2]

/-! ## Off -/

theorem runOff_spec :
    w.runOff.s.state = .off ∧
    w.runOff.s.pl1W =
      (if w.s.state = .off then w.s.pl1W else some (w.cap1 w.g.staticCapW)) ∧
    w.runOff.s.fwPl1W = w.s.fwPl1W ∧ w.runOff.s.fwPl2W = w.s.fwPl2W ∧
    w.runOff.s.belowShedSince = w.s.belowShedSince ∧
    w.runOff.s.belowRecoverSince = w.s.belowRecoverSince := by
  unfold runOff
  by_cases h : w.s.state = .off
  · simp [h]
  · simp [h, cap1]

theorem runOff_commands : Commands w w.runOff := by
  unfold runOff
  dsimp only
  split
  · rcases Commands.write (w := w)
      (u := { w with s.retryAt := none, s.fallbackReason := none, s.thermalCapW := none })
      rfl rfl rfl w.g.staticCapW w.g.staticCapW .off true with h | ⟨pl1, pl2, h⟩
    · exact Or.inl (by simpa using h)
    · exact Or.inr ⟨pl1, pl2, by simpa using h⟩
  · exact Or.inl (by simp)

theorem runOff_emitted {t : EventType} (ht : t.IsRule) :
    t ∈ emitted w.runOff.actions ↔ t ∈ emitted w.actions := by
  unfold runOff
  dsimp only
  rw [enter_emitted _ _ _ ht]
  split <;> simp

/-! ## Fallback -/

/-- Entering FALLBACK: the timers are clear and the fallback limit is in force. -/
theorem fallback_spec (reason : FallbackReason) (static : ℚ) :
    (w.fallback reason static).g = w.g ∧ (w.fallback reason static).now = w.now ∧
    (w.fallback reason static).s.state = .fallback ∧
    (w.fallback reason static).s.pl1W = some (w.cap1 (w.fallbackW static)) ∧
    (w.fallback reason static).s.pl2W = some (w.cap2 (w.fallbackW static)) ∧
    (w.fallback reason static).s.fwPl1W = w.s.fwPl1W ∧
    (w.fallback reason static).s.fwPl2W = w.s.fwPl2W ∧
    (w.fallback reason static).s.retryAt = w.s.retryAt ∧
    (w.fallback reason static).s.belowShedSince = none ∧
    (w.fallback reason static).s.belowRecoverSince = none := by
  unfold fallback
  dsimp only
  split <;> simp [clearBelow, cap1, cap2, fallbackW]

theorem fallback_commands (reason : FallbackReason) (static : ℚ) :
    Commands w (w.fallback reason static) := by
  unfold fallback
  dsimp only
  split <;> exact Commands.write (by simp [clearBelow]) (by simp [clearBelow])
    (by simp [clearBelow]) _ _ _ _

theorem fallback_emitted (reason : FallbackReason) (static : ℚ) {t : EventType} (ht : t.IsRule) :
    t ∈ emitted (w.fallback reason static).actions ↔ t ∈ emitted w.actions := by
  unfold fallback
  dsimp only
  rw [write_emitted]
  show t ∈ emitted (Step.enter _ _ _).actions ↔ _
  rw [enter_emitted _ _ _ ht]
  split
  · rcases ht with rfl | rfl | rfl <;> simp [Event.type]
  · rfl

theorem readbackFailed_spec (rb : Readback) :
    (w.readbackFailed rb).s.state = .fallback ∧
    (w.readbackFailed rb).s.pl1W =
      (if w.s.state = .fallback then w.s.pl1W
        else some (w.cap1 (w.fallbackW w.g.staticCapW))) ∧
    (w.readbackFailed rb).s.pl2W =
      (if w.s.state = .fallback then w.s.pl2W
        else some (w.cap2 (w.fallbackW w.g.staticCapW))) ∧
    (w.readbackFailed rb).s.fwPl1W = w.s.fwPl1W ∧
    (w.readbackFailed rb).s.fwPl2W = w.s.fwPl2W ∧
    (w.readbackFailed rb).s.belowShedSince =
      (if w.s.state = .fallback then w.s.belowShedSince else none) ∧
    (w.readbackFailed rb).s.belowRecoverSince =
      (if w.s.state = .fallback then w.s.belowRecoverSince else none) := by
  unfold readbackFailed
  by_cases h : w.s.state = .fallback
  · simp [h]
  · simp [h, fallback_spec, cap1, cap2, fallbackW]

theorem readbackFailed_commands (rb : Readback) : Commands w (w.readbackFailed rb) := by
  unfold readbackFailed
  dsimp only
  split
  · simpa [Commands, cap1, cap2] using fallback_commands _ _ _
  · exact Or.inl (by simp)

theorem readbackFailed_emitted (rb : Readback) {t : EventType} (ht : t.IsRule) :
    t ∈ emitted (w.readbackFailed rb).actions ↔ t ∈ emitted w.actions := by
  unfold readbackFailed
  dsimp only
  rw [event_emitted, List.mem_append]
  split
  · rw [fallback_emitted _ _ _ ht]
    rcases ht with rfl | rfl | rfl <;> simp [Event.type]
  · rcases ht with rfl | rfl | rfl <;> simp [Event.type]

/-! ## Waiting, static, stale -/

/-- Waiting keeps everything but the limits, and cuts those to the floor on a
spike in dynamic mode, unless PL1 is there already. -/
theorem wait_spec (sample : Sample) :
    (w.wait sample).s.state = w.s.state ∧
    (w.wait sample).s.fwPl1W = w.s.fwPl1W ∧ (w.wait sample).s.fwPl2W = w.s.fwPl2W ∧
    (w.wait sample).s.belowShedSince = w.s.belowShedSince ∧
    (w.wait sample).s.belowRecoverSince = w.s.belowRecoverSince ∧
    ((w.g.mode = .dynamic ∧ sample.Spike w.g ∧ w.AboveFloor ∧
        (w.wait sample).s.pl1W = some (w.cap1 w.floor) ∧
        (w.wait sample).s.pl2W = some (w.cap2 w.floor)) ∨
      (¬ (w.g.mode = .dynamic ∧ sample.Spike w.g ∧ w.AboveFloor) ∧
        (w.wait sample).s.pl1W = w.s.pl1W ∧ (w.wait sample).s.pl2W = w.s.pl2W)) := by
  unfold wait
  split
  · rename_i pdtr acpw hsample
    have hspike : sample.Spike w.g ↔ (thresholds acpw w.g).emergencyW ≤ pdtr := by
      simp [Sample.Spike, hsample]
    by_cases h : w.g.mode = .dynamic ∧ (thresholds acpw w.g).emergencyW ≤ pdtr ∧ w.AboveFloor
    · simp [h, hspike, cap1, cap2, floor]
    · simp [h, hspike]
  · rename_i hsample
    simp [Sample.Spike, hsample]

theorem wait_commands (sample : Sample) : Commands w (w.wait sample) := by
  unfold wait
  split
  · dsimp only
    split
    · exact Commands.write (by simp) (by simp) (by simp) _ _ _ _
    · exact Or.inl rfl
  · exact Or.inl rfl

/-- Waiting emits no cut and no recovery. -/
theorem wait_emitted (sample : Sample) {t : EventType} (ht : t = .cut ∨ t = .recover) :
    t ∈ emitted (w.wait sample).actions ↔ t ∈ emitted w.actions := by
  unfold wait
  split
  · dsimp only
    split
    · rcases ht with rfl | rfl <;> simp [Event.type]
    · rfl
  · rfl

theorem runStatic_spec (force : Bool) :
    (w.runStatic force).s.state = .static ∧
    (w.runStatic force).s.pl1W = some (w.cap1 w.g.staticCapW) ∧
    (w.runStatic force).s.fwPl1W = w.s.fwPl1W ∧ (w.runStatic force).s.fwPl2W = w.s.fwPl2W ∧
    (w.runStatic force).s.belowShedSince = w.s.belowShedSince ∧
    (w.runStatic force).s.belowRecoverSince = w.s.belowRecoverSince := by
  simp [runStatic, cap1]

theorem runStatic_commands (force : Bool) : Commands w (w.runStatic force) :=
  Commands.write (by simp) (by simp) (by simp) _ _ _ _

theorem runStatic_emitted (force : Bool) {t : EventType} (ht : t.IsRule) :
    t ∈ emitted (w.runStatic force).actions ↔ t ∈ emitted w.actions := by
  simp [runStatic, enter_emitted _ _ _ ht]

theorem runStale_spec (retried : Bool) :
    (w.runStale retried).s.state = .fallback ∧
    (w.runStale retried).s.pl1W = some (w.cap1 (w.fallbackW w.g.staticCapW)) ∧
    (w.runStale retried).s.fwPl1W = w.s.fwPl1W ∧ (w.runStale retried).s.fwPl2W = w.s.fwPl2W ∧
    (w.runStale retried).s.belowShedSince =
      (if w.s.state = .fallback then w.s.belowShedSince else none) ∧
    (w.runStale retried).s.belowRecoverSince =
      (if w.s.state = .fallback then w.s.belowRecoverSince else none) := by
  unfold runStale
  by_cases h : w.s.state = .fallback
  · simp [h, cap1, fallbackW]
  · simp [h, fallback_spec, cap1, fallbackW]

theorem runStale_commands (retried : Bool) : Commands w (w.runStale retried) := by
  unfold runStale
  dsimp only
  split
  · simpa [Commands, cap1, cap2] using
      fallback_commands { w with s.retryAt := none } (.staleTelemetry w.g.staleTimeoutS) _
  · exact Commands.write (by simp) (by simp) (by simp) _ _ _ _

theorem runStale_emitted (retried : Bool) {t : EventType} (ht : t.IsRule) :
    t ∈ emitted (w.runStale retried).actions ↔ t ∈ emitted w.actions := by
  unfold runStale
  dsimp only
  split
  · exact fallback_emitted _ _ _ ht
  · simp

/-! ## Control -/

/-- `w'` is the end of a step from `w` that settled `d`. -/
structure Settled (w : Step) (d : Decision) (w' : Step) : Prop where
  state : w'.s.state = d.new
  pl1W : w'.s.pl1W = some (w.cap1 d.pl1)
  pl2W : w'.s.pl2W = some (w.cap2
    (if d.new = .normal ∨ d.new = .trim then d.pl1 + w.g.burstW else d.pl1))
  fwPl1W : w'.s.fwPl1W = w.s.fwPl1W
  fwPl2W : w'.s.fwPl2W = w.s.fwPl2W
  belowShedSince : w'.s.belowShedSince = d.w.s.belowShedSince
  belowRecoverSince : w'.s.belowRecoverSince = d.w.s.belowRecoverSince
  commands : Commands w w'
  emitted : ∀ t : EventType, t.IsRule → (t ∈ emitted w'.actions ↔ t ∈ emitted d.w.actions)

variable {w}

/-- Whatever the rules settle, they settle it on a step that commands as `w`. -/
theorem Outcome.same {sample : Sample} {ceiling : ℚ} {d : Decision}
    (h : Outcome w sample ceiling d) :
    d.w.g = w.g ∧ d.w.s.fwPl1W = w.s.fwPl1W ∧ d.w.s.fwPl2W = w.s.fwPl2W ∧
      commanded d.w.actions = commanded w.actions := by
  cases h <;> rename_i after <;> exact ⟨after.g, after.fwPl1W, after.fwPl2W, after.commanded⟩

/-- The rules keep the stamps of the other mechanisms. -/
theorem Outcome.stamps {sample : Sample} {ceiling : ℚ} {d : Decision}
    (h : Outcome w sample ceiling d) :
    d.w.now = w.now ∧ d.w.s.started = w.s.started ∧ d.w.s.lastValid = w.s.lastValid ∧
      d.w.s.lastWrite = w.s.lastWrite ∧ d.w.s.retryAt = w.s.retryAt ∧
      d.w.s.thermalCapW = w.s.thermalCapW ∧ d.w.s.lastThermal = w.s.lastThermal := by
  cases h <;> rename_i after <;>
    exact ⟨after.now, after.started, after.lastValid, after.lastWrite, after.retryAt,
      after.thermalCapW, after.lastThermal⟩

theorem settle_spec {d : Decision} (hg : d.w.g = w.g) (hfw1 : d.w.s.fwPl1W = w.s.fwPl1W)
    (hfw2 : d.w.s.fwPl2W = w.s.fwPl2W) (hcmd : commanded d.w.actions = commanded w.actions)
    (force : Bool) : Settled w d (settle d force) := by
  unfold settle
  constructor
  case commands =>
    exact Commands.write (by simp [hcmd]) (by simp [hfw1]) (by simp [hfw2]) _ _ _ _
  case emitted =>
    intro t ht
    simp [enter_emitted _ _ _ ht]
  all_goals simp [hg, hfw1, hfw2, cap1, cap2]

/-- Settling keeps the stamps, the one of the last write apart. -/
theorem settle_stamps (d : Decision) (force : Bool) :
    (settle d force).now = d.w.now ∧ (settle d force).s.started = d.w.s.started ∧
      (settle d force).s.lastValid = d.w.s.lastValid ∧
      (settle d force).s.retryAt = d.w.s.retryAt ∧
      (settle d force).s.thermalCapW = d.w.s.thermalCapW ∧
      (settle d force).s.lastThermal = d.w.s.lastThermal := by
  simp [settle]

theorem control_eq (w : Step) (sample : Sample) (force : Bool) :
    w.control sample force =
      settle ((w.thermal sample.pkgC w.floor w.top).2.decision sample
          (w.thermal sample.pkgC w.floor w.top).1)
        (force || decide (w.thermal sample.pkgC w.floor w.top).2.Resume) := rfl

/-- The control path: the thermal rule, then the rules under its ceiling. -/
theorem control_spec (w : Step) (sample : Sample) (force : Bool) :
    ∃ u d, Same w u ∧
      Outcome u sample (w.thermal sample.pkgC w.floor w.top).1 d ∧
      Settled w d (w.control sample force) := by
  have hu : Same w (w.thermal sample.pkgC w.floor w.top).2 := same_thermal _ _ _
  have hd := decision_outcome (w := (w.thermal sample.pkgC w.floor w.top).2) sample
    (w.thermal sample.pkgC w.floor w.top).1
  refine ⟨_, _, hu, hd, ?_⟩
  rcases hd.same with ⟨hg, hfw1, hfw2, hcmd⟩
  exact settle_spec (hg.trans hu.g) (hfw1.trans hu.fwPl1W) (hfw2.trans hu.fwPl2W)
    (hcmd.trans hu.commanded) _

/-! ## Which path is taken -/

/-- In FALLBACK, before the retry time. -/
def Waiting (w : Step) : Prop := w.s.state = .fallback ∧ ∃ retryAt ∈ w.s.retryAt, w.now < retryAt

/-- Inversion of `step`: the path taken, and on which working copy `u` once
readback and retry have been noted. -/
inductive Path (w : Step) (sample : Sample) : Step → Prop
  | off (hmode : w.g.mode = .off) : Path w sample w.runOff
  | readbackFailed {rb : Readback} (hmode : w.g.mode ≠ .off) (hrb : sample.Failed rb) :
      Path w sample (w.readbackFailed rb)
  | wait {u : Step} (hmode : w.g.mode ≠ .off) (hrb : ∀ rb, ¬ sample.Failed rb)
      (hwait : w.Waiting) (same : Same w u) (hretry : u.s.retryAt = w.s.retryAt) :
      Path w sample (u.wait sample)
  | static {u : Step} (hmode : w.g.mode = .static) (same : Same w u) (force : Bool) :
      Path w sample (u.runStatic force)
  | stale {u : Step} (hmode : w.g.mode = .dynamic) (hrb : ∀ rb, ¬ sample.Failed rb)
      (hwait : ¬ w.Waiting) (hstale : w.Stale) (same : Same w u) (retried : Bool) :
      Path w sample (u.runStale retried)
  | control {u : Step} (hmode : w.g.mode = .dynamic) (hrb : ∀ rb, ¬ sample.Failed rb)
      (hwait : ¬ w.Waiting) (hfresh : ¬ w.Stale) (same : Same w u) (force : Bool) :
      Path w sample (u.control sample force)

theorem Same.stale {w u : Step} (h : Same w u) : u.Stale ↔ w.Stale := by
  simp [Stale, h.g, h.now, h.started, h.lastValid]

theorem govern_path {w u : Step} {sample : Sample} (hmode : w.g.mode ≠ .off)
    (hrb : ∀ rb, ¬ sample.Failed rb) (hwait : ¬ w.Waiting) (same : Same w u)
    (force retried : Bool) : Path w sample (u.govern sample force retried) := by
  unfold govern
  rw [same.g]
  split_ifs with hstatic hstale
  · exact .static hstatic same force
  · have hdynamic : w.g.mode = .dynamic := by cases h : w.g.mode <;> simp_all
    exact .stale hdynamic hrb hwait (same.stale.1 hstale) same retried
  · have hdynamic : w.g.mode = .dynamic := by cases h : w.g.mode <;> simp_all
    exact .control hdynamic hrb hwait (fun h => hstale (same.stale.2 h)) same force

/-- The retry of a FALLBACK is bookkeeping. -/
theorem Same.retried {w u : Step} (h : Same w u) (reason : Option FallbackReason) :
    Same w (({ u with s.retryAt := none } : Step).event (.retry reason)) := by
  cases h
  constructor
  case emitted =>
    rintro t (rfl | rfl | rfl) <;> simp_all [Event.type, EventType.IsRule]
  all_goals simp_all

theorem retry_path {w u : Step} {sample : Sample} (hmode : w.g.mode ≠ .off)
    (hrb : ∀ rb, ¬ sample.Failed rb) (same : Same w u) (hretry : u.s.retryAt = w.s.retryAt)
    (force : Bool) : Path w sample (u.retry sample force) := by
  unfold retry
  split
  · rename_i retryAt hretryAt
    rw [hretry] at hretryAt
    split_ifs with hstate hnow
    · rw [same.now] at hnow
      rw [same.state] at hstate
      exact .wait hmode hrb ⟨hstate, retryAt, hretryAt, hnow⟩ same hretry
    · -- the retry itself
      refine govern_path hmode hrb ?_ (same.retried _) force true
      rintro ⟨-, r, hr, hlt⟩
      rw [hretryAt] at hr
      cases hr
      exact hnow (same.now ▸ hlt)
    · refine govern_path hmode hrb ?_ same force false
      rintro ⟨h, -⟩
      exact hstate (same.state.trans h)
  · rename_i hretryAt
    rw [hretry] at hretryAt
    refine govern_path hmode hrb ?_ same force false
    rintro ⟨-, r, hr, -⟩
    simp [hretryAt] at hr

theorem same_refl (w : Step) : Same w w := by
  constructor <;> simp

theorem same_readbackOk (w : Step) : Same w w.readbackOk := by
  unfold readbackOk
  split
  · constructor <;> simp
  · exact same_refl w

theorem readbackOk_retryAt (w : Step) : w.readbackOk.s.retryAt = w.s.retryAt := by
  unfold readbackOk
  split <;> rfl

theorem run_path (w : Step) (sample : Sample) : Path w sample (w.run sample) := by
  unfold run
  split_ifs with hmode
  · exact .off hmode
  · dsimp only
    split
    · rename_i rb hrb
      split_ifs with hok
      · refine retry_path hmode ?_ (same_readbackOk w) (readbackOk_retryAt w) _
        rintro rb' ⟨hrb', hfail⟩
        rw [hrb] at hrb'
        cases hrb'
        simp [hok] at hfail
      · exact .readbackFailed hmode ⟨hrb, by simpa using hok⟩
    · rename_i hrb
      refine retry_path hmode ?_ (same_refl w) rfl _
      rintro rb ⟨hrb', -⟩
      simp [hrb] at hrb'

end Step

end TurboMac.Linux
