import TurboMac.Linux.Run

/-! # Bounds on the commanded limits

What a step commands is clamped whatever the configuration says
(`commanded_bounds`), and under a validated one a governed PL1 is between the
floor and the top of that configuration. In dynamic mode PL1 is a ratchet: only
`recover` lifts it, which is the slew law.
-/

namespace TurboMac.Linux

/-- `min(45, firmware)`: the highest limit the governor may command. -/
def limitBound : Option ℚ → ℚ
  | some fw => min hardMaxW fw
  | none => hardMaxW

/-- The highest PL1 under a configuration and a firmware limit. -/
def GovernorConfig.top (g : GovernorConfig) (fw : Option ℚ) : ℚ :=
  min (max g.ceilingW g.staticCapW) (limitBound fw)

/-- Under control of the rules. -/
def State.Governed (s : State) : Prop := s = .normal ∨ s = .trim ∨ s = .emergency

theorem min_orHardMax {fw : Option ℚ} (h : ∀ x ∈ fw, 0 < x) :
    min hardMaxW (Step.orHardMax fw) = limitBound fw := by
  cases fw with
  | none => exact min_self _
  | some x =>
      have hx : x ≠ 0 := (h x rfl).ne'
      simp [Step.orHardMax, limitBound, hx]

namespace Step

variable {w w' : Step} {sample : Sample} {ceiling : ℚ} {d : Decision}

theorem cap1_eq_min (h : ∀ x ∈ w.s.fwPl1W, 0 < x) (x : ℚ) :
    w.cap1 x = min x (limitBound w.s.fwPl1W) := by
  rw [cap1_eq, min_orHardMax h]

theorem cap2_eq_min (h : ∀ x ∈ w.s.fwPl2W, 0 < x) (x : ℚ) :
    w.cap2 x = min x (limitBound w.s.fwPl2W) := by
  rw [cap2_eq, min_orHardMax h]

theorem top_eq (h : ∀ x ∈ w.s.fwPl1W, 0 < x) : w.top = w.g.top w.s.fwPl1W :=
  cap1_eq_min h _

/-! ## At most one command, and clamped -/

theorem Commands.congr {u : Step} (h : Commands u w') (same : Same w u) : Commands w w' := by
  rcases h with h | ⟨pl1, pl2, h⟩
  · exact Or.inl (h.trans same.commanded)
  · right
    refine ⟨pl1, pl2, ?_⟩
    rw [h, same.commanded, same.cap1, same.cap2]

theorem Path.commands (h : Path w sample w') : Commands w w' := by
  cases h with
  | off => exact w.runOff_commands
  | readbackFailed => exact w.readbackFailed_commands _
  | wait _ _ _ same _ => exact (wait_commands _ sample).congr same
  | static _ same force => exact (runStatic_commands _ force).congr same
  | stale _ _ _ _ same retried => exact (runStale_commands _ retried).congr same
  | control _ _ _ _ same force =>
      rcases control_spec _ sample force with ⟨_, d, _, _, hd⟩
      exact hd.commands.congr same

/-! ## The interval of a governed PL1 -/

theorem entryPl1_ge (w : Step) (ceiling : ℚ) : min w.floor ceiling ≤ w.entryPl1 ceiling :=
  min_le_min_right _ (le_max_right _ _)

theorem entryPl1_le (w : Step) (ceiling : ℚ) : w.entryPl1 ceiling ≤ ceiling := min_le_right _ _

/-- No rule goes below the floor, unless the ceiling is there already. -/
theorem Outcome.ge_floor (h : Outcome w sample ceiling d) (hstep : 0 ≤ w.g.recoverStepW) :
    min w.floor ceiling ≤ d.pl1 := by
  have hentry := w.entryPl1_ge ceiling
  cases h with
  | invalid | hold | shed | leave | stay | below | between => exact hentry
  | emergency => exact min_le_left _ _
  | cut => exact (min_le_left _ _).trans (le_max_left _ _)
  | recover =>
      refine le_min (min_le_right _ _) ?_
      linarith

/-- No rule goes above the ceiling, the floor of rule 2 apart. -/
theorem Outcome.le_ceiling (h : Outcome w sample ceiling d) (hstep : 0 ≤ w.g.cutStepW) :
    d.pl1 ≤ max w.floor ceiling := by
  have hentry := (w.entryPl1_le ceiling).trans (le_max_right w.floor ceiling)
  cases h with
  | invalid | hold | shed | leave | stay | below | between => exact hentry
  | emergency => exact le_max_left _ _
  | cut =>
      refine max_le (le_max_left _ _) ?_
      linarith
  | recover => exact (min_le_left _ _).trans (le_max_right _ _)

theorem floor_le_max (w : Step) : w.floor ≤ max w.g.ceilingW w.g.staticCapW :=
  (min_le_right _ _).trans (le_max_right _ _)

theorem top_le_max (w : Step) : w.top ≤ max w.g.ceilingW w.g.staticCapW := w.cap1_le _

/-- What the control path settles lies between the floor and the top. -/
theorem Outcome.interval (h : Outcome w sample ceiling d) (hcut : 0 ≤ w.g.cutStepW)
    (hrecover : 0 ≤ w.g.recoverStepW) (hge : min w.floor w.top ≤ ceiling)
    (hle : ceiling ≤ w.top) :
    min w.floor w.top ≤ w.cap1 d.pl1 ∧ w.cap1 d.pl1 ≤ w.top := by
  constructor
  · have hd : min w.floor w.top ≤ d.pl1 :=
      (le_min (min_le_left _ _) hge).trans (h.ge_floor hrecover)
    have hcap := w.cap1_mono hd
    rw [← cap1_floor, cap1_cap1, cap1_floor] at hcap
    exact hcap
  · have hd : d.pl1 ≤ max w.g.ceilingW w.g.staticCapW :=
      (h.le_ceiling hcut).trans (max_le w.floor_le_max (hle.trans w.top_le_max))
    exact w.cap1_mono hd

/-- The ceiling of the control path. -/
theorem thermal_interval (w : Step) (sample : Sample) (hstep : 0 ≤ w.g.thermalStepW) :
    min w.floor w.top ≤ (w.thermal sample.pkgC w.floor w.top).1 ∧
      (w.thermal sample.pkgC w.floor w.top).1 ≤ w.top :=
  w.thermal_bounds hstep _ _ _

theorem control_interval (w : Step) (sample : Sample) (force : Bool) (hg : w.g.Validated) :
    ∃ pl1, (w.control sample force).s.pl1W = some pl1 ∧
      min w.floor w.top ≤ pl1 ∧ pl1 ≤ w.top := by
  rcases control_spec w sample force with ⟨v, d, hv, hd, hsettled⟩
  have hthermal := thermal_interval w sample hg.thermalStepW_pos.le
  rw [← hv.floor, ← hv.top] at hthermal ⊢
  have hcut : 0 ≤ v.g.cutStepW := by
    rw [hv.g]
    exact hg.cutStepW_pos.le
  have hrecover : 0 ≤ v.g.recoverStepW := by
    rw [hv.g]
    exact hg.recoverStepW_pos.le
  rcases hd.interval hcut hrecover (by simpa [hv.floor, hv.top] using hthermal.1)
    (by simpa [hv.floor, hv.top] using hthermal.2) with ⟨hge, hle⟩
  refine ⟨w.cap1 d.pl1, hsettled.pl1W, ?_, ?_⟩
  · rwa [← hv.cap1]
  · rwa [← hv.cap1]

/-- Only the control path ends under control of the rules. -/
theorem Path.governed (h : Path w sample w') (hstate : State.Governed w'.s.state) :
    ¬ w.Stale ∧ ∃ u force, Same w u ∧ w' = u.control sample force := by
  cases h with
  | off => simp [State.Governed, w.runOff_spec.1] at hstate
  | @readbackFailed rb _ _ => simp [State.Governed, (w.readbackFailed_spec rb).1] at hstate
  | @wait u _ _ hwait same _ =>
      simp [State.Governed, (wait_spec u sample).1, same.state, hwait.1] at hstate
  | @static u _ _ force => simp [State.Governed, (runStatic_spec u force).1] at hstate
  | @stale u _ _ _ _ _ retried => simp [State.Governed, (runStale_spec u retried).1] at hstate
  | @control u _ _ _ hfresh same force => exact ⟨hfresh, u, force, same, rfl⟩

theorem Path.interval (h : Path w sample w') (hg : w.g.Validated)
    (hstate : State.Governed w'.s.state) :
    ∃ pl1, w'.s.pl1W = some pl1 ∧ min w.floor w.top ≤ pl1 ∧ pl1 ≤ w.top := by
  rcases h.governed hstate with ⟨-, u, force, same, rfl⟩
  have hcontrol := control_interval u sample force (same.g.symm ▸ hg)
  rwa [same.floor, same.top] at hcontrol

/-- A governed state has a PL1 in force. -/
theorem Path.governed_pl1 (h : Path w sample w') (hstate : State.Governed w'.s.state) :
    w'.s.pl1W ≠ none := by
  rcases h.governed hstate with ⟨-, u, force, -, rfl⟩
  rcases control_spec u sample force with ⟨_, d, _, _, hd⟩
  simp [hd.pl1W]

end Step

namespace Run

variable (r : Run)

/-- Commanded-limit bounds. With positive firmware limits, or none, a tick
commands at most one pair, and no higher than the hard maximum and the firmware,
for any configuration. Under a validated one, a tick that ends in NORMAL, TRIM
or EMERGENCY leaves PL1 between the lower of floor and top, and top. -/
theorem commanded_bounds (hfw1 : ∀ fw ∈ r.firmware.pl1W, 0 < fw)
    (hfw2 : ∀ fw ∈ r.firmware.pl2W, 0 < fw) (n : ℕ) :
    ((commanded (r.actions n)).length ≤ 1 ∧
      ∀ limits ∈ commanded (r.actions n),
        limits.1 ≤ limitBound r.firmware.pl1W ∧ limits.2 ≤ limitBound r.firmware.pl2W) ∧
    ((r.ticks n).config.Validated → State.Governed (r.state (n + 1)).state →
      ∃ pl1, (r.state (n + 1)).pl1W = some pl1 ∧
        min (r.ticks n).config.floor ((r.ticks n).config.top r.firmware.pl1W) ≤ pl1 ∧
        pl1 ≤ (r.ticks n).config.top r.firmware.pl1W) := by
  have hfw := r.firmware_state n
  have hpos1 : ∀ fw ∈ (r.before n).s.fwPl1W, 0 < fw := by simpa [hfw.1] using hfw1
  have hpos2 : ∀ fw ∈ (r.before n).s.fwPl2W, 0 < fw := by simpa [hfw.2] using hfw2
  constructor
  · have hsilent : commanded (r.before n).actions = [] := by simp [commanded]
    rcases (r.path n).commands with h | ⟨pl1, pl2, h⟩
    · rw [r.after_actions, hsilent] at h
      simp [h]
    · rw [r.after_actions, hsilent, Step.cap1_eq_min hpos1, Step.cap2_eq_min hpos2] at h
      simp [h, hfw.1, hfw.2]
  · intro hg hstate
    have h := (r.path n).interval (by simpa using hg) hstate
    rw [Step.top_eq hpos1] at h
    simpa [Step.floor, GovernorConfig.floor, hfw.1, r.after_s] using h

/-- The first tick of the steady run starts at the static cap, within bounds. -/
theorem commanded_bounds_steady :
    (commanded (steady.actions 0)).length ≤ 1 ∧
      ∃ pl1, (steady.state 1).pl1W = some pl1 ∧ 10 ≤ pl1 ∧ pl1 ≤ 40 := by
  have h := steady.commanded_bounds (by decide +kernel) (by decide +kernel) 0
  have hg := GovernorConfig.defaults_validated.withMode .dynamic
  rcases h.2 hg (by unfold State.Governed; decide +kernel) with ⟨pl1, hpl1, hge, hle⟩
  have hfloor : min (steady.ticks 0).config.floor
      ((steady.ticks 0).config.top steady.firmware.pl1W) = 10 := by decide +kernel
  have htop : (steady.ticks 0).config.top steady.firmware.pl1W = 40 := by decide +kernel
  rw [hfloor] at hge
  rw [htop] at hle
  exact ⟨h.1.1, pl1, hpl1, hge, hle⟩

end Run

/-! ## PL1 is a ratchet in dynamic mode -/

namespace Step

variable {w w' : Step} {sample : Sample} {ceiling : ℚ} {d : Decision}

/-- Before the rules, PL1 is what is commanded, or lower. -/
theorem entryPl1_le_pl1 {pl1 : ℚ} (hstate : w.s.state ≠ .off ∧ w.s.state ≠ .static)
    (hpl1 : w.s.pl1W = some pl1) (hfloor : w.cap1 w.floor ≤ pl1) (hle : ceiling ≤ w.top) :
    w.entryPl1 ceiling ≤ pl1 := by
  have hresume : w.resumePl1 ≤ pl1 := by
    unfold resumePl1
    split
    · rename_i hresume
      have hfallback : w.s.state = .fallback := by
        simp only [Resume, hpl1] at hresume
        cases hs : w.s.state <;> simp_all
      simp [hfallback, fallbackW, hpl1]
    · simp [hpl1]
  rw [cap1_floor] at hfloor
  unfold entryPl1
  rcases le_total w.floor w.top with hft | htf
  · rw [min_eq_left hft] at hfloor
    exact (min_le_left _ _).trans (max_le hresume hfloor)
  · rw [min_eq_right htf] at hfloor
    exact (min_le_right _ _).trans (hle.trans hfloor)

/-- Only `recover` lifts PL1, and by one step. -/
theorem Outcome.ratchet {pl1 : ℚ} (h : Outcome w sample ceiling d) (hg : w.g.Validated)
    (hentry : w.entryPl1 ceiling ≤ pl1) (hfloor : w.cap1 w.floor ≤ pl1) :
    w.cap1 d.pl1 ≤ pl1 ∨
      (.recover ∈ emitted d.w.actions ∧ w.cap1 d.pl1 ≤ pl1 + w.g.recoverStepW) := by
  have hcap := (w.cap1_le _).trans hentry
  cases h with
  | invalid | hold | shed | leave | stay | below | between => exact Or.inl hcap
  | emergency => exact Or.inl hfloor
  | cut _ _ _ _ hcut =>
      left
      refine (w.cap1_le _).trans ((max_le hcut.le ?_).trans hentry)
      linarith [hg.cutStepW_pos]
  | recover _ _ _ _ _ _ _ _ after =>
      right
      constructor
      · simp [after.emitted]
      · refine ((w.cap1_le _).trans (min_le_right _ _)).trans ?_
        linarith

/-- The fallback limit is not below the floor either. -/
theorem floor_le_fallbackW (hlow : ∀ pl1 ∈ w.s.pl1W, w.cap1 w.floor ≤ pl1) :
    w.cap1 w.floor ≤ w.cap1 (w.fallbackW w.g.staticCapW) := by
  have hstatic : w.cap1 w.floor ≤ w.g.staticCapW := (w.cap1_le _).trans (min_le_right _ _)
  have hfallback : w.cap1 w.floor ≤ w.fallbackW w.g.staticCapW := by
    unfold fallbackW
    split
    · rename_i pl1 hpl1
      exact le_min hstatic (hlow pl1 hpl1)
    · exact hstatic
  have hcap := w.cap1_mono hfallback
  rwa [cap1_cap1] at hcap

theorem fallbackW_le {pl1 : ℚ} (hpl1 : w.s.pl1W = some pl1) (static : ℚ) :
    w.cap1 (w.fallbackW static) ≤ pl1 := by
  refine (w.cap1_le _).trans ?_
  simp [fallbackW, hpl1]

/-- A dynamic tick leaves PL1 commanded, not below the floor. -/
theorem Path.floor_le (h : Path w sample w') (hmode : w.g.mode = .dynamic) (hg : w.g.Validated)
    (hlow : ∀ pl1 ∈ w.s.pl1W, w.cap1 w.floor ≤ pl1)
    (hfallback : w.s.state = .fallback → w.s.pl1W ≠ none) :
    (w'.s.state ≠ .off ∧ w'.s.state ≠ .static) ∧
      ∃ pl1, w'.s.pl1W = some pl1 ∧ w.cap1 w.floor ≤ pl1 := by
  cases h with
  | off hoff => simp [hmode] at hoff
  | static hstatic => simp [hmode] at hstatic
  | @readbackFailed rb _ _ =>
      rcases w.readbackFailed_spec rb with ⟨hstate, hpl1, -⟩
      refine ⟨by simp [hstate], ?_⟩
      rw [hpl1]
      split
      · -- in FALLBACK already: PL1 is kept
        rename_i hw
        rcases Option.ne_none_iff_exists'.1 (hfallback hw) with ⟨pl1, h⟩
        exact ⟨pl1, h, hlow pl1 h⟩
      · exact ⟨_, rfl, floor_le_fallbackW hlow⟩
  | @wait u _ _ hwait same _ =>
      rcases wait_spec u sample with ⟨hstate, -, -, -, -, hcut | hkeep⟩
      · refine ⟨by simp [hstate, same.state, hwait.1], _, hcut.2.2.2.1, ?_⟩
        rw [same.floor, same.cap1]
      · refine ⟨by simp [hstate, same.state, hwait.1], ?_⟩
        rw [hkeep.2.1, same.pl1W]
        rcases Option.ne_none_iff_exists'.1 (hfallback hwait.1) with ⟨pl1, h⟩
        exact ⟨pl1, h, hlow pl1 h⟩
  | @stale u _ _ _ _ same retried =>
      rcases runStale_spec u retried with ⟨hstate, hpl1, -⟩
      refine ⟨by simp [hstate], _, hpl1, ?_⟩
      rw [same.fallbackW, same.cap1, same.g]
      exact floor_le_fallbackW hlow
  | @control u _ _ _ _ same force =>
      rcases control_interval u sample force (same.g.symm ▸ hg) with ⟨pl1, hpl1, hge, -⟩
      rcases control_spec u sample force with ⟨_, d, _, hd, hsettled⟩
      rw [← cap1_floor, same.floor, same.cap1] at hge
      refine ⟨?_, pl1, hpl1, hge⟩
      rw [hsettled.state]
      rcases hd.new_governed with h | h | h <;> simp [h]

/-- A dynamic tick lifts PL1 only by a recovery, and by one step. -/
theorem Path.ratchet {pl1 : ℚ} (h : Path w sample w') (hmode : w.g.mode = .dynamic)
    (hg : w.g.Validated) (hstate : w.s.state ≠ .off ∧ w.s.state ≠ .static)
    (hpl1 : w.s.pl1W = some pl1) (hfloor : w.cap1 w.floor ≤ pl1) :
    ∀ new ∈ w'.s.pl1W, new ≤ pl1 ∨
      (.recover ∈ emitted w'.actions ∧ new ≤ pl1 + w.g.recoverStepW) := by
  intro new hnew
  cases h with
  | off hoff => simp [hmode] at hoff
  | static hstatic => simp [hmode] at hstatic
  | @readbackFailed rb _ _ =>
      rcases w.readbackFailed_spec rb with ⟨-, hpl1', -⟩
      rw [hpl1'] at hnew
      split at hnew
      · cases hpl1.symm.trans hnew
        exact Or.inl (le_refl _)
      · cases hnew
        exact Or.inl (fallbackW_le hpl1 _)
  | @wait u _ _ hwait same _ =>
      -- rule 2 is in force while FALLBACK waits
      rcases wait_spec u sample with ⟨-, -, -, -, -, hcut | hkeep⟩
      · cases hcut.2.2.2.1.symm.trans hnew
        rw [same.floor, same.cap1]
        exact Or.inl hfloor
      · have hsame := hpl1.symm.trans ((same.pl1W.symm.trans hkeep.2.1.symm).trans hnew)
        cases hsame
        exact Or.inl (le_refl _)
  | @stale u _ _ _ _ same retried =>
      rcases runStale_spec u retried with ⟨-, hpl1', -⟩
      cases hpl1'.symm.trans hnew
      exact Or.inl (fallbackW_le (same.pl1W.trans hpl1) _)
  | @control u _ _ _ _ same force =>
      rcases control_spec u sample force with ⟨v, d, hv, hd, hsettled⟩
      cases hsettled.pl1W.symm.trans hnew
      have hvg : v.g = w.g := hv.g.trans same.g
      have hle : (u.thermal sample.pkgC u.floor u.top).1 ≤ v.top := by
        rw [hv.top]
        exact (thermal_interval u sample (same.g.symm ▸ hg.thermalStepW_pos.le)).2
      have hfloor' : v.cap1 v.floor ≤ pl1 := by
        rwa [hv.floor, hv.cap1, same.floor, same.cap1]
      -- what the rules start from is no higher than PL1
      have hentry : v.entryPl1 (u.thermal sample.pkgC u.floor u.top).1 ≤ pl1 := by
        refine entryPl1_le_pl1 ?_ (hv.pl1W.trans (same.pl1W.trans hpl1)) hfloor' hle
        rwa [hv.state, same.state]
      rw [← hv.cap1]
      rcases hd.ratchet (hvg.symm ▸ hg) hentry hfloor' with hdown | ⟨hrecover, hup⟩
      · exact Or.inl hdown
      · right
        rw [hvg] at hup
        exact ⟨(hsettled.emitted _ (Or.inr (Or.inr rfl))).2 hrecover, hup⟩

end Step

namespace Run

variable {r : Run} {g : GovernorConfig} (hconfig : ∀ n, (r.ticks n).config = g)
  (hmode : g.mode = .dynamic) (hg : g.Validated)

include hconfig hmode hg in
/-- Along a dynamic run PL1 is commanded and not below the capped floor. -/
theorem floor_le (n : ℕ) :
    ((r.state (n + 1)).state ≠ .off ∧ (r.state (n + 1)).state ≠ .static) ∧
      ∃ pl1, (r.state (n + 1)).pl1W = some pl1 ∧ r.firmware.cap1 g.floor ≤ pl1 := by
  have hfloor : ∀ k, (r.before k).cap1 (r.before k).floor = r.firmware.cap1 g.floor := by
    intro k
    rw [before_cap1, before_floor, hconfig]
  induction n with
  | zero =>
      have h := (r.path 0).floor_le (by simp [hconfig, hmode]) (by simpa [hconfig] using hg)
        (by simp [state, initial]) (by simp [state, initial])
      rwa [hfloor] at h
  | succ n ih =>
      rcases ih with ⟨-, pl1, hpl1, hle⟩
      have h := (r.path (n + 1)).floor_le (by simp [hconfig, hmode])
        (by simpa [hconfig] using hg) (by simpa [hpl1, hfloor] using hle) (by simp [hpl1])
      rwa [hfloor] at h

/-- PL1 after tick `n - 1`; before the first tick, what that tick commands. -/
def level (r : Run) (n : ℕ) : ℚ := (r.state (max n 1)).pl1W.getD 0

theorem level_succ {n : ℕ} {pl1 : ℚ} (h : (r.state (n + 1)).pl1W = some pl1) :
    r.level (n + 1) = pl1 := by
  simp [level, h]

include hconfig hmode hg in
/-- One tick lifts the level by a recovery step at most, and only by recovering. -/
theorem level_step (n : ℕ) :
    r.level (n + 1) ≤ r.level n ∨
      (r.Emits n .recover ∧ r.level (n + 1) ≤ r.level n + g.recoverStepW) := by
  cases n with
  | zero => exact Or.inl (le_refl _)
  | succ n =>
      rcases floor_le hconfig hmode hg n with ⟨hstate, old, hold, hfloor⟩
      rcases floor_le hconfig hmode hg (n + 1) with ⟨-, new, hnew, -⟩
      have h := (r.path (n + 1)).ratchet (by simp [hconfig, hmode])
        (by simpa [hconfig] using hg) (by simpa using hstate) (by simpa using hold)
        (by simpa [before_cap1, before_floor, hconfig] using hfloor) new hnew
      rw [level_succ hold, level_succ hnew]
      simpa [hconfig, Emits, r.after_actions] using h

include hconfig hmode hg in
/-- In dynamic mode PL1 is a ratchet that only `recover` lifts. -/
theorem ratchet :
    Timing.Ratchet r.time r.level (fun n => r.Emits n .recover) g.recoverStepW
      g.recoverIntervalS where
  mono := r.mono
  nonneg := hg.recoverStepW_pos.le
  pos := hg.recoverIntervalS_pos
  hold n hn := by
    rcases level_step hconfig hmode hg n with h | ⟨h, -⟩
    · exact h
    · exact absurd h hn
  lift n _ := by
    rcases level_step hconfig hmode hg n with h | ⟨-, h⟩
    · linarith [hg.recoverStepW_pos]
    · exact h
  spaced m n hmn hm hn := by
    have hwait : ∀ k, r.Emits k .recover → ∃ since, (r.state k).belowRecoverSince = some since ∧
        g.recoverIntervalS ≤ r.time k - since := by
      intro k hk
      simpa [hconfig] using (r.recovers k hk).since
    have hrestart : ∀ k, r.Emits k .recover →
        (r.state (k + 1)).belowRecoverSince = some (r.time k) := by
      intro k hk
      simpa using (r.recovers k hk).restart
    exact r.recover_stopwatch.spaced r.mono hwait hrestart hmn hm hn

/-- Slew law. In a dynamic run under one validated configuration, PL1 rises
between ticks `i` and `j` by at most one recovery step, and one more for every
whole recovery interval between them. -/
theorem slew_law (r : Run) (g : GovernorConfig) (hconfig : ∀ n, (r.ticks n).config = g)
    (hmode : g.mode = .dynamic) (hg : g.Validated) {i j : ℕ} (hij : i ≤ j) :
    ∃ pl1 pl1', (r.state (i + 1)).pl1W = some pl1 ∧ (r.state (j + 1)).pl1W = some pl1' ∧
      pl1' - pl1 ≤ g.recoverStepW * (1 + ⌊(r.time j - r.time i) / g.recoverIntervalS⌋) := by
  rcases floor_le hconfig hmode hg i with ⟨-, pl1, hpl1, -⟩
  rcases floor_le hconfig hmode hg j with ⟨-, pl1', hpl1', -⟩
  refine ⟨pl1, pl1', hpl1, hpl1', ?_⟩
  have h := (ratchet hconfig hmode hg).slew hij
  rwa [level_succ hpl1, level_succ hpl1'] at h

/-- Ten seconds of the steady run lift PL1 by at most `1 * (1 + 3)` watts. -/
theorem slew_law_steady :
    ∃ pl1 pl1', (steady.state 1).pl1W = some pl1 ∧ (steady.state 11).pl1W = some pl1' ∧
      pl1' - pl1 ≤ 1 * (1 + ⌊(10 - 0 : ℚ) / 3⌋) :=
  slew_law steady { GovernorConfig.defaults with mode := .dynamic } (fun _ => rfl) rfl
    (GovernorConfig.defaults_validated.withMode .dynamic) (show 0 ≤ 10 by decide)

end Run

end TurboMac.Linux
