import TurboMac.Linux.Loop
import TurboMac.Linux.Reassert

/-! # The control loop and the package

The loop is a run of the governor, with the readback of each write in exactly the next
step. Closed over a package that answers, no readback fails, and what the governor takes
for the limits in force are the limits of the register, cut to its units.
-/

namespace TurboMac.Linux

/-! ## What one step puts in force -/

/-- Limits that a step may command: positive, and in the bounds of its firmware limits. -/
structure Admissible (s : GovState) (limits : ℚ × ℚ) : Prop where
  pl1_pos : 0 < limits.1
  pl2_pos : 0 < limits.2
  pl1_le : limits.1 ≤ limitBound s.fwPl1W
  pl2_le : limits.2 ≤ limitBound s.fwPl2W

/-- The firmware limits are none, or at least a watt for PL1 and positive for PL2. -/
structure GovState.Sane (s : GovState) : Prop where
  fwPl1W : ∀ fw ∈ s.fwPl1W, 1 ≤ fw
  fwPl2W : ∀ fw ∈ s.fwPl2W, 0 < fw
  pl1W : ∀ pl1 ∈ s.pl1W, 0 < pl1

namespace Step

variable {w u w' : Step} {sample : Sample} {ceiling : ℚ} {d : Decision}

/-- A step commands nothing and leaves the limits, or commands a pair that is in force then. -/
def Puts (w w' : Step) : Prop :=
  commanded w'.actions = commanded w.actions ∧ w'.s.pl1W = w.s.pl1W ∧ w'.s.pl2W = w.s.pl2W ∨
    ∃ limits, Admissible w.s limits ∧ commanded w'.actions = commanded w.actions ++ [limits] ∧
      w'.s.pl1W = some limits.1 ∧ w'.s.pl2W = some limits.2

theorem limitBound_pos {fw : Option ℚ} (h : ∀ x ∈ fw, 0 < x) : 0 < limitBound fw := by
  cases fw with
  | none => norm_num [limitBound, hardMaxW]
  | some x => exact lt_min (by norm_num [hardMaxW]) (h x rfl)

theorem GovState.Sane.positive {s : GovState} (h : s.Sane) : ∀ fw ∈ s.fwPl1W, 0 < fw :=
  fun fw hfw => lt_of_lt_of_le one_pos (h.fwPl1W fw hfw)

/-- One write of positive limits, on top of what leaves the limits. -/
theorem Puts.write (hw : w.s.Sane) (hcmd : commanded u.actions = commanded w.actions)
    (hpl1 : u.s.pl1W = w.s.pl1W) (hpl2 : u.s.pl2W = w.s.pl2W) (hfw1 : u.s.fwPl1W = w.s.fwPl1W)
    (hfw2 : u.s.fwPl2W = w.s.fwPl2W) {pl1 pl2 : ℚ} (hpos1 : 0 < pl1) (hpos2 : 0 < pl2)
    (reason : WriteReason) (force : Bool) : Puts w (u.write pl1 pl2 reason force) := by
  have hcap1 : u.cap1 pl1 = min pl1 (limitBound w.s.fwPl1W) := by
    rw [cap1_eq_min (by rw [hfw1]; exact GovState.Sane.positive hw), hfw1]
  have hcap2 : u.cap2 pl2 = min pl2 (limitBound w.s.fwPl2W) := by
    rw [cap2_eq_min (by rw [hfw2]; exact hw.fwPl2W), hfw2]
  unfold Step.write
  dsimp only
  split
  · exact .inl ⟨hcmd, hpl1, hpl2⟩
  · refine .inr ⟨(u.cap1 pl1, u.cap2 pl2), ?_, ?_, rfl, rfl⟩
    · rw [hcap1, hcap2]
      exact ⟨lt_min hpos1 (limitBound_pos (GovState.Sane.positive hw)),
        lt_min hpos2 (limitBound_pos hw.fwPl2W), min_le_right _ _, min_le_right _ _⟩
    · rw [← hcmd]
      simp [commanded, Action.limits?]

theorem Puts.silent (hcmd : commanded w'.actions = commanded w.actions)
    (hpl1 : w'.s.pl1W = w.s.pl1W) (hpl2 : w'.s.pl2W = w.s.pl2W) : Puts w w' :=
  .inl ⟨hcmd, hpl1, hpl2⟩

theorem Puts.enter (h : Puts w u) (new : State) (reason : Option FallbackReason) :
    Puts w (u.enter new reason) := by
  unfold Puts at h ⊢
  simpa using h

theorem Puts.event (h : Puts w u) (e : Event) : Puts w (u.event e) := by
  unfold Puts at h ⊢
  simpa using h

/-- Silent bookkeeping before the step. -/
theorem Puts.congr (h : Puts u w') (hcmd : commanded u.actions = commanded w.actions)
    (hpl1 : u.s.pl1W = w.s.pl1W) (hpl2 : u.s.pl2W = w.s.pl2W) (hfw1 : u.s.fwPl1W = w.s.fwPl1W)
    (hfw2 : u.s.fwPl2W = w.s.fwPl2W) : Puts w w' := by
  unfold Puts at h ⊢
  rw [hcmd, hpl1, hpl2] at h
  rcases h with h | ⟨limits, hlimits, h⟩
  · exact .inl h
  · refine .inr ⟨limits, ⟨hlimits.pl1_pos, hlimits.pl2_pos, ?_, ?_⟩, h⟩
    · rw [← hfw1]
      exact hlimits.pl1_le
    · rw [← hfw2]
      exact hlimits.pl2_le

theorem Puts.of_same (h : Puts u w') (same : Same w u) : Puts w w' :=
  h.congr same.commanded same.pl1W same.pl2W same.fwPl1W same.fwPl2W

theorem GovState.Sane.of_same (hw : w.s.Sane) (same : Same w u) : u.s.Sane := by
  constructor
  · rw [same.fwPl1W]
    exact hw.fwPl1W
  · rw [same.fwPl2W]
    exact hw.fwPl2W
  · rw [same.pl1W]
    exact hw.pl1W

theorem staticCapW_pos (hg : w.g.Validated) : 0 < w.g.staticCapW := by
  have h := hg.staticCapW.1
  norm_num [eps] at h
  linarith

theorem floor_gt_one (hg : w.g.Validated) : 1 < w.floor := by
  have hfloor := hg.floorW.1
  have hstatic := hg.staticCapW.1
  norm_num [eps] at hfloor hstatic
  refine lt_min ?_ ?_
  · linarith
  · linarith

theorem fallbackW_pos (hw : w.s.Sane) (hg : w.g.Validated) : 0 < w.fallbackW w.g.staticCapW := by
  unfold fallbackW
  split
  · rename_i pl1 hpl1
    exact lt_min (staticCapW_pos hg) (hw.pl1W pl1 hpl1)
  · exact staticCapW_pos hg

theorem runOff_puts (hw : w.s.Sane) (hg : w.g.Validated) : Puts w w.runOff := by
  unfold runOff
  dsimp only
  apply Puts.enter
  split
  · exact Puts.write hw (by rfl) (by rfl) (by rfl) (by rfl) (by rfl) (staticCapW_pos hg) (staticCapW_pos hg) _ _
  · exact .silent rfl rfl rfl

theorem fallback_puts (hw : w.s.Sane) (hg : w.g.Validated) (reason : FallbackReason) :
    Puts w (w.fallback reason w.g.staticCapW) := by
  have hpos : ∀ v : Step, v.s.pl1W = w.s.pl1W → 0 < v.fallbackW w.g.staticCapW := by
    intro v hv
    rw [fallbackW, hv]
    exact fallbackW_pos hw hg
  unfold fallback
  dsimp only
  split
  · exact Puts.write hw (by simp [clearBelow]) (by simp [clearBelow]) (by simp [clearBelow])
      (by simp [clearBelow]) (by simp [clearBelow]) (hpos _ (by simp [clearBelow]))
      (hpos _ (by simp [clearBelow])) _ _
  · exact Puts.write hw (by simp [clearBelow]) (by simp [clearBelow]) (by simp [clearBelow])
      (by simp [clearBelow]) (by simp [clearBelow]) (hpos _ (by simp [clearBelow]))
      (hpos _ (by simp [clearBelow])) _ _

theorem readbackFailed_puts (hw : w.s.Sane) (hg : w.g.Validated) (rb : Readback) :
    Puts w (w.readbackFailed rb) := by
  unfold readbackFailed
  dsimp only
  apply Puts.event
  split
  · refine Puts.congr (fallback_puts ?_ ?_ _) rfl rfl rfl rfl rfl
    · exact ⟨hw.fwPl1W, hw.fwPl2W, hw.pl1W⟩
    · exact hg
  · exact .silent rfl rfl rfl

theorem wait_puts (hw : w.s.Sane) (hg : w.g.Validated) (sample : Sample) :
    Puts w (w.wait sample) := by
  have hfloor : 0 < w.floor := one_pos.trans (floor_gt_one hg)
  unfold wait
  split
  · dsimp only
    split
    · exact Puts.write hw (by simp) (by simp) (by simp) (by simp) (by simp) hfloor hfloor _ _
    · exact .silent rfl rfl rfl
  · exact .silent rfl rfl rfl

theorem runStatic_puts (hw : w.s.Sane) (hg : w.g.Validated) (force : Bool) :
    Puts w (w.runStatic force) := by
  unfold runStatic
  exact Puts.write hw (by simp) (by simp) (by simp) (by simp) (by simp) (staticCapW_pos hg)
    (staticCapW_pos hg) _ _

theorem runStale_puts (hw : w.s.Sane) (hg : w.g.Validated) (retried : Bool) :
    Puts w (w.runStale retried) := by
  unfold runStale
  dsimp only
  split
  · refine Puts.congr (fallback_puts ?_ ?_ _) rfl rfl rfl rfl rfl
    · exact ⟨hw.fwPl1W, hw.fwPl2W, hw.pl1W⟩
    · exact hg
  · have hpos := fallbackW_pos hw hg
    exact Puts.write hw (by rfl) (by rfl) (by rfl) (by rfl) (by rfl) hpos hpos _ _

theorem Outcome.limits (h : Outcome w sample ceiling d) :
    d.w.s.pl1W = w.s.pl1W ∧ d.w.s.pl2W = w.s.pl2W := by
  cases h <;> rename_i after <;> exact ⟨after.pl1W, after.pl2W⟩

/-- What is settled is positive, also with a burst that is negative within the tolerance. -/
theorem control_puts (hw : w.s.Sane) (hg : w.g.Validated) (force : Bool) :
    Puts w (w.control sample force) := by
  have hsame := w.same_thermal sample.pkgC w.floor w.top
  have hd := decision_outcome (w := (w.thermal sample.pkgC w.floor w.top).2) sample
    (w.thermal sample.pkgC w.floor w.top).1
  have hthermal := thermal_interval w sample hg.thermalStepW_pos.le
  rw [control_eq]
  generalize w.thermal sample.pkgC w.floor w.top = thermal at hsame hd hthermal ⊢
  rcases thermal with ⟨ceiling, u⟩
  dsimp only at hsame hd hthermal ⊢
  generalize u.decision sample ceiling = d at hd ⊢
  have hgu : u.g.Validated := hsame.g.symm ▸ hg
  -- PL1 is at least a watt
  have htop : 1 ≤ w.top := by
    rw [top, cap1_eq_min (GovState.Sane.positive hw)]
    refine le_min ?_ ?_
    · exact (floor_gt_one hg).le.trans w.floor_le_max
    · cases hfw : w.s.fwPl1W with
      | none => norm_num [limitBound, hardMaxW]
      | some fw => exact le_min (by norm_num [hardMaxW]) (hw.fwPl1W fw hfw)
  have hceiling : 1 ≤ ceiling := (le_min (floor_gt_one hg).le htop).trans hthermal.1
  have hpl1 : 1 ≤ d.pl1 := by
    refine (le_min ?_ hceiling).trans (hd.ge_floor hgu.recoverStepW_pos.le)
    rw [hsame.floor]
    exact (floor_gt_one hg).le
  have hburst : 0 < d.pl1 + w.g.burstW := by
    have hlow := hg.burstW.1
    norm_num [eps] at hlow
    linarith
  rcases hd.same with ⟨hdg, hdfw1, hdfw2, hdcmd⟩
  rcases hd.limits with ⟨hdpl1, hdpl2⟩
  refine Puts.of_same ?_ hsame
  have hsane : u.s.Sane := GovState.Sane.of_same hw hsame
  have hpl2 : 0 < (if d.new = .normal ∨ d.new = .trim then d.pl1 + w.g.burstW else d.pl1) := by
    split
    · exact hburst
    · linarith
  unfold settle
  dsimp only
  rw [(enter_frame _ _ _).1, hdg, hsame.g]
  exact Puts.write hsane (by simp [hdcmd]) (by simp [hdpl1]) (by simp [hdpl2]) (by simp [hdfw1])
    (by simp [hdfw2]) (by linarith) hpl2 _ _

theorem Path.puts (h : Path w sample w') (hw : w.s.Sane) (hg : w.g.Validated) : Puts w w' := by
  cases h with
  | off => exact runOff_puts hw hg
  | readbackFailed => exact readbackFailed_puts hw hg _
  | wait _ _ _ same _ =>
      exact (wait_puts (GovState.Sane.of_same hw same) (same.g ▸ hg) sample).of_same same
  | static _ same force =>
      exact (runStatic_puts (GovState.Sane.of_same hw same) (same.g ▸ hg) force).of_same same
  | stale _ _ _ _ same retried =>
      exact (runStale_puts (GovState.Sane.of_same hw same) (same.g ▸ hg) retried).of_same same
  | control _ _ _ _ same force =>
      exact (control_puts (GovState.Sane.of_same hw same) (same.g ▸ hg) force).of_same same

/-! ## Without a failed readback -/

theorem runStale_telemetry (w : Step) (retried : Bool) :
    (w.runStale retried).s.fallbackReason = some (.staleTelemetry w.g.staleTimeoutS) := by
  have hwrite : ∀ (u : Step) (pl1 pl2 : ℚ) (reason : WriteReason) (force : Bool),
      (u.write pl1 pl2 reason force).s.fallbackReason = u.s.fallbackReason := by
    intro u pl1 pl2 reason force
    unfold Step.write
    dsimp only
    split <;> rfl
  have henter : ∀ (u : Step) (new : State) (reason : Option FallbackReason),
      (u.enter new reason).s.fallbackReason = u.s.fallbackReason := by
    intro u new reason
    unfold Step.enter
    split <;> rfl
  unfold runStale
  dsimp only
  split
  · unfold fallback
    dsimp only
    rw [hwrite]
    show (Step.enter _ _ _).s.fallbackReason = _
    rw [henter]
  · rw [hwrite]

/-- FALLBACK is only for stale telemetry where no readback fails. -/
theorem Path.fallback_telemetry (h : Path w sample w') (hrb : ∀ rb, ¬ sample.Failed rb)
    (hw : w.s.retryAt = none) (hstate : w'.s.state = .fallback) :
    ∃ timeoutS, w'.s.fallbackReason = some (.staleTelemetry timeoutS) := by
  cases h with
  | off => exact absurd hstate (by simp [w.runOff_spec.1])
  | readbackFailed _ hfailed => exact absurd hfailed (hrb _)
  | wait _ _ hwait _ _ =>
      rcases hwait.2 with ⟨retryAt, hretryAt, -⟩
      rw [hw] at hretryAt
      cases hretryAt
  | @static u _ _ force => exact absurd hstate (by simp [(runStatic_spec u force).1])
  | @stale u _ _ _ _ _ retried => exact ⟨_, u.runStale_telemetry retried⟩
  | @control u _ _ _ _ _ force =>
      rcases control_spec u sample force with ⟨_, d, _, hd, hsettled⟩
      rw [hsettled.state] at hstate
      rcases hd.new_governed with hnew | hnew | hnew
      · exact absurd (hnew.symm.trans hstate) nofun
      · exact absurd (hnew.symm.trans hstate) nofun
      · exact absurd (hnew.symm.trans hstate) nofun

/-- Only a failed readback schedules a retry. -/
theorem run_retryAt (hrb : ∀ rb, ¬ sample.Failed rb) (hw : w.s.retryAt = none) :
    (w.run sample).s.retryAt = none := by
  have hretry : ∀ (u : Step) (force : Bool), u.s.retryAt = none →
      (u.retry sample force).s.retryAt = none := by
    intro u force hu
    rcases u.retry_reasserts sample force with ⟨-, hwait⟩ | hreasserts
    · rw [hwait, (wait_stamps u sample).1, hu]
    · cases hnew : (u.retry sample force).s.retryAt with
      | none => rfl
      | some retryAt =>
          have hold := hreasserts.retryAt retryAt hnew
          rw [hu] at hold
          cases hold
  unfold run
  split
  · unfold runOff
    dsimp only
    split <;> simp
  · dsimp only
    split
    · rename_i rb hreadback
      split_ifs with hok
      · exact hretry _ _ (w.readbackOk_retryAt.trans hw)
      · exact absurd ⟨hreadback, Bool.eq_false_iff.2 hok⟩ (hrb rb)
    · exact hretry _ _ hw

end Step

/-! ## Applying the actions -/

namespace Loop

section

variable {σ : Type} (setup : LoopSetup σ) (l : Loop σ)

/-- `apply` of commanded limits. -/
def setLimits (outcome : ApplyOutcome σ) (l : Loop σ) (limits : ℚ × ℚ) : Loop σ :=
  apply setup outcome l (.setLimits limits.1 limits.2 .off)

/-- Of the actions of a step only the limits count. -/
theorem foldl_apply (outcome : ApplyOutcome σ) (actions : List Action) :
    actions.foldl (apply setup outcome) l = (commanded actions).foldl (setLimits setup outcome) l := by
  induction actions generalizing l with
  | nil => rfl
  | cons action actions ih =>
      rw [List.foldl_cons, ih]
      cases action with
      | event e => rfl
      | setLimits pl1 pl2 reason => rfl

theorem setLimits_gov (outcome : ApplyOutcome σ) (limits : ℚ × ℚ) :
    (setLimits setup outcome l limits).gov = l.gov ∧
      (setLimits setup outcome l limits).readback.isSome = true := by
  unfold setLimits apply
  cases outcome with
  | unavailable => exact ⟨rfl, rfl⟩
  | raised error left => exact ⟨rfl, rfl⟩
  | returned => exact ⟨rfl, rfl⟩

/-- Applying limits leaves what the governor is. -/
theorem foldl_setLimits (outcome : ApplyOutcome σ) (limits : List (ℚ × ℚ)) :
    (limits.foldl (setLimits setup outcome) l).gov = l.gov ∧
      ((limits.foldl (setLimits setup outcome) l).readback.isSome ↔ limits ≠ [] ∨ l.readback.isSome) := by
  induction limits generalizing l with
  | nil => simp
  | cons first rest ih =>
      rcases setLimits_gov setup l outcome first with ⟨hgov, hreadback⟩
      rw [List.foldl_cons]
      refine ⟨(ih _).1.trans hgov, (ih _).2.trans ?_⟩
      simp [hreadback]

/-- The loop in the middle of a tick, before the actions are applied. -/
def stepped (x : LoopInput σ) (slow : Bool) : Loop σ :=
  { l with
    sampler := l.sampled x slow
    readback := none
    gov := (step l.gov (l.sample x slow) x.config x.now).1 }

/-- An iteration whose step does not raise applies the limits that the step commands. -/
theorem loopOnce_eq {x : LoopInput σ} (slow : Bool) (hstep : x.stepRaises = false) :
    let applied := (commanded (step l.gov (l.sample x slow) x.config x.now).2).foldl
      (setLimits setup x.applied) (l.stepped x slow)
    (l.loopOnce setup x slow).1.gov = applied.gov ∧
      (l.loopOnce setup x slow).1.readback = applied.readback ∧
      (l.loopOnce setup x slow).1.machine = applied.machine := by
  intro applied
  have htick : (l.tick setup x slow).1 = { applied with lastStepOk := some x.now } := by
    unfold tick
    dsimp only
    rw [hstep, if_neg (by decide), foldl_apply]
    rfl
  refine ⟨?_, ?_, ?_⟩
  · show (l.tick setup x slow).1.gov = _
    rw [htick]
  · show (l.tick setup x slow).1.readback = _
    rw [htick]
  · show (l.tick setup x slow).1.machine = _
    rw [htick]

end

end Loop

/-! ## The run of the governor -/

namespace LoopRun

section

variable {σ : Type} (r : LoopRun σ)

/-- What the loop calls the governor with. -/
def governor : Run where
  started := r.started
  firmware := governorFirmware r.setup.firmware
  ticks n := ⟨r.sample n, (r.inputs n).config, r.time n⟩
  mono := r.mono

/-- The daemon's loop is a run of the governor, and delivers the readback of each write
with exactly the next step, whatever reads and writes fail or raise. -/
theorem governor_run (hsteps : ∀ n, (r.inputs n).stepRaises = false) :
    (∀ n, r.governor.state n = (r.state n).gov) ∧ r.governor.ReadsBack := by
  have hstate : ∀ n, r.governor.state n = (r.state n).gov := by
    intro n
    induction n with
    | zero => rfl
    | succ n ih =>
        have hgov := ((r.state n).loopOnce_eq r.setup (slow n) (hsteps n)).1
        rw [(Loop.foldl_setLimits _ _ _ _).1] at hgov
        rw [Run.state, ih]
        exact hgov.symm
  refine ⟨hstate, rfl, fun n => ?_⟩
  have hreadback := ((r.state n).loopOnce_eq r.setup (slow n) (hsteps n)).2.1
  show (r.state (n + 1)).readback.isSome ↔ _
  rw [state, hreadback, (Loop.foldl_setLimits _ _ _ _).2, Run.actions, hstate n]
  simp [Loop.stepped]
  rfl

end

end LoopRun

/-! ## A package that answers -/

namespace Package

/-- The package with limits, and enabled. -/
def limited (p : Package) (pl1W pl2W : ℚ) : Package :=
  { p with pl1Units := floorUnits pl1W, pl2Units := floorUnits pl2W, enabled := true }

theorem limitBound_eq (fw : Option ℚ) : fw.elim hardMaxW (min hardMaxW) = limitBound fw := by
  cases fw with
  | none => rfl
  | some fw => rfl

theorem limitBound_le (fw : Option ℚ) : limitBound fw ≤ 45 := by
  cases fw with
  | none => exact le_refl _
  | some fw => exact min_le_left _ _

theorem floorUnits_bounds {w : ℚ} (hpos : 0 < w) (hle : w ≤ 45) :
    0 ≤ floorUnits w ∧ floorUnits w ≤ 360 := by
  refine ⟨floorUnits_nonneg hpos.le, Int.lt_add_one_iff.1 (Int.floor_lt.2 ?_)⟩
  push_cast
  linarith

/-- Limits in bounds are written as they are, cut to units, and read back. -/
theorem applyAndVerify_limited (p : Package) {pl1W pl2W : ℚ} {firmware : Option FirmwareRecord}
    (hpl1 : 0 < pl1W) (hpl2 : 0 < pl2W) (hle1 : pl1W ≤ limitBound (firmwarePl1W firmware))
    (hle2 : pl2W ≤ limitBound (firmwarePl2W firmware)) :
    let result := Package.access.applyAndVerify p.constraints pl1W pl2W hardMaxW firmware p
    result.1.ok = true ∧ result.2 = p.limited pl1W pl2W := by
  have hclamp : clampToRecord pl1W pl2W hardMaxW firmware = (floorEighth pl1W, floorEighth pl2W) := by
    rw [clampToRecord_eq, limitBound_eq, limitBound_eq, min_eq_left hle1, min_eq_left hle2]
  have hn1 := floorUnits_bounds hpl1 (hle1.trans (limitBound_le _))
  have hn2 := floorUnits_bounds hpl2 (hle2.trans (limitBound_le _))
  have hread : Package.access.readLimits p.constraints (p.limited pl1W pl2W) =
      ⟨some (wToUw (floorEighth pl1W)), some (wToUw (floorEighth pl2W)), some 1⟩ := by
    rw [wToUw_floorEighth, wToUw_floorEighth]
    exact (p.limited pl1W pl2W).readLimits_eq
  have hok : (compareLimits (floorEighth pl1W) (floorEighth pl2W)
      (Package.access.readLimits p.constraints (p.limited pl1W pl2W))
      (Package.access.pkgLimit (p.limited pl1W pl2W))).1 = true := by
    rw [hread]
    apply compareLimits_ok
    intro m hm
    rw [pkgLimit_eq (p.limited pl1W pl2W) hn1 hn2 rfl] at hm
    split_ifs at hm
    · cases hm
      exact ⟨rfl, rfl, rfl⟩
    · cases hm
  intro result
  have hresult : result = Package.access.applyAndVerify p.constraints pl1W pl2W hardMaxW firmware p := rfl
  simp only [ZoneAccess.applyAndVerify, hclamp, p.writeLimits_eq, if_true] at hresult
  rw [hresult]
  exact ⟨hok, rfl⟩

end Package

namespace LoopRun

variable (r : LoopRun Package)

/-- A loop over a package that answers: nothing raises, the configuration is always a
valid one, and the firmware's PL1 is at least a watt. -/
structure Works (r : LoopRun Package) : Prop where
  access : r.setup.access = Package.access
  constraints : r.setup.constraints = r.machine.constraints
  firmware : ∀ fw ∈ firmwarePl1W r.setup.firmware, 1 ≤ fw
  steps : ∀ n, (r.inputs n).stepRaises = false
  applied : ∀ n, (r.inputs n).applied = .returned
  config : ∀ n, (r.inputs n).config.Validated

/-- What holds of the governor between two iterations of such a loop. -/
structure Governed (r : LoopRun Package) (s : GovState) : Prop where
  sane : s.Sane
  fwPl1W : s.fwPl1W = firmwarePl1W r.setup.firmware
  fwPl2W : s.fwPl2W = firmwarePl2W r.setup.firmware
  retryAt : s.retryAt = none
  telemetry : s.state = .fallback → ∃ timeoutS, s.fallbackReason = some (.staleTelemetry timeoutS)

/-- And what holds of the machine. -/
structure InForce (r : LoopRun Package) (l : Loop Package) : Prop where
  governed : Governed r l.gov
  swapped : l.machine.swapped = r.machine.swapped
  readback : ∀ rb ∈ l.readback, rb.ok = true
  pl1W : ∀ pl1 ∈ l.gov.pl1W, l.machine.pl1Units = floorUnits pl1 ∧ l.machine.enabled = true
  pl2W : ∀ pl2 ∈ l.gov.pl2W, l.machine.pl2Units = floorUnits pl2

variable {r}

theorem inForce_init (h : r.Works) : InForce r (.init r.setup r.started r.machine) where
  governed := ⟨⟨h.firmware, (firmwareW_pos _).2, nofun⟩, rfl, rfl, rfl, nofun⟩
  swapped := rfl
  readback := nofun
  pl1W := nofun
  pl2W := nofun

/-- One step of the governor, on a sample without a failed readback. -/
theorem governed_step {w w' : Step} {sample : Sample} (h : w.Path sample w')
    (hw : Governed r w.s) (hputs : Step.Puts w w') (hretry : w'.s.retryAt = none)
    (hfailed : ∀ rb, ¬ sample.Failed rb) : Governed r w'.s where
  sane := by
    rcases h.firmware with ⟨hfw1, hfw2⟩
    refine ⟨?_, ?_, ?_⟩
    · rw [hfw1]
      exact hw.sane.fwPl1W
    · rw [hfw2]
      exact hw.sane.fwPl2W
    · rcases hputs with ⟨-, hpl1, -⟩ | ⟨limits, hadmissible, -, hpl1, -⟩
      · rw [hpl1]
        exact hw.sane.pl1W
      · rw [hpl1]
        intro pl1 heq
        rw [← Option.some.inj heq]
        exact hadmissible.pl1_pos
  fwPl1W := h.firmware.1.trans hw.fwPl1W
  fwPl2W := h.firmware.2.trans hw.fwPl2W
  retryAt := hretry
  telemetry := h.fallback_telemetry hfailed hw.retryAt

/-- One iteration. -/
theorem inForce_step (h : r.Works) (n : ℕ) (hn : InForce r (r.state n)) :
    InForce r (r.state (n + 1)) := by
  set l := r.state n
  set x := r.inputs n
  set sample := l.sample x (slow n)
  set w := Step.start l.gov sample x.config x.now
  have hw : Governed r w.s := by
    have hl := hn.governed
    exact ⟨⟨hl.sane.fwPl1W, hl.sane.fwPl2W, hl.sane.pl1W⟩, hl.fwPl1W, hl.fwPl2W, hl.retryAt,
      hl.telemetry⟩
  have hpath : w.Path sample (w.run sample) := Step.run_path _ _
  have hfailed : ∀ rb, ¬ sample.Failed rb := by
    rintro rb ⟨hrb, hfalse⟩
    have hok := hn.readback rb hrb
    rw [hfalse] at hok
    cases hok
  have hputs : Step.Puts w (w.run sample) := hpath.puts hw.sane (h.config n)
  have hgoverned := governed_step hpath hw hputs (Step.run_retryAt hfailed hw.retryAt) hfailed
  rcases l.loopOnce_eq r.setup (slow n) (h.steps n) with ⟨hgov, hreadback, hmachine⟩
  rw [(Loop.foldl_setLimits _ _ _ _).1] at hgov
  change (r.state (n + 1)).gov = (w.run sample).s at hgov
  rw [← hgov] at hgoverned
  rcases hputs with ⟨hcmd, hpl1, hpl2⟩ | ⟨limits, hadmissible, hcmd, hpl1, hpl2⟩
  · -- nothing is commanded, and the machine stays
    change commanded (step l.gov sample x.config x.now).2 = [] at hcmd
    rw [hcmd] at hreadback hmachine
    change (r.state (n + 1)).machine = l.machine at hmachine
    change (r.state (n + 1)).readback = none at hreadback
    refine ⟨hgoverned, ?_, ?_, ?_, ?_⟩
    · rw [hmachine]
      exact hn.swapped
    · rw [hreadback]
      exact nofun
    · rw [hgov, hmachine, hpl1]
      exact hn.pl1W
    · rw [hgov, hmachine, hpl2]
      exact hn.pl2W
  · -- the limits are written, and read back
    change commanded (step l.gov sample x.config x.now).2 = [limits] at hcmd
    have hbound1 : limits.1 ≤ limitBound (firmwarePl1W r.setup.firmware) := by
      rw [← hw.fwPl1W]
      exact hadmissible.pl1_le
    have hbound2 : limits.2 ≤ limitBound (firmwarePl2W r.setup.firmware) := by
      rw [← hw.fwPl2W]
      exact hadmissible.pl2_le
    have hwritten := l.machine.applyAndVerify_limited hadmissible.pl1_pos hadmissible.pl2_pos
      hbound1 hbound2
    have hconstraints : l.machine.constraints = r.setup.constraints := by
      rw [h.constraints, Package.constraints, Package.constraints, hn.swapped]
    rw [hconstraints, ← h.access] at hwritten
    rw [hcmd, h.applied n] at hreadback hmachine
    change (r.state (n + 1)).machine = (r.setup.access.applyAndVerify _ _ _ _ _ l.machine).2 at hmachine
    change (r.state (n + 1)).readback =
      some ⟨(r.setup.access.applyAndVerify _ _ _ _ _ l.machine).1.ok, _⟩ at hreadback
    rw [hwritten.2] at hmachine
    refine ⟨hgoverned, ?_, ?_, ?_, ?_⟩
    · rw [hmachine]
      exact hn.swapped
    · rw [hreadback]
      intro rb heq
      rw [← Option.some.inj heq]
      exact hwritten.1
    · rw [hgov, hmachine, hpl1]
      intro pl1 heq
      rw [← Option.some.inj heq]
      exact ⟨rfl, rfl⟩
    · rw [hgov, hmachine, hpl2]
      intro pl2 heq
      rw [← Option.some.inj heq]
      rfl

theorem inForce (h : r.Works) (n : ℕ) : InForce r (r.state n) := by
  induction n with
  | zero => exact inForce_init h
  | succ n ih => exact inForce_step h n ih

/-- Over a package that answers no readback fails, FALLBACK is only for stale telemetry,
and the limits of the register are those the governor takes to be in force, cut to units
of 1/8 W: whatever is read, and however the configuration and the mode change. -/
theorem limits_in_force (h : r.Works) (n : ℕ) :
    (∀ rb ∈ (r.sample n).readback, rb.ok = true) ∧
      ((r.state n).gov.state = .fallback →
        ∃ timeoutS, (r.state n).gov.fallbackReason = some (.staleTelemetry timeoutS)) ∧
      (∀ pl1 ∈ (r.state n).gov.pl1W, (r.state n).machine.pl1Units / 8 = floorEighth pl1 ∧
        (r.state n).machine.enabled = true) ∧
      ∀ pl2 ∈ (r.state n).gov.pl2W, (r.state n).machine.pl2Units / 8 = floorEighth pl2 := by
  have hn := inForce h n
  refine ⟨hn.readback, hn.governed.telemetry, fun pl1 hpl1 => ?_, fun pl2 hpl2 => ?_⟩
  · rw [(hn.pl1W pl1 hpl1).1]
    exact ⟨rfl, (hn.pl1W pl1 hpl1).2⟩
  · rw [hn.pl2W pl2 hpl2]
    rfl

/-- A loop without any telemetry, under the defaults. -/
def blind : LoopRun Package where
  setup := ⟨Package.access, samplePackage.constraints, none, fun _ => ""⟩
  started := 0
  machine := samplePackage
  inputs n := ⟨n, none, none, GovernorConfig.defaults, false, .returned, 2⟩
  mono := Run.mono_seconds

theorem blind_works : blind.Works where
  access := rfl
  constraints := rfl
  firmware := nofun
  steps _ := rfl
  applied _ := rfl
  config _ := GovernorConfig.defaults_validated

theorem governor_run_blind : blind.governor.ReadsBack :=
  (governor_run blind fun _ => rfl).2

theorem limits_in_force_blind : (blind.state 1).machine.pl1Units / 8 = floorEighth 35 :=
  ((limits_in_force blind_works 1).2.2.1 35 (by decide +kernel)).1

end LoopRun

end TurboMac.Linux
