import TurboMac.Lib.SavedRegister
import TurboMac.Kext.Run
import TurboMac.Kext.Observe

/-! # MSR 0x610

A driver that alone writes the register, on hardware that stores what is
written, moves it in small steps: it captures the register, writes below the
capture, and releases it. Ghost state tells whether the register has ever been
released with other limits than the captured ones.
-/

namespace TurboMac.Kext

open Program Relation

/-! ## Small steps -/

/-- What a small step other than a capture or a release leaves. -/
structure SameCapture (d d' : Driver) : Prop where
  captured : d'.captured = d.captured
  capturedPackageLimit : d'.capturedPackageLimit = d.capturedPackageLimit
  armed : d'.state = .armed → d.state = .armed ∨ d'.captured = true

/-- A small step of the driver, on its world and on whether the original limits
have been lost. -/
inductive LimitStep (initial : U64) : World × Prop → World × Prop → Prop
  | assign {w : World} {d : Driver} {lost : Prop} (hd : SameCapture w.driver d) :
      LimitStep initial (w, lost) (⟨d, w.log⟩, lost)
  | event {w : World} {e : Event} {lost : Prop} (he : e.LeavesLimit) :
      LimitStep initial (w, lost) (w.logged e, lost)
  | capture {w : World} {d : Driver} {lost : Prop} (hidle : w.driver.captured = false)
      (hcaptured : d.captured = true)
      (hlimit : d.capturedPackageLimit = packageLimit initial w.log)
      (hunlocked : raplLocked (packageLimit initial w.log) = false) :
      LimitStep initial (w, lost) (⟨d, w.log⟩, lost)
  | write {w : World} {value : U64} {lost : Prop} (hcaptured : w.driver.captured = true)
      (hfields : limitFields value ≤ limitFields w.driver.capturedPackageLimit)
      (hother : otherBits value = otherBits (packageLimit initial w.log) ∨
        otherBits value = otherBits w.driver.capturedPackageLimit)
      (hunlocked : raplLocked value = false) :
      LimitStep initial (w, lost) (w.logged (.wrmsr msrPackagePowerLimit value), lost)
  | release {w : World} {d : Driver} {lost : Prop} (hcaptured : w.driver.captured = true)
      (hreleased : d.captured = false) (hstate : d.state ≠ .armed) :
      LimitStep initial (w, lost) (⟨d, w.log⟩,
        lost ∨ limitFields (packageLimit initial w.log) ≠ limitFields w.driver.capturedPackageLimit)

/-- Any number of small steps. -/
abbrev LimitSteps (initial : U64) : World × Prop → World × Prop → Prop :=
  ReflTransGen (LimitStep initial)

/-- The register as a saved register. -/
def cell (initial : U64) (g : World × Prop) : SavedRegister.Cell LimitFields where
  live := limitFields (packageLimit initial g.1.log)
  saved :=
    if g.1.driver.captured then some (limitFields g.1.driver.capturedPackageLimit) else none
  lost := g.2

/-- Each small step is a step of the saved register, or none. -/
theorem LimitStep.cell {initial : U64} {g g' : World × Prop} (h : LimitStep initial g g') :
    SavedRegister.Steps (cell initial g) (cell initial g') := by
  cases h with
  | assign hd =>
      have heq : ∀ {w : World} {d : Driver} {lost : Prop}, SameCapture w.driver d →
          Kext.cell initial (⟨d, w.log⟩, lost) = Kext.cell initial (w, lost) := by
        intro w d lost hd
        simp [Kext.cell, hd.captured, hd.capturedPackageLimit]
      rw [heq hd]
  | @event w e lost he =>
      have heq : Kext.cell initial (w.logged e, lost) = Kext.cell initial (w, lost) := by
        simp only [Kext.cell, packageLimit_logged initial he]
        rfl
      rw [heq]
  | @capture w d lost hidle hcaptured hlimit hunlocked =>
      refine .single ?_
      simp only [Kext.cell, hidle, hcaptured, hlimit, if_true, Bool.false_eq_true, if_false]
      exact .save _ _
  | @write w value lost hcaptured hfields hother hunlocked =>
      refine .single ?_
      simp only [Kext.cell, World.logged, hcaptured, packageLimit_write, if_true]
      exact .write _ _ hfields
  | @release w d lost hcaptured hreleased hstate =>
      refine .single ?_
      simp only [Kext.cell, hcaptured, hreleased, if_true, Bool.false_eq_true, if_false]
      exact .release _ _ _

/-- Simulation: the driver's small steps are steps of the saved register. -/
theorem LimitSteps.cell {initial : U64} {g g' : World × Prop} (h : LimitSteps initial g g') :
    SavedRegister.Steps (cell initial g) (cell initial g') := by
  induction h with
  | refl => exact .refl
  | tail _ hstep ih => exact ih.trans hstep.cell

/-- A capture is of an unlocked register, and what is written unlocks it. -/
def CaptureUnlocked (initial : U64) (w : World) : Prop :=
  w.driver.captured = true → raplLocked (packageLimit initial w.log) = false

theorem LimitStep.captureUnlocked {initial : U64} {g g' : World × Prop}
    (h : LimitStep initial g g') (hg : CaptureUnlocked initial g.1) :
    CaptureUnlocked initial g'.1 := by
  cases h with
  | assign hd =>
      intro hcaptured
      exact hg (hd.captured.symm.trans hcaptured)
  | @event w e lost he =>
      intro hcaptured
      rw [packageLimit_logged initial he]
      exact hg hcaptured
  | capture _ _ _ hunlocked =>
      intro _
      exact hunlocked
  | @write w value lost _ _ _ hunlocked =>
      intro _
      rw [World.logged, packageLimit_write]
      exact hunlocked
  | release _ hreleased _ =>
      intro hcaptured
      exact absurd hcaptured (by simp [hreleased])

theorem LimitSteps.captureUnlocked {initial : U64} {g g' : World × Prop}
    (h : LimitSteps initial g g') (hg : CaptureUnlocked initial g.1) :
    CaptureUnlocked initial g'.1 := by
  induction h with
  | refl => exact hg
  | tail _ hstep ih => exact hstep.captureUnlocked ih

/-! ## The driver in small steps -/

theorem SameCore.sameCapture {d d' : Driver} (h : SameCore d d') : SameCapture d d' :=
  ⟨h.captured, h.capturedPackageLimit, fun harmed => .inl (h.state.symm.trans harmed)⟩

/-- What leaves the register alone makes no step that matters. -/
theorem Frame.limitSteps {initial : U64} {w w' : World} (h : Frame SameCore LeavesLimit w w')
    (lost : Prop) : LimitSteps initial (w, lost) (w', lost) := by
  have hlog : ∀ log, Extends (fun _ e => SameCore w.driver e.driver ∧ LeavesLimit e) w.log log →
      ∀ d, SameCore w.driver d → LimitSteps initial (w, lost) (⟨d, log⟩, lost) := by
    intro log hlog
    induction hlog with
    | refl =>
        intro d hd
        exact .single (.assign hd.sameCapture)
    | @cons log e _ he ih =>
        intro d hd
        -- the driver becomes what it was at the event, and then what it is after it
        have hevent : LimitStep initial (⟨e.driver, log⟩, lost) (⟨e.driver, e :: log⟩, lost) :=
          .event he.2
        have hafter : SameCapture e.driver d := by
          refine ⟨hd.captured.trans he.1.captured.symm,
            hd.capturedPackageLimit.trans he.1.capturedPackageLimit.symm, fun harmed => .inl ?_⟩
          rw [he.1.state, ← hd.state]
          exact harmed
        exact ((ih e.driver he.1).tail hevent).tail (.assign hafter)
  exact hlog w'.log h.log w'.driver h.driver

/-- Small steps under a capture that is kept. -/
structure LimitFrame (initial : U64) (w w' : World) : Prop where
  core : SameCore w.driver w'.driver
  steps : w.driver.captured = true → ∀ lost, LimitSteps initial (w, lost) (w', lost)

instance (initial : U64) : IsPreorder World (LimitFrame initial) where
  refl w := ⟨refl_of SameCore w.driver, fun _ _ => .refl⟩
  trans w w' w'' h h' := by
    refine ⟨trans_of SameCore h.core h'.core, fun hcaptured lost => ?_⟩
    exact (h.steps hcaptured lost).trans (h'.steps (h.core.captured.trans hcaptured) lost)

theorem keeps_limitFrame {initial : U64} {α : Type} {m : DriverM α}
    (h : Keeps (Frame SameCore LeavesLimit) m) : Keeps (LimitFrame initial) m :=
  h.mono fun _ _ hw => ⟨hw.driver, fun _ lost => hw.limitSteps lost⟩

section

variable {P : Platform} {initial : U64} (hP : StoresLimit P initial)

include hP

theorem keeps_installLimitsLocked_limit (pl1MW pl2MW : U32) :
    Keeps (LimitFrame initial) (installLimitsLocked P pl1MW pl2MW) := by
  intro w
  have hkeeps : Keeps (Frame SameCore fun _ => True) (installLimitsLocked P pl1MW pl2MW) :=
    keeps_installLimitsLocked P (fun _ _ => trivial) (fun _ _ => trivial) pl1MW pl2MW
  have hcore := (hkeeps w).driver
  refine ⟨hcore, fun hcaptured lost => ?_⟩
  generalize hexec : exec (installLimitsLocked P pl1MW pl2MW) w = r at hcore ⊢
  obtain ⟨ok, w'⟩ := r
  rcases installLimitsLocked_cases P pl1MW pl2MW w hexec with ⟨-, current, rfl⟩ |
    ⟨current, requested, readback, hinstalled⟩
  · -- the limits are refused after a read
    exact .single (.event trivial)
  have hlive : current = packageLimit initial w.log := hinstalled.current_eq.trans (hP w.log)
  have haccepted := hinstalled.accepted
  simp only [limitsRefused, hcaptured, Bool.true_and, Bool.or_eq_false_iff,
    decide_eq_false_iff_not, BitVec.not_lt] at haccepted
  -- read, write, read back, and the driver's copy
  have hread : LimitStep initial (w, lost) (w.logged (.rdmsr msrPackagePowerLimit current), lost) :=
    .event trivial
  have hwrite : LimitStep initial (w.logged (.rdmsr msrPackagePowerLimit current), lost)
      ((w.logged (.rdmsr msrPackagePowerLimit current)).logged
        (.wrmsr msrPackagePowerLimit requested), lost) := by
    refine .write hcaptured ?_ (.inl ?_) ?_
    · rw [hinstalled.requested_eq]
      exact limitFields_withPowerLimits_le current haccepted.1.2.1 haccepted.1.2.2
    · rw [hinstalled.requested_eq, otherBits_withPowerLimits, hlive,
        packageLimit_logged initial (by trivial)]
    · rw [hinstalled.requested_eq]
      exact raplLocked_withPowerLimits _ _ _
  have hreadback : LimitStep initial
      ((w.logged (.rdmsr msrPackagePowerLimit current)).logged
        (.wrmsr msrPackagePowerLimit requested), lost)
      (((w.logged (.rdmsr msrPackagePowerLimit current)).logged
        (.wrmsr msrPackagePowerLimit requested)).logged
        (.rdmsr msrPackagePowerLimit readback), lost) := .event trivial
  have hassign : LimitStep initial
      ((((w.logged (.rdmsr msrPackagePowerLimit current)).logged
        (.wrmsr msrPackagePowerLimit requested)).logged
        (.rdmsr msrPackagePowerLimit readback)), lost) (w', lost) := by
    have hw' : w' = ⟨w'.driver, w'.log⟩ := rfl
    rw [hw', hinstalled.log]
    exact .assign hcore.sameCapture
  exact (((ReflTransGen.single hread).tail hwrite).tail hreadback).tail hassign

theorem keeps_armInstall_limit (request : LimitRequest) (hwpWasEnabled : Bool) :
    Keeps (LimitFrame initial) (armInstall P request hwpWasEnabled) := by
  have hread : ∀ e : Entry, e.event.IsRead → LeavesLimit e := fun _ he => he.isHWP.leavesLimit
  have hbootstrap : Keeps (LimitFrame initial) (bootstrapHWPLocked P) := by
    refine keeps_limitFrame (keeps_sameCore ?_)
    exact keeps_bootstrapHWPLocked P (fun _ he => (Entry.Restrained.onHWP he).leavesLimit)
      fun _ he => (Event.IsEnable.onHWP he).leavesLimit
  refine (keeps_limitFrame keeps_getDriver).bind fun d => ?_
  refine (keeps_limitFrame (keeps_validateRequestLocked P hread _ _)).bind fun _ => ?_
  refine Keeps.ite (keeps_pure _) ((keeps_installLimitsLocked_limit hP _ _).bind fun _ => ?_)
  refine Keeps.ite (keeps_pure _) (Keeps.ite (keeps_pure _) (hbootstrap.bind fun _ => ?_))
  refine Keeps.ite (keeps_pure _) (Keeps.ite (keeps_pure _) ?_)
  exact keeps_installLimitsLocked_limit hP _ _

/-! ### `arm` -/

/-- `arm` captures what the register holds. -/
theorem store_limitStep {w₀ w₁ : World} {capture : ArmCapture} (h : Capturable P w₀ capture w₁)
    (hframe : Frame SameCore LeavesLimit w₀ w₁) (hidle : w₁.driver.captured = false)
    (lost : Prop) : LimitStep initial (w₁, lost) (capture.store w₁, lost) := by
  have hlimit : capture.packageLimit = packageLimit initial w₁.log := by
    rw [h.packageLimit, hP, packageLimit_frame initial hframe]
  refine .capture hidle rfl hlimit ?_
  rw [← hlimit]
  exact h.unlocked

theorem armExit_limitSteps {request : Option LimitRequest} {w w' : World} {exit : Exit}
    (h : exec (armExit P request) w = (exit, w')) (lost : Prop) :
    LimitSteps initial (w, lost) (w', lost) := by
  have hread : ∀ e : Entry, Reads e → LeavesLimit e := fun _ he => (Event.IsRead.isHWP he).leavesLimit
  rcases armExit_cases P request w with ⟨code, w₁, hexec, hrefused⟩ |
    ⟨r, capture, w₀, w₁, -, -, hidle, -, hframe₀, hframe₁, hcapturable, hexec⟩
  · rw [hexec] at h
    obtain ⟨-, rfl⟩ := Prod.mk.inj h
    exact (hrefused.frame.weaken hread).limitSteps lost
  have hcore₀ : Frame SameCore LeavesLimit w w₀ := hframe₀.const.weaken hread
  have hcore₁ : Frame SameCore LeavesLimit w₀ w₁ :=
    hframe₁.mono (fun _ _ hd => hd.sameCore) hread
  have hidle₁ : w₁.driver.captured = false := by
    rw [hcore₁.driver.captured, hcore₀.driver.captured]
    exact hidle
  have hstore : LimitSteps initial (w, lost) (capture.store w₁, lost) :=
    ((trans_of _ hcore₀ hcore₁).limitSteps lost).tail
      (store_limitStep hP hcapturable hcore₁ hidle₁ lost)
  rw [hexec] at h
  obtain ⟨installed, w₂, hinstall, h₂⟩ := armCaptured_cases P h
  have hframe₂ := (keeps_armInstall_limit hP r capture.hwpWasEnabled).rel hinstall
  have hsteps₂ := hstore.trans (hframe₂.steps rfl lost)
  rcases h₂ with ⟨-, -, rfl⟩ | ⟨-, applied, w₃, happly, h₃⟩
  · exact hsteps₂
  have hframe₃ : Frame SameCore LeavesLimit w₂ w₃ :=
    ((keeps_applyHWPMaximumLocked_onHWP P r.hwpMode).rel happly).mono
      (fun _ _ hd => hd.sameCore) fun _ he => Event.IsHWP.leavesLimit he
  have hsteps₃ := hsteps₂.trans (hframe₃.limitSteps lost)
  rcases h₃ with ⟨-, -, rfl⟩ | ⟨-, cleared, w₄, hclear, h₄⟩
  · exact hsteps₃
  have hframe₄ : Frame SameCore LeavesLimit w₃ w₄ :=
    ((keeps_setPowerControlGuardLocked P false fun _ _ => trivial).rel hclear).mono
      (fun _ _ hd => hd.toHWPMembers.sameCore) fun _ he => he
  have hsteps₄ := hsteps₃.trans (hframe₄.limitSteps lost)
  rcases h₄ with ⟨-, -, rfl⟩ | ⟨-, -, rfl⟩
  · exact hsteps₄
  -- the clock is read, Armed and with the capture
  have hcaptured : w₄.driver.captured = true := by
    rw [hframe₄.driver.captured, hframe₃.driver.captured, hframe₂.core.captured]
    rfl
  set d := { w₄.driver with
    state := .armed
    restoreReason := .none
    lastSequence := r.sequence
    watchdogTimeoutMS := r.watchdogTimeoutMS } with hd
  have hassign : LimitStep initial (w₄, lost) (⟨d, w₄.log⟩, lost) :=
    .assign ⟨rfl, rfl, fun _ => .inr hcaptured⟩
  have hclock : LimitStep initial (⟨d, w₄.log⟩, lost)
      (World.logged ⟨d, w₄.log⟩ (.machAbsoluteTime (P.machAbsoluteTime w₄.log)), lost) :=
    .event trivial
  have hlast : LimitStep initial
      (World.logged ⟨d, w₄.log⟩ (.machAbsoluteTime (P.machAbsoluteTime w₄.log)), lost)
      (armed P r w₄, lost) := .assign ⟨rfl, rfl, fun _ => .inl rfl⟩
  exact ((hsteps₄.tail hassign).tail hclock).tail hlast

/-! ### Restores -/

/-- The HWP part of a restore fails. -/
def HWPFails (P : Platform) (w : World) : Prop :=
  (exec (restoreHWPLocked P) (exec (setPowerControlGuardLocked P true) w.fired).2).1 = false

/-- A restore that begins here releases other limits than it has captured: its HWP
part fails, which leaves the register as it is. -/
def LosesLimits (P : Platform) (initial : U64) (w : World) : Prop :=
  w.driver.captured = true ∧ HWPFails P w ∧
    limitFields (packageLimit initial w.log) ≠ limitFields w.driver.capturedPackageLimit

omit hP in
theorem fired_limitStep (w : World) (lost : Prop) : LimitStep initial (w, lost) (w.fired, lost) :=
  .assign ⟨rfl, rfl, fun harmed => .inl harmed⟩

/-- The last stage of a restore, and the release. -/
theorem release_limitSteps {reason : RestoreReason} {hwpRestored limitsRestored restored : Bool}
    {w w₁ w' : World} (hcaptured : w.driver.captured = true)
    (hunlocked : raplLocked (packageLimit initial w.log) = false)
    (hlimits : exec (restoreLimitsLocked P hwpRestored) w = (limitsRestored, w₁))
    (hreleased : Released reason restored w₁ w') (lost : Prop) :
    LimitSteps initial (w, lost) (w', lost ∨ hwpRestored = false ∧
      limitFields (packageLimit initial w.log) ≠ limitFields w.driver.capturedPackageLimit) := by
  set current := P.rdmsr w.log msrPackagePowerLimit with hcurrent
  set value := w.driver.capturedPackageLimit &&& ~~~raplLock with hvalue
  obtain ⟨hfields, hother, hfree⟩ := unlock_spec w.driver.capturedPackageLimit
  have hrelease : w₁.driver = w.driver → LimitStep initial (w₁, lost) (w', lost ∨
      limitFields (packageLimit initial w₁.log) ≠ limitFields w.driver.capturedPackageLimit) := by
    intro hdriver
    have hw' : w' = ⟨w'.driver, w₁.log⟩ := by
      rw [← hreleased.log]
    rw [hw', ← hdriver]
    exact .release (hdriver ▸ hcaptured) hreleased.captured hreleased.state_ne
  have hread : LimitStep initial (w, lost) (w.logged (.rdmsr msrPackagePowerLimit current), lost) :=
    .event trivial
  rcases restoreLimitsLocked_cases P hlimits with ⟨hrestored, -, readback, -, -, rfl⟩ |
    ⟨hfailed, -, rfl⟩
  · have hwrite : LimitStep initial (w.logged (.rdmsr msrPackagePowerLimit current), lost)
        ((w.logged (.rdmsr msrPackagePowerLimit current)).logged
          (.wrmsr msrPackagePowerLimit value), lost) :=
      .write hcaptured hfields.le (.inr hother) hfree
    have hreadback : LimitStep initial
        ((w.logged (.rdmsr msrPackagePowerLimit current)).logged
          (.wrmsr msrPackagePowerLimit value), lost)
        (((w.logged (.rdmsr msrPackagePowerLimit current)).logged
          (.wrmsr msrPackagePowerLimit value)).logged
          (.rdmsr msrPackagePowerLimit readback), lost) := .event trivial
    have hsteps := (((ReflTransGen.single hread).tail hwrite).tail hreadback).tail (hrelease rfl)
    -- the captured limits stand in the register: nothing is lost
    have hlive : packageLimit initial (((w.logged (.rdmsr msrPackagePowerLimit current)).logged
        (.wrmsr msrPackagePowerLimit value)).logged (.rdmsr msrPackagePowerLimit readback)).log =
        value := by
      rw [packageLimit_logged initial (by trivial)]
      exact packageLimit_write initial value _ _
    rw [hlive, hfields] at hsteps
    simpa [hrestored] using hsteps
  · have hfalse : hwpRestored = false := by
      rcases hfailed with hfailed | hlocked
      · exact hfailed
      · rw [hP, hunlocked] at hlocked
        exact absurd hlocked (by simp)
    have hsteps := (ReflTransGen.single hread).tail (hrelease rfl)
    rw [packageLimit_logged initial (by trivial)] at hsteps
    simpa [hfalse] using hsteps

theorem restoreLocked_limitSteps {reason : RestoreReason} {w w' : World} {restored : Bool}
    (hw : CaptureUnlocked initial w) (h : exec (restoreLocked P reason) w = (restored, w'))
    (lost : Prop) :
    LimitSteps initial (w, lost) (w', lost ∨ LosesLimits P initial w) := by
  have hfired : LimitSteps initial (w, lost) (w.fired, lost) := .single (fired_limitStep w lost)
  rw [exec_restoreLocked] at h
  split at h
  · -- nothing was captured, so nothing is written back
    rename_i hcaptured
    obtain ⟨w₁, hframe, hreleased⟩ :=
      @restorePassiveLocked_cases P reason w.fired w' restored hcaptured h
    have hframe₁ : Frame SameCore LeavesLimit w.fired w₁ :=
      hframe.mono (fun _ _ hd => hd.toHWPMembers.sameCore) fun _ he => Event.IsGuarding.leavesLimit he
    have hcaptured₁ : w₁.driver.captured = false := hframe₁.driver.captured.trans hcaptured
    have hlast : LimitStep initial (w₁, lost) (w', lost) := by
      have hw' : w' = ⟨w'.driver, w₁.log⟩ := by
        rw [← hreleased.log]
      rw [hw']
      refine .assign ⟨hreleased.captured.trans hcaptured₁.symm, hreleased.capturedPackageLimit, ?_⟩
      exact fun harmed => absurd harmed hreleased.state_ne
    have hsteps := (hfired.trans (hframe₁.limitSteps lost)).tail hlast
    simpa [LosesLimits, hcaptured] using hsteps
  · rename_i hcaptured
    rw [Bool.not_eq_false] at hcaptured
    -- the guard and HWP leave the limit alone; then the limit itself
    obtain ⟨guardRestored, w₁, hwpRestored, w₂, limitsRestored, w₃, hset, hhwp, hlimits, -,
      hreleased⟩ := restoreCapturedLocked_cases P h
    have hframe₁ : Frame SameCore LeavesLimit w.fired w₁ :=
      ((keeps_setPowerControlGuardLocked P true fun _ _ => trivial).rel hset).mono
        (fun _ _ hd => hd.toHWPMembers.sameCore) fun _ he => he
    have hframe₂ : Frame SameCore LeavesLimit w₁ w₂ :=
      ((keeps_restoreHWPLocked_onHWP P).rel hhwp).mono
        (fun _ _ hd => hd.sameCore) fun _ he => Event.IsHWP.leavesLimit he
    have hframe := trans_of (Frame SameCore LeavesLimit) hframe₁ hframe₂
    have hlive : packageLimit initial w₂.log = packageLimit initial w.fired.log :=
      packageLimit_frame initial hframe
    have hcaptured₂ : w₂.driver.captured = true := hframe.driver.captured.trans hcaptured
    have hunlocked : raplLocked (packageLimit initial w₂.log) = false := by
      rw [hlive]
      exact hw hcaptured
    have hsteps := (hfired.trans (hframe.limitSteps lost)).trans
      (release_limitSteps hP hcaptured₂ hunlocked hlimits hreleased lost)
    have hlimit : w₂.driver.capturedPackageLimit = w.driver.capturedPackageLimit :=
      hframe.driver.capturedPackageLimit
    have hfails : HWPFails P w ↔ hwpRestored = false := by
      unfold HWPFails
      rw [hset, hhwp]
    rw [hlive, hlimit, ← hfails] at hsteps
    change LimitSteps initial (w, lost) (w', lost ∨ HWPFails P w ∧
      limitFields (packageLimit initial w.log) ≠ limitFields w.driver.capturedPackageLimit) at hsteps
    simpa only [LosesLimits, hcaptured, true_and] using hsteps

/-! ### Every call -/

/-- The exit of a call, in small steps. -/
theorem exit_limitSteps (op : Op) {w w' : World} {exit : Exit}
    (h : exec (op.exit P) w = (exit, w')) (lost : Prop) :
    LimitSteps initial (w, lost) (w', lost) := by
  have hread : ∀ e : Entry, Reads e → LeavesLimit e := fun _ he => (Event.IsRead.isHWP he).leavesLimit
  cases op with
  | arm request => exact armExit_limitSteps hP h lost
  | update request =>
      rcases updateExit_cases P h with ⟨-, -, rfl⟩ | ⟨hopen, hcases⟩
      · exact .refl
      rcases hcases with ⟨-, hframe⟩ | ⟨r, w₁, installed, w₂, hframe, hinstall, hinstalled⟩
      · exact (hframe.mono (fun _ _ hd => hd.toHWPMembers.sameCore) hread).limitSteps lost
      have hframe₁ : Frame SameCore LeavesLimit w w₁ :=
        hframe.mono (fun _ _ hd => hd.toHWPMembers.sameCore) hread
      have hcaptured₁ : w₁.driver.captured = true := hframe₁.driver.captured.trans hopen.1
      have hframe₂ := (keeps_installLimitsLocked_limit hP r.pl1MW r.pl2MW).rel hinstall
      have hsteps := (hframe₁.limitSteps lost).trans (hframe₂.steps hcaptured₁ lost)
      rcases hinstalled with ⟨-, -, rfl⟩ | ⟨-, -, rfl⟩
      · exact hsteps
      -- the rest of an update writes no limit
      set d := { w₂.driver with lastSequence := r.sequence } with hd
      have hassign : LimitStep initial (w₂, lost) (⟨d, w₂.log⟩, lost) :=
        .assign ⟨rfl, rfl, fun harmed => .inl harmed⟩
      have hclock : LimitStep initial (⟨d, w₂.log⟩, lost)
          (World.logged ⟨d, w₂.log⟩ (.machAbsoluteTime (P.machAbsoluteTime w₂.log)), lost) :=
        .event trivial
      have hlast : LimitStep initial
          (World.logged ⟨d, w₂.log⟩ (.machAbsoluteTime (P.machAbsoluteTime w₂.log)), lost)
          (updated P r w₂, lost) := .assign ⟨rfl, rfl, fun harmed => .inl harmed⟩
      exact ((hsteps.tail hassign).tail hclock).tail hlast
  | disarm request =>
      exact ((disarmExit_cases h).1.weaken hread).limitSteps lost
  | invalidClientCommand =>
      obtain ⟨-, rfl⟩ := Prod.mk.inj h
      exact .refl
  | clientDisconnected =>
      obtain ⟨-, rfl⟩ := Prod.mk.inj h
      exact .refl
  | watchdogFired =>
      have hfired : LimitSteps initial (w, lost) (w.fired, lost) := .single (fired_limitStep w lost)
      rcases watchdogFiredExit_cases P h with ⟨-, hcases⟩ | ⟨-, -, hcases⟩
      · -- armed
        rcases hcases with ⟨-, hframe⟩ | ⟨-, w₁, hframe, rfl⟩
        · exact hfired.trans
            ((hframe.mono (fun _ _ hd => hd.toHWPMembers.sameCore) hread).limitSteps lost)
        · have hframe₁ : Frame SameCore LeavesLimit w.fired w₁ :=
            hframe.mono (fun _ _ hd => hd.toHWPMembers.sameCore) hread
          exact (hfired.trans (hframe₁.limitSteps lost)).tail
            (.assign ⟨rfl, rfl, fun harmed => .inl harmed⟩)
      · -- Passive
        rcases hcases with ⟨-, hpassive⟩ | ⟨-, rfl⟩
        · obtain ⟨-, w₁, state, reason, hframe, hstate, rfl⟩ := watchdogPassive_cases P hpassive
          have hframe₁ : Frame SameCore LeavesLimit w.fired w₁ :=
            hframe.mono (fun _ _ hd => hd.toHWPMembers.sameCore)
              fun _ he => Event.IsGuarding.leavesLimit he
          refine (hfired.trans (hframe₁.limitSteps lost)).tail (.assign ⟨rfl, rfl, ?_⟩)
          rintro harmed
          rcases hstate with rfl | rfl
          · exact .inl harmed
          · exact absurd harmed (by simp)
        · exact hfired

/-- The exit of the call is a restore, and it loses the original limits. -/
def Op.Loses (P : Platform) (initial : U64) (op : Op) (w : World) : Prop :=
  (∃ reason onRestored onFailed, (exec (op.exit P) w).1 = .restore reason onRestored onFailed) ∧
    LosesLimits P initial (exec (op.exit P) w).2

theorem after_limitSteps (op : Op) {w : World} (hw : CaptureUnlocked initial w) (lost : Prop) :
    LimitSteps initial (w, lost) (op.after P w, lost ∨ op.Loses P initial w) := by
  have hfinish : ∀ w' lost', LimitSteps initial (w', lost') ((exec op.finish w').2, lost') := by
    intro w' lost'
    rw [exec_finish]
    exact .single (.assign ⟨rfl, rfl, fun harmed => .inl harmed⟩)
  rw [after_eq]
  unfold Op.Loses
  generalize hexit : exec (op.exit P) w = r
  obtain ⟨exit, w'⟩ := r
  have hsteps := exit_limitSteps hP op hexit lost
  cases exit with
  | done code =>
      have hkept : (lost ∨ (∃ reason onRestored onFailed,
          Exit.done code = .restore reason onRestored onFailed) ∧ LosesLimits P initial w') = lost := by
        simp
      rw [hkept]
      exact hsteps.trans (hfinish w' lost)
  | restore reason onRestored onFailed =>
      dsimp only
      rw [exec_leave_restore]
      generalize hrestore : exec (restoreLocked P reason) w' = r
      obtain ⟨restored, w''⟩ := r
      have hunlocked : CaptureUnlocked initial w' := hsteps.captureUnlocked hw
      have hall := (hsteps.trans (restoreLocked_limitSteps hP hunlocked hrestore lost)).trans
        (hfinish w'' _)
      simpa using hall

/-- Some call of the run loses the original limits. -/
def RunLoses (P : Platform) (initial : U64) : List Op → World → Prop
  | [], _ => False
  | op :: ops, w => op.Loses P initial w ∨ RunLoses P initial ops (op.after P w)

/-- A run, in small steps. -/
theorem run_limitSteps (ops : List Op) {w : World} (hw : CaptureUnlocked initial w) (lost : Prop) :
    LimitSteps initial (w, lost) (run P ops w, lost ∨ RunLoses P initial ops w) := by
  induction ops generalizing w lost with
  | nil => simpa [RunLoses] using ReflTransGen.refl
  | cons op ops ih =>
      have hop := after_limitSteps hP op hw lost
      have hrest := ih (hop.captureUnlocked hw) (lost ∨ op.Loses P initial w)
      rw [or_assoc] at hrest
      exact hop.trans hrest

end

end TurboMac.Kext
