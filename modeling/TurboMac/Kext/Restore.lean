import TurboMac.Kext.Calls

/-! # What `restoreLocked` and the watchdog do

A capture is restored in three stages, each of which can fail without stopping
the next, and released in any case.
-/

namespace TurboMac.Kext

open Program

section

variable (P : Platform)

/-! ## With nothing captured -/

theorem keeps_ensurePassiveGuardLocked :
    Keeps (Frame HWPDetection Guarding) (ensurePassiveGuardLocked P) := by
  refine (keeps_readPowerControlLocked P fun _ he => Reads.guarding he).bind fun guard => ?_
  refine Keeps.ite (keeps_pure _) (Keeps.ite (keeps_pure _) ?_)
  apply keeps_setPowerControlGuardLocked P true
  intro _ _
  show PowerControlOperation.setGuard ≠ .clearGuard
  decide

theorem keeps_ensureHWPFailSafeLocked_guarding :
    Keeps (Frame HWPDetection Guarding) (ensureHWPFailSafeLocked P) :=
  keeps_ensureHWPFailSafeLocked P fun _ he => OnHWP.guarding he.onHWP

/-- The end of a restore: the state tells whether it was complete and asked for,
and the passive-guard poll is set. -/
structure Released (reason : RestoreReason) (restored : Bool) (w w' : World) : Prop where
  log : w'.log = w.log
  supported : w'.driver.supported = w.driver.supported
  captured : w'.driver.captured = false
  capturedPackageLimit : w'.driver.capturedPackageLimit = w.driver.capturedPackageLimit
  hwpCaptured : w.driver.hwp.captured = false ∨ w.driver.captured = true →
    w'.driver.hwp.captured = false
  state : w'.driver.state = if restored && reason == .requested then .passive else .failsafe
  watchdog : w.driver.supported = true →
    w'.driver.watchdog = w.driver.watchdog.map fun _ => ⟨some passiveGuardPollMS⟩

theorem Released.state_ne {reason : RestoreReason} {restored : Bool} {w w' : World}
    (h : Released reason restored w w') : w'.driver.state ≠ .armed := by
  rw [h.state]
  split <;> decide

/-- `schedulePassiveGuardLocked` after a restore. -/
theorem schedulePassiveGuardLocked_released (w : World) (hstate : w.driver.state ≠ .armed) :
    let w' := (exec schedulePassiveGuardLocked w).2
    w'.log = w.log ∧ w'.driver = { w.driver with watchdog := w'.driver.watchdog } ∧
      (w.driver.supported = true →
        w'.driver.watchdog = w.driver.watchdog.map fun _ => ⟨some passiveGuardPollMS⟩) := by
  unfold schedulePassiveGuardLocked
  rw [exec_bind, exec_getDriver, exec_doIf]
  split
  · exact ⟨rfl, rfl, fun _ => rfl⟩
  · rename_i hpoll
    refine ⟨rfl, rfl, fun hsupported => absurd ?_ hpoll⟩
    simp [hsupported, hstate]

theorem restorePassiveLocked_cases {reason : RestoreReason} {w w' : World} {restored : Bool}
    (hcaptured : w.driver.captured = false)
    (h : exec (restorePassiveLocked P reason) w = (restored, w')) :
    ∃ w₁, Frame HWPDetection Guarding w w₁ ∧ Released reason restored w₁ w' := by
  unfold restorePassiveLocked at h
  rw [exec_bind, exec_getDriver, exec_bind] at h
  have hguard : Frame HWPDetection Guarding w
      (exec (pure w.driver.supported <&&> ensurePassiveGuardLocked P) w).2 :=
    (keeps_pure _).andM (keeps_ensurePassiveGuardLocked P) w
  generalize exec (pure w.driver.supported <&&> ensurePassiveGuardLocked P) w = r at h hguard
  obtain ⟨guardRestored, w₁⟩ := r
  dsimp only at h hguard
  rw [exec_bind] at h
  -- HWP has its fail-safe request if TurboMac has enabled it
  have hhwp : Frame HWPDetection Guarding w₁
      (exec (pure (!w.driver.hwp.enabledByTurboMac) <||> ensureHWPFailSafeLocked P) w₁).2 :=
    (keeps_pure _).orM (keeps_ensureHWPFailSafeLocked_guarding P) w₁
  generalize exec (pure (!w.driver.hwp.enabledByTurboMac) <||> ensureHWPFailSafeLocked P) w₁ = r
    at h hhwp
  obtain ⟨hwpRestored, w₂⟩ := r
  dsimp only at h hhwp
  have hframe : Frame HWPDetection Guarding w w₂ := trans_of _ hguard hhwp
  refine ⟨w₂, hframe, ?_⟩
  rw [exec_bind, exec_assign, exec_bind] at h
  obtain ⟨hrestored, hw'⟩ := Prod.mk.inj h
  dsimp only [exec_pure] at hrestored hw'
  have hreleased := schedulePassiveGuardLocked_released { w₂ with driver := { w₂.driver with
    state := if guardRestored && hwpRestored && reason == .requested then .passive else .failsafe
    restoreReason := reason } } (by dsimp only; split <;> decide)
  rw [hw'] at hreleased
  obtain ⟨hlog, hdriver, hwatchdog⟩ := hreleased
  have hcaptured₂ : w₂.driver.captured = false := hframe.driver.toHWPMembers.sameCore.captured.trans hcaptured
  subst hrestored
  refine ⟨hlog, ?_, ?_, ?_, ?_, ?_, hwatchdog⟩
  · rw [hdriver]
  · rw [hdriver]
    exact hcaptured₂
  · rw [hdriver]
  · rintro (hhwpCaptured | habsurd)
    · rw [hdriver]
      exact hhwpCaptured
    · exact absurd habsurd (by simp [hcaptured₂])
  · rw [hdriver]

/-! ## With a capture -/

/-- The last stage writes the captured limit if HWP is restored and the register
is not locked, and does nothing but read it otherwise. -/
theorem restoreLimitsLocked_cases {hwpRestored : Bool} {w w' : World} {ok : Bool}
    (h : exec (restoreLimitsLocked P hwpRestored) w = (ok, w')) :
    let current := P.rdmsr w.log msrPackagePowerLimit
    let captured := w.driver.capturedPackageLimit &&& ~~~raplLock
    (hwpRestored = true ∧ raplLocked current = false ∧ ∃ readback,
      readback = P.rdmsr ((w.logged (.rdmsr msrPackagePowerLimit current)).logged
        (.wrmsr msrPackagePowerLimit captured)).log msrPackagePowerLimit ∧
      ok = limitsMatch readback captured ∧
      w' = (((w.logged (.rdmsr msrPackagePowerLimit current)).logged
        (.wrmsr msrPackagePowerLimit captured)).logged (.rdmsr msrPackagePowerLimit readback))) ∨
    (hwpRestored = false ∨ raplLocked current = true) ∧ ok = false ∧
      w' = w.logged (.rdmsr msrPackagePowerLimit current) := by
  intro current captured
  have hstart : exec (rdmsr64 P msrPackagePowerLimit) w =
      (current, w.logged (.rdmsr msrPackagePowerLimit current)) := rfl
  unfold restoreLimitsLocked at h
  rw [exec_bind, hstart] at h
  dsimp only at h
  rcases exec_ite_cases h with ⟨hwrite, h⟩ | ⟨hwrite, h⟩
  · simp only [Bool.and_eq_true, Bool.not_eq_true'] at hwrite
    obtain ⟨rfl, rfl⟩ := Prod.mk.inj h
    exact .inl ⟨hwrite.1, hwrite.2, _, rfl, rfl, rfl⟩
  · simp only [Bool.and_eq_true, Bool.not_eq_true', not_and, Bool.not_eq_false] at hwrite
    obtain ⟨rfl, rfl⟩ := Prod.mk.inj h
    refine .inr ⟨?_, rfl, rfl⟩
    cases hwpRestored with
    | false => exact .inl rfl
    | true => exact .inr (hwrite rfl)

theorem keeps_restoreLimitsLocked {D : Driver → Driver → Prop} [IsPreorder Driver D]
    {K : Entry → Prop} (hK : ∀ e : Entry, e.event.IsRead → K e)
    (hlimit : ∀ value d, K ⟨.wrmsr msrPackagePowerLimit value, d⟩) (hwpRestored : Bool) :
    Keeps (Frame D K) (restoreLimitsLocked P hwpRestored) := by
  refine (keeps_rdmsr64 P hK _).bind fun current => Keeps.ite ?_ (keeps_pure _)
  refine keeps_getDriver.bind fun d => Keeps.bind ?_ fun _ => keeps_verifyLimitsLocked P hK _
  intro w
  exact ⟨refl_of D w.driver, .single ⟨refl_of D w.driver, hlimit _ _⟩⟩

/-- The stages of `restoreLocked` of a capture. -/
theorem restoreCapturedLocked_cases {reason : RestoreReason} {w w' : World} {restored : Bool}
    (h : exec (restoreCapturedLocked P reason) w = (restored, w')) :
    ∃ guardRestored w₁ hwpRestored w₂ limitsRestored w₃,
      exec (setPowerControlGuardLocked P true) w = (guardRestored, w₁) ∧
      exec (restoreHWPLocked P) w₁ = (hwpRestored, w₂) ∧
      exec (restoreLimitsLocked P hwpRestored) w₂ = (limitsRestored, w₃) ∧
      restored = (guardRestored && hwpRestored && limitsRestored) ∧
      Released reason restored w₃ w' := by
  unfold restoreCapturedLocked at h
  rw [exec_bind] at h
  -- three stages, each of which runs whatever the one before returned
  generalize hguard : exec (setPowerControlGuardLocked P true) w = r at h
  obtain ⟨guardRestored, w₁⟩ := r
  dsimp only at h
  rw [exec_bind] at h
  generalize hhwp : exec (restoreHWPLocked P) w₁ = r at h
  obtain ⟨hwpRestored, w₂⟩ := r
  dsimp only at h
  rw [exec_bind] at h
  generalize hlimits : exec (restoreLimitsLocked P hwpRestored) w₂ = r at h
  obtain ⟨limitsRestored, w₃⟩ := r
  dsimp only at h
  refine ⟨guardRestored, w₁, hwpRestored, w₂, limitsRestored, w₃, rfl, hhwp, hlimits, ?_⟩
  rw [exec_bind, exec_assign, exec_bind] at h
  obtain ⟨hrestored, hw'⟩ := Prod.mk.inj h
  dsimp only [exec_pure] at hrestored hw'
  refine ⟨hrestored.symm, ?_⟩
  -- then the driver lets go of the capture
  have hreleased := schedulePassiveGuardLocked_released { w₃ with driver := { w₃.driver with
    captured := false
    appliedPL1MW := 0
    appliedPL2MW := 0
    expectedPackageLimit := 0
    lastHeartbeat := 0
    state := if guardRestored && hwpRestored && limitsRestored && reason == .requested then .passive
      else .failsafe
    restoreReason := reason
    hwp := { w₃.driver.hwp with captured := false, capturedPresent := fun _ => false } } }
    (by dsimp only; split <;> decide)
  rw [hw'] at hreleased
  obtain ⟨hlog, hdriver, hwatchdog⟩ := hreleased
  subst hrestored
  refine ⟨hlog, ?_, ?_, ?_, ?_, ?_, hwatchdog⟩
  · rw [hdriver]
  · rw [hdriver]
  · rw [hdriver]
  · intro _
    rw [hdriver]
  · rw [hdriver]

/-! ## The watchdog -/

/-- The timer has fired. -/
def World.fired (w : World) : World :=
  { w with driver := { w.driver with watchdog := w.driver.watchdog.map fun _ => ⟨none⟩ } }

theorem watchdogPassive_cases {w w' : World} {exit : Exit}
    (h : exec (watchdogPassive P) w = (exit, w')) :
    exit = .done .success ∧ ∃ w₁ state reason, Frame HWPDetection Guarding w w₁ ∧
      (state = w₁.driver.state ∨ state = .failsafe) ∧
      w' = { w₁ with driver := { w₁.driver with
        state := state
        restoreReason := reason
        watchdog := w₁.driver.watchdog.map fun _ => ⟨some passiveGuardPollMS⟩ } } := by
  have hK : ∀ e : Entry, e.event.IsRead → Guarding e := fun _ he => Reads.guarding he
  unfold watchdogPassive at h
  rw [exec_bind, exec_getHWP, exec_bind] at h
  have hdetect : Frame HWPDetection Guarding w (exec (doIf (!w.driver.hwp.enabled)
      (discard (initializeHWPLocked P))) w).2 := by
    refine Keeps.ite ?_ (keeps_pure _) w
    exact (keeps_initializeHWPLocked P hK).bind fun _ => keeps_pure _
  generalize exec (doIf (!w.driver.hwp.enabled) (discard (initializeHWPLocked P))) w = r
    at h hdetect
  obtain ⟨_, w₁⟩ := r
  dsimp only at h hdetect
  rw [exec_bind] at h
  -- guard and fail-safe request are checked, and set again if need be
  have hguard := trans_of _ hdetect (keeps_ensurePassiveGuardLocked P w₁)
  generalize exec (ensurePassiveGuardLocked P) w₁ = r at h hguard
  obtain ⟨guardSafe, w₂⟩ := r
  dsimp only at h hguard
  rw [exec_bind, exec_getHWP, exec_bind] at h
  have hhwp : Keeps (Frame HWPDetection Guarding) (pure (!w₂.driver.hwp.enabledByTurboMac) <||>
      verifyHWPFailSafeLocked P <||> ensureHWPFailSafeLocked P) :=
    (keeps_pure _).orM
      ((keeps_verifyHWPFailSafeLocked P hK).orM (keeps_ensureHWPFailSafeLocked_guarding P))
  have hsafe := trans_of _ hguard (hhwp w₂)
  generalize exec (pure (!w₂.driver.hwp.enabledByTurboMac) <||>
    verifyHWPFailSafeLocked P <||> ensureHWPFailSafeLocked P) w₂ = r at h hsafe
  obtain ⟨hwpSafe, w₃⟩ := r
  dsimp only at h hsafe
  rw [exec_bind, exec_doIf] at h
  split at h
  · obtain ⟨rfl, rfl⟩ := Prod.mk.inj h
    exact ⟨rfl, w₃, .failsafe, .readbackMismatch, hsafe, .inr rfl, rfl⟩
  · obtain ⟨rfl, rfl⟩ := Prod.mk.inj h
    exact ⟨rfl, w₃, w₃.driver.state, w₃.driver.restoreReason, hsafe, .inl rfl, rfl⟩

theorem watchdogFiredExit_cases {w w' : World} {exit : Exit}
    (h : exec (watchdogFiredExit P) w = (exit, w')) :
    (w.driver.captured = true ∧ w.driver.state = .armed) ∧
      (exit.IsFailure ∧ Frame HWPDetection Reads w.fired w' ∨
        exit = .done .success ∧ ∃ w₁, Frame HWPDetection Reads w.fired w₁ ∧
          w' = { w₁ with driver := { w₁.driver with
            watchdog := w₁.driver.watchdog.map fun _ => ⟨some watchdogPollMS⟩ } }) ∨
    ¬ (w.driver.captured = true ∧ w.driver.state = .armed) ∧ exit = .done .success ∧
      (w.driver.supported = true ∧ exec (watchdogPassive P) w.fired = (exit, w') ∨
        w.driver.supported = false ∧ w' = w.fired) := by
  have hK : ∀ e : Entry, e.event.IsRead → Reads e := fun _ he => he
  have hfailure : ∀ reason code, reason ≠ .requested → Exit.IsFailure (.restore reason code code) :=
    fun reason code hreason => ⟨reason, code, rfl, hreason⟩
  unfold watchdogFiredExit at h
  rw [exec_bind] at h
  change exec _ w.fired = _ at h
  rw [exec_bind, exec_getDriver] at h
  rcases exec_ite_cases h with ⟨harmed, h⟩ | ⟨harmed, h⟩
  · refine .inl ⟨by simpa [World.fired] using harmed, ?_⟩
    rw [exec_bind] at h
    -- armed: the heartbeat may be too old, or the check fails
    have hclock : Frame HWPDetection Reads w.fired (exec (readAbsoluteTime P) w.fired).2 :=
      keeps_readAbsoluteTime P hK w.fired
    generalize exec (readAbsoluteTime P) w.fired = r at h hclock
    obtain ⟨now, w₁⟩ := r
    dsimp only at h hclock
    rw [exec_bind, exec_getDriver] at h
    rcases exec_ite_cases h with ⟨-, h⟩ | ⟨-, h⟩
    · obtain ⟨rfl, rfl⟩ := Prod.mk.inj h
      exact .inl ⟨hfailure _ _ (by decide), hclock⟩
    have hverify := trans_of _ hclock (keeps_verifyArmedStateLocked P hK w₁)
    rw [exec_bind] at h
    generalize exec (verifyArmedStateLocked P) w₁ = r at h hverify
    obtain ⟨verified, w₂⟩ := r
    dsimp only at h hverify
    rcases exec_ite_cases h with ⟨-, h⟩ | ⟨-, h⟩
    · obtain ⟨rfl, rfl⟩ := Prod.mk.inj h
      exact .inl ⟨hfailure _ _ (by decide), hverify⟩
    · obtain ⟨rfl, rfl⟩ := Prod.mk.inj h
      exact .inr ⟨rfl, w₂, hverify, rfl⟩
  · -- not armed
    refine .inr ⟨by simpa [World.fired] using harmed, ?_⟩
    rcases exec_ite_cases h with ⟨hsupported, h⟩ | ⟨hsupported, h⟩
    · exact ⟨(watchdogPassive_cases P h).1, .inl ⟨hsupported, h⟩⟩
    · obtain ⟨rfl, rfl⟩ := Prod.mk.inj h
      rw [Bool.not_eq_true] at hsupported
      exact ⟨rfl, .inr ⟨hsupported, rfl⟩⟩

end

end TurboMac.Kext
