import TurboMac.Kext.Run
import TurboMac.Kext.Observe

/-! # Apple's guard

Outside Armed the last write of the guard was a set, and while Armed it was a
clear that every CPU read back; a timer is pending in either case.
-/

namespace TurboMac.Kext

open Program

/-- The law of the guard between calls. -/
structure Guarded (w : World) : Prop where
  supported : w.driver.supported = true
  captured_iff : w.driver.captured = true ↔ w.driver.state = .armed
  cleared : w.driver.state = .armed → ∃ cpus,
    lastGuard w.log = some (.clearGuard, cpus) ∧ GuardReads .clearGuard cpus false
  notCleared : w.driver.state ≠ .armed → NotCleared w.log
  watchdog : w.driver.watchdog =
    some ⟨some (if w.driver.state = .armed then watchdogPollMS else passiveGuardPollMS)⟩

/-- What a restore needs to establish the law: without a capture it already holds
of the guard. -/
structure Restorable (w : World) : Prop where
  supported : w.driver.supported = true
  watchdog : ∃ timer, w.driver.watchdog = some timer
  idle : w.driver.captured = false → NotCleared w.log

theorem Guarded.frame {w w' : World} (hw : Guarded w) (h : Frame SameCore LeavesGuard w w') :
    Guarded w' := by
  have hguard := lastGuard_frame h
  refine ⟨h.driver.supported.trans hw.supported, ?_, ?_, ?_, ?_⟩
  · rw [h.driver.captured, h.driver.state]
    exact hw.captured_iff
  · rw [h.driver.state, hguard]
    exact hw.cleared
  · rw [h.driver.state, NotCleared, hguard]
    exact hw.notCleared
  · rw [h.driver.state, h.driver.watchdog]
    exact hw.watchdog

theorem Guarded.restorable {w w' : World} (hw : Guarded w)
    (h : Frame SameCore LeavesGuard w w') : Restorable w' := by
  have hw' := hw.frame h
  refine ⟨hw'.supported, ⟨_, hw'.watchdog⟩, fun hcaptured => hw'.notCleared fun harmed => ?_⟩
  exact absurd (hw'.captured_iff.2 harmed) (by simp [hcaptured])

/-- A capture may be restored whatever has happened to the guard. -/
theorem Restorable.capture {w w' : World} {K : Entry → Prop} (hw : Restorable w)
    (hcaptured : w.driver.captured = true) (h : Frame SameCore K w w') : Restorable w' := by
  obtain ⟨timer, htimer⟩ := hw.watchdog
  refine ⟨h.driver.supported.trans hw.supported, ⟨timer, h.driver.watchdog.trans htimer⟩, ?_⟩
  intro hnone
  rw [h.driver.captured] at hnone
  exact absurd hcaptured (by simp [hnone])

section

variable (P : Platform)

/-! ## Restores -/

/-- After a release the law holds if the guard is set. -/
theorem Released.guarded {reason : RestoreReason} {restored : Bool} {w w' : World}
    (h : Released reason restored w w') (hw : Restorable w) (hguard : NotCleared w.log) :
    Guarded w' := by
  have hstate := h.state_ne
  obtain ⟨timer, htimer⟩ := hw.watchdog
  refine ⟨h.supported.trans hw.supported, ?_, fun harmed => absurd harmed hstate, fun _ => ?_, ?_⟩
  · simp [h.captured, hstate]
  · rw [h.log]
    exact hguard
  · rw [h.watchdog hw.supported, htimer, if_neg hstate]
    rfl

theorem restoreLocked_guarded {reason : RestoreReason} {w w' : World} {restored : Bool}
    (hw : Restorable w) (h : exec (restoreLocked P reason) w = (restored, w')) : Guarded w' := by
  have hfired : Restorable w.fired := by
    obtain ⟨timer, htimer⟩ := hw.watchdog
    exact ⟨hw.supported, ⟨⟨none⟩, by simp [World.fired, htimer]⟩, hw.idle⟩
  obtain ⟨timer, htimer⟩ := hfired.watchdog
  rw [exec_restoreLocked] at h
  split at h
  · rename_i hcaptured
    obtain ⟨w₁, hframe, hreleased⟩ := 
      @restorePassiveLocked_cases P reason w.fired w' restored hcaptured h
    have hguard : NotCleared w₁.log := (hfired.idle hcaptured).frame hframe
    have hcore := hframe.driver.toHWPMembers.sameCore
    have hrestorable : Restorable w₁ :=
      ⟨hcore.supported.trans hfired.supported, ⟨timer, hcore.watchdog.trans htimer⟩, fun _ => hguard⟩
    exact hreleased.guarded hrestorable hguard
  · obtain ⟨guardRestored, w₁, hwpRestored, w₂, limitsRestored, w₃, hset, hhwp, hlimits, -,
      hreleased⟩ := restoreCapturedLocked_cases P h
    obtain ⟨operation, cpus, hoperation, hlog, hdriver, -⟩ := setPowerControlGuardLocked_spec P hset
    have hguard₁ : NotCleared w₁.log := by
      rw [hlog, hoperation]
      rintro g hg
      simp only [lastGuard, List.findSome?_cons, if_true, Option.mem_def, Option.some.injEq] at hg
      rw [← hg]
    -- the set is the last write of the guard: what follows is HWP and the limit
    have hframe₁ := (keeps_restoreHWPLocked_onHWP P).rel hhwp
    have hframe₂ : Frame Eq LeavesGuard w₂ w₃ :=
      (keeps_restoreLimitsLocked P (fun _ he => reads_leavesGuard he) (fun _ _ => trivial) _).rel
        hlimits
    have hcore : SameCore w.fired.driver w₃.driver := by
      refine trans_of SameCore hdriver.toHWPMembers.sameCore ?_
      rw [← hframe₂.driver]
      exact hframe₁.driver.sameCore
    have hguard₃ : NotCleared w₃.log := by
      rw [NotCleared, lastGuard_frame hframe₂,
        lastGuard_frame (hframe₁.weaken fun _ he => Event.IsHWP.leavesGuard he)]
      exact hguard₁
    have hrestorable : Restorable w₃ :=
      ⟨hcore.supported.trans hfired.supported, ⟨timer, hcore.watchdog.trans htimer⟩, fun _ => hguard₃⟩
    exact hreleased.guarded hrestorable hguard₃

/-! ## `arm` -/

/-- Past the capture `arm` either fails, with a capture to restore, or clears the
guard on every CPU. -/
theorem armCaptured_guarded {request : LimitRequest} {capture : ArmCapture} {w w' : World}
    {exit : Exit} (hw : Guarded w)
    (h : exec (armCaptured P request capture) w = (exit, w')) :
    exit = armFailed ∧ Restorable w' ∨ exit = .done .success ∧ Guarded w' := by
  have hstore : Restorable (capture.store w) :=
    ⟨hw.supported, ⟨_, hw.watchdog⟩, fun hnone => absurd hnone (by simp [ArmCapture.store])⟩
  obtain ⟨installed, w₁, hinstall, h₁⟩ := armCaptured_cases P h
  have hkeeps : Keeps (Frame SameCore LeavesGuard) (armInstall P request capture.hwpWasEnabled) :=
    keeps_armInstall P (fun _ he => Event.IsHWP.leavesGuard he) (fun _ _ => trivial) _ _
  have hframe₁ := hkeeps.rel hinstall
  rcases h₁ with ⟨-, rfl, rfl⟩ | ⟨-, applied, w₂, happly, h₂⟩
  · exact .inl ⟨rfl, hstore.capture rfl hframe₁⟩
  have hframe₂ := trans_of (Frame SameCore LeavesGuard) hframe₁
    (((keeps_applyHWPMaximumLocked_onHWP P request.hwpMode).rel happly).mono
      (fun _ _ hd => hd.sameCore) fun _ he => Event.IsHWP.leavesGuard he)
  rcases h₂ with ⟨-, rfl, rfl⟩ | ⟨-, cleared, w₃, hclear, h₃⟩
  · exact .inl ⟨rfl, hstore.capture rfl hframe₂⟩
  have hframe₃ := trans_of (Frame SameCore fun _ => True) (hframe₂.weaken fun _ _ => trivial)
    (((keeps_setPowerControlGuardLocked P false fun _ _ => trivial).rel hclear).mono
      (fun _ _ hd => hd.toHWPMembers.sameCore) fun _ he => he)
  rcases h₃ with ⟨-, rfl, rfl⟩ | ⟨hcleared, rfl, rfl⟩
  · exact .inl ⟨rfl, hstore.capture rfl hframe₃⟩
  -- the last step took the guard off, and every CPU has said so
  obtain ⟨operation, cpus, hoperation, hlog, -, -, hreads⟩ := setPowerControlGuardLocked_spec P hclear
  right
  refine ⟨rfl, hframe₃.driver.supported.trans hw.supported, ?_, ?_, ?_, ?_⟩
  · have hcaptured : w₃.driver.captured = true := hframe₃.driver.captured
    simp [armed, hcaptured]
  · intro _
    refine ⟨cpus, ?_, ?_⟩
    · simp [armed, lastGuard, hlog, hoperation]
    · have hreads := (hreads.1 hcleared).1
      rw [hoperation] at hreads
      exact hreads
  · intro hstate
    exact absurd rfl hstate
  · have hwatchdog := hframe₃.driver.watchdog.trans hw.watchdog
    simp [armed, hwatchdog]

/-! ## Every call -/

/-- A successful `update` sets the watchdog poll again. -/
theorem Guarded.updated {request : LimitRequest} {w : World} (hw : Guarded w)
    (harmed : w.driver.state = .armed) : Guarded (updated P request w) := by
  refine ⟨hw.supported, hw.captured_iff, ?_, fun hstate => absurd harmed hstate, ?_⟩
  · intro _
    exact hw.cleared harmed
  · have hwatchdog := hw.watchdog
    rw [if_pos harmed] at hwatchdog
    simp [Kext.updated, hwatchdog, harmed]

/-- So does a watchdog that finds the armed state as it should be. -/
theorem Guarded.polled {w w' : World} (hw : Guarded w) (h : Frame HWPDetection Reads w.fired w')
    (harmed : w.driver.state = .armed) :
    Guarded { w' with driver := { w'.driver with
      watchdog := w'.driver.watchdog.map fun _ => ⟨some watchdogPollMS⟩ } } := by
  have hcore := h.driver.toHWPMembers.sameCore
  have hguard : lastGuard w'.log = lastGuard w.fired.log :=
    lastGuard_frame (h.weaken fun _ he => reads_leavesGuard he)
  have hstate : w'.driver.state = .armed := hcore.state.trans harmed
  refine ⟨hcore.supported.trans hw.supported, ?_, ?_, fun hne => absurd hstate hne, ?_⟩
  · show w'.driver.captured = true ↔ w'.driver.state = .armed
    rw [hcore.captured, hcore.state]
    exact hw.captured_iff
  · intro _
    show ∃ cpus, lastGuard w'.log = _ ∧ _
    rw [hguard]
    exact hw.cleared harmed
  · simp [hcore.watchdog, World.fired, hw.watchdog, hstate]

/-- Outside Armed the watchdog leaves the guard set, and sets its own poll. -/
theorem Guarded.repolled {w w' : World} {state : DriverState} {reason : RestoreReason}
    (hw : Guarded w) (h : Frame HWPDetection Guarding w.fired w')
    (hidle : ¬ (w.driver.captured = true ∧ w.driver.state = .armed))
    (hstate : state = w'.driver.state ∨ state = .failsafe) :
    Guarded { w' with driver := { w'.driver with
      state := state
      restoreReason := reason
      watchdog := w'.driver.watchdog.map fun _ => ⟨some passiveGuardPollMS⟩ } } := by
  have hcore := h.driver.toHWPMembers.sameCore
  have hne : w.driver.state ≠ .armed := fun harmed => hidle ⟨hw.captured_iff.2 harmed, harmed⟩
  have hne' : state ≠ .armed := by
    rcases hstate with rfl | rfl
    · rw [hcore.state]
      exact hne
    · decide
  have hcaptured : w'.driver.captured = false := by
    rw [hcore.captured]
    exact Bool.eq_false_iff.2 fun hcaptured => hne (hw.captured_iff.1 hcaptured)
  refine ⟨hcore.supported.trans hw.supported, ?_, fun harmed => absurd harmed hne', fun _ => ?_, ?_⟩
  · simp [hcaptured, hne']
  · exact @NotCleared.frame _ w.fired w' (hw.notCleared hne) h
  · simp [hcore.watchdog, World.fired, hw.watchdog, hne']

/-- A call that returns keeps the law; one that restores can do so. -/
theorem exit_guarded (op : Op) {w w' : World} {exit : Exit} (hw : Guarded w)
    (h : exec (op.exit P) w = (exit, w')) :
    (∃ code, exit = .done code) ∧ Guarded w' ∨
      (∃ reason onRestored onFailed, exit = .restore reason onRestored onFailed) ∧ Restorable w' := by
  have hleave : ∀ {e : Entry}, Reads e → LeavesGuard e := fun he => reads_leavesGuard he
  have hself : Restorable w := hw.restorable (refl_of (Frame SameCore LeavesGuard) w)
  cases op with
  | arm request =>
      rcases armExit_cases P request w with ⟨code, w₁, hexec, hrefused⟩ |
        ⟨r, capture, w₀, w₁, -, -, -, -, hframe₀, hframe₁, -, hexec⟩
      · -- refused: nothing is touched
        have hframe := hrefused.frame.weaken fun _ he => hleave he
        change exec (armExit P request) w = _ at h
        rw [hexec] at h
        obtain ⟨rfl, rfl⟩ := Prod.mk.inj h
        exact .inl ⟨⟨code, rfl⟩, hw.frame hframe⟩
      · -- captured: it ends armed, or in a restore
        have hframe : Frame HWPMembers Reads w w₁ := trans_of _ hframe₀.const hframe₁
        have hw₁ : Guarded w₁ := hw.frame (hframe.mono (fun _ _ hd => hd.sameCore) fun _ he => hleave he)
        change exec (armExit P request) w = _ at h
        rw [hexec] at h
        rcases armCaptured_guarded P hw₁ h with ⟨rfl, hw'⟩ | ⟨rfl, hw'⟩
        · exact .inr ⟨⟨_, _, _, rfl⟩, hw'⟩
        · exact .inl ⟨⟨_, rfl⟩, hw'⟩
  | update request =>
      rcases updateExit_cases P h with ⟨-, rfl, rfl⟩ | ⟨hopen, hcases⟩
      · exact .inl ⟨⟨_, rfl⟩, hw⟩
      rcases hcases with ⟨⟨reason, code, rfl, -⟩, hframe⟩ |
        ⟨r, w₁, installed, w₂, hframe, hinstall, hinstalled⟩
      · right
        refine ⟨⟨_, _, _, rfl⟩, hw.restorable (hframe.mono ?_ fun _ he => hleave he)⟩
        exact fun _ _ hd => hd.toHWPMembers.sameCore
      -- the guard stays as it is while limits are written
      have hkeeps : Keeps (Frame SameCore LeavesGuard) (installLimitsLocked P r.pl1MW r.pl2MW) :=
        keeps_installLimitsLocked P (fun _ he => hleave he) (fun _ _ => trivial) _ _
      have hframe₂ : Frame SameCore LeavesGuard w w₂ :=
        trans_of _ (hframe.mono (fun _ _ hd => hd.toHWPMembers.sameCore) fun _ he => hleave he)
          (hkeeps.rel hinstall)
      rcases hinstalled with ⟨-, ⟨reason, code, rfl, -⟩, rfl⟩ | ⟨-, rfl, rfl⟩
      · exact .inr ⟨⟨_, _, _, rfl⟩, hw.restorable hframe₂⟩
      · exact .inl ⟨⟨_, rfl⟩, (hw.frame hframe₂).updated P (hframe₂.driver.state.trans hopen.2)⟩
  | disarm request =>
      obtain ⟨hframe, hexit⟩ := disarmExit_cases h
      right
      refine ⟨?_, hw.restorable (hframe.weaken fun _ he => hleave he)⟩
      rcases hexit with rfl | rfl
      · exact ⟨_, _, _, rfl⟩
      · exact ⟨_, _, _, rfl⟩
  | invalidClientCommand =>
      obtain ⟨rfl, rfl⟩ := Prod.mk.inj h
      exact .inr ⟨⟨_, _, _, rfl⟩, hself⟩
  | clientDisconnected =>
      obtain ⟨rfl, rfl⟩ := Prod.mk.inj h
      exact .inr ⟨⟨_, _, _, rfl⟩, hself⟩
  | watchdogFired =>
      rcases watchdogFiredExit_cases P h with ⟨harmed, hcases⟩ | ⟨harmed, rfl, hcases⟩
      · have hfired : Restorable w.fired :=
          ⟨hw.supported, ⟨⟨none⟩, by simp [World.fired, hw.watchdog]⟩,
            fun hnone => absurd harmed.1 (by simp [World.fired] at hnone; simp [hnone])⟩
        rcases hcases with ⟨⟨reason, code, rfl, -⟩, hframe⟩ | ⟨rfl, w₁, hframe, rfl⟩
        · -- a check of the armed state fails
          refine .inr ⟨⟨_, _, _, rfl⟩, hfired.capture harmed.1 (hframe.mono ?_ fun _ he => he)⟩
          exact fun _ _ hd => hd.toHWPMembers.sameCore
        · exact .inl ⟨⟨_, rfl⟩, hw.polled hframe harmed.2⟩
      · -- a Passive driver only looks
        rcases hcases with ⟨-, hpassive⟩ | ⟨hunsupported, -⟩
        · obtain ⟨-, w₁, state, reason, hframe, hstate, rfl⟩ := watchdogPassive_cases P hpassive
          exact .inl ⟨⟨_, rfl⟩, hw.repolled hframe harmed hstate⟩
        · exact absurd hw.supported (by simp [hunsupported])

theorem after_guarded (op : Op) {w : World} (hw : Guarded w) : Guarded (op.after P w) := by
  have hfinish : ∀ w', Guarded w' → Guarded (exec op.finish w').2 := by
    intro w' hw'
    rw [exec_finish]
    exact ⟨hw'.supported, hw'.captured_iff, hw'.cleared, hw'.notCleared, hw'.watchdog⟩
  rw [after_eq]
  apply hfinish
  generalize hexit : exec (op.exit P) w = r
  obtain ⟨exit, w'⟩ := r
  rcases exit_guarded P op hw hexit with ⟨⟨code, rfl⟩, hw'⟩ |
    ⟨⟨reason, onRestored, onFailed, rfl⟩, hw'⟩
  · exact hw'
  · rw [exec_leave_restore]
    generalize hrestore : exec (restoreLocked P reason) w' = r
    obtain ⟨restored, w''⟩ := r
    exact restoreLocked_guarded P hw' hrestore

theorem started_guarded (hsupported : (started P).driver.supported = true) :
    Guarded (started P) := by
  obtain ⟨hfresh, hwatchdog⟩ := started_spec P
  have hne : (started P).driver.state ≠ .armed := by
    rw [hfresh.state]
    decide
  have hempty : NotCleared [] := by
    rintro g hg
    simp [lastGuard] at hg
  refine ⟨hsupported, by simp [hfresh.captured, hne], fun harmed => absurd harmed hne,
    fun _ => ?_, ?_⟩
  · exact hfresh.log.preserve hempty fun _ _ he hlog => notCleared_cons he.2 hlog
  · rw [hwatchdog hsupported, if_neg hne]

/-- After every call of every run: the driver has a capture exactly while it is
Armed; while Armed the guard was last cleared, and read back cleared on every
CPU; otherwise it was last set, if ever written; and a poll is pending. -/
theorem guard_safety (hsupported : (started P).driver.supported = true) (ops : List Op) :
    let w := run P ops (started P)
    (w.driver.captured = true ↔ w.driver.state = .armed) ∧
      (w.driver.state = .armed → ∃ cpus,
        lastGuard w.log = some (.clearGuard, cpus) ∧ GuardReads .clearGuard cpus false) ∧
      (w.driver.state ≠ .armed → ∀ g ∈ lastGuard w.log, g.1 = .setGuard) ∧
      w.driver.watchdog =
        some ⟨some (if w.driver.state = .armed then watchdogPollMS else passiveGuardPollMS)⟩ := by
  intro w
  have hw : Guarded w :=
    run_invariant P (fun op _ => after_guarded P op) ops (started_guarded P hsupported)
  exact ⟨hw.captured_iff, hw.cleared, hw.notCleared, hw.watchdog⟩

end

/-- After an `arm` for 10 W the machine is Armed, and its guard read back cleared. -/
theorem guard_safety_armed :
    let P := machine firmwareLimit fun _ => false
    ∃ cpus, lastGuard (run P [.arm (some (tenWatts 1))] (started P)).log =
        some (.clearGuard, cpus) ∧ GuardReads .clearGuard cpus false := by
  intro P
  have hsafety := guard_safety P (by decide +kernel) [.arm (some (tenWatts 1))]
  exact hsafety.2.1 (by decide +kernel)

end TurboMac.Kext
