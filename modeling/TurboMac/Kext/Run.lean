import TurboMac.Kext.Restore

/-! # Runs of the driver

A run is a `start` and then any calls, in any order.
-/

namespace TurboMac.Kext

open Program

section

variable (P : Platform)

/-- The world after `start`. -/
def started : World := (exec (startLocked P) ⟨initialDriver, []⟩).2

/-- The world after a call. -/
def Op.after (op : Op) (w : World) : World := (exec (op.call P) w).2

/-- The world after some calls, the first of them first. -/
def run (ops : List Op) (w : World) : World := ops.foldl (fun w op => op.after P w) w

@[simp] theorem run_nil (w : World) : run P [] w = w := rfl

@[simp] theorem run_cons (op : Op) (ops : List Op) (w : World) :
    run P (op :: ops) w = run P ops (op.after P w) := rfl

theorem run_append (ops ops' : List Op) (w : World) :
    run P (ops ++ ops') w = run P ops' (run P ops w) := List.foldl_append

/-- What every call preserves holds at the end of a run. -/
theorem run_invariant {p : World → Prop} (hcall : ∀ op w, p w → p (Op.after P op w))
    (ops : List Op) {w : World} (hw : p w) : p (run P ops w) := by
  induction ops generalizing w with
  | nil => exact hw
  | cons op ops ih => exact ih (hcall op w hw)

/-- A call runs up to its exit, leaves, and finishes. -/
theorem after_eq (op : Op) (w : World) :
    op.after P w =
      (exec op.finish (exec (leave P (exec (op.exit P) w).1) (exec (op.exit P) w).2).2).2 := rfl

/-- `finish` changes nothing but the reservation of the client. -/
theorem exec_finish (op : Op) (w : World) :
    (exec op.finish w).2 =
      { w with driver := { w.driver with
        clientReserved := (exec op.finish w).2.driver.clientReserved } } := by
  cases op <;> rfl

theorem exec_leave_restore (reason : RestoreReason) (onRestored onFailed : IOReturn) (w : World) :
    (exec (leave P (.restore reason onRestored onFailed)) w).2 =
      (exec (restoreLocked P reason) w).2 := rfl

/-- `restoreLocked` cancels the timer first. -/
theorem exec_restoreLocked (reason : RestoreReason) (w : World) :
    exec (restoreLocked P reason) w =
      if w.driver.captured = false then exec (restorePassiveLocked P reason) w.fired
      else exec (restoreCapturedLocked P reason) w.fired := by
  unfold restoreLocked
  rw [exec_bind]
  change exec _ w.fired = _
  rw [exec_bind, exec_getDriver, exec_ite]
  show (if (!w.driver.captured) = true then _ else _) = _
  cases w.driver.captured <;> rfl

/-- A restore releases, and its state tells how it went. -/
theorem restoreLocked_spec {reason : RestoreReason} {w w' : World} {restored : Bool}
    (h : exec (restoreLocked P reason) w = (restored, w')) :
    w'.driver.captured = false ∧
      w'.driver.state = if restored && reason == .requested then .passive else .failsafe := by
  rw [exec_restoreLocked] at h
  split at h
  · rename_i hcaptured
    obtain ⟨w₁, -, hreleased⟩ :=
      @restorePassiveLocked_cases P reason w.fired w' restored hcaptured h
    exact ⟨hreleased.captured, hreleased.state⟩
  · obtain ⟨_, _, _, _, _, w₃, -, -, -, -, hreleased⟩ := restoreCapturedLocked_cases P h
    exact ⟨hreleased.captured, hreleased.state⟩

/-! ## `start` -/

/-- What `start` leaves as `init` made it. -/
structure Starting (d d' : Driver) : Prop where
  watchdog : d'.watchdog = d.watchdog
  captured : d'.captured = d.captured
  state : d'.state = d.state
  hwpCaptured : d'.hwp.captured = d.hwp.captured

instance : IsPreorder Driver Starting where
  refl _ := ⟨rfl, rfl, rfl, rfl⟩
  trans _ _ _ h h' :=
    ⟨h'.watchdog.trans h.watchdog, h'.captured.trans h.captured, h'.state.trans h.state,
      h'.hwpCaptured.trans h.hwpCaptured⟩

theorem keeps_starting {K : Entry → Prop} {α : Type} {m : DriverM α}
    (h : Keeps (Frame HWPDetection K) m) : Keeps (Frame Starting K) m := by
  refine h.mono fun _ _ hw => hw.mono ?_ fun _ he => he
  intro d d' hd
  have hcore := hd.toHWPMembers.sameCore
  exact ⟨hcore.watchdog, hcore.captured, hcore.state, hd.captured⟩

theorem keeps_initializeGuardLocked : Keeps (Frame Starting Guarding) (initializeGuardLocked P) := by
  have hK : ∀ e : Entry, e.event.IsRead → Guarding e := fun _ he => Reads.guarding he
  have hguard : Keeps (Frame HWPDetection Guarding) (setPowerControlGuardLocked P true) := by
    apply keeps_setPowerControlGuardLocked P true
    intro _ _
    show PowerControlOperation.setGuard ≠ .clearGuard
    decide
  refine (keeps_starting (keeps_readPowerControlLocked P hK)).bind fun guard => ?_
  refine Keeps.bind (keeps_assign fun _ => ⟨rfl, rfl, rfl, rfl⟩) fun _ => ?_
  refine Keeps.ite ((keeps_starting hguard).bind fun restored => ?_) (keeps_pure _)
  exact (keeps_assign fun _ => ⟨rfl, rfl, rfl, rfl⟩).bind fun _ => keeps_pure _

theorem keeps_initializeCapabilitiesLocked :
    Keeps (Frame Starting Guarding) (initializeCapabilitiesLocked P) := by
  have hK : ∀ e : Entry, e.event.IsRead → Guarding e := fun _ he => Reads.guarding he
  have hmaximum : ∀ maximum, Keeps (Frame Starting Guarding) (capabilityMaximum P maximum) := by
    intro maximum
    refine Keeps.ite (keeps_pure _) ((keeps_rdmsr64 P hK _).bind fun _ => ?_)
    exact keeps_getDriver.bind fun _ => keeps_pure _
  refine Keeps.bind ((keeps_cpuid P hK _).bind fun _ => keeps_pure _) fun identity => ?_
  obtain ⟨family, model, stepping⟩ := identity
  refine Keeps.bind (keeps_assign fun _ => ⟨rfl, rfl, rfl, rfl⟩) fun _ => ?_
  refine Keeps.ite (keeps_pure _) ((keeps_rdmsr64 P hK _).bind fun units => ?_)
  refine (keeps_rdmsr64 P hK _).bind fun powerInfo => ?_
  refine Keeps.bind (keeps_assign fun _ => ⟨rfl, rfl, rfl, rfl⟩) fun _ => ?_
  refine (hmaximum _).bind fun maximum => ?_
  refine Keeps.bind (keeps_assign fun _ => ⟨rfl, rfl, rfl, rfl⟩) fun _ => ?_
  refine Keeps.bind ?_ fun _ => keeps_getDriver.bind fun d => ?_
  · exact (keeps_starting (keeps_initializeHWPLocked P hK)).bind fun _ => keeps_pure _
  · exact Keeps.ite (keeps_initializeGuardLocked P) (keeps_pure _)

/-- The guard part of the start returns whether the driver is supported. -/
theorem initializeGuardLocked_supported (w : World) :
    (exec (initializeGuardLocked P) w).2.driver.supported = (exec (initializeGuardLocked P) w).1 := by
  unfold initializeGuardLocked
  rw [exec_bind, exec_bind, exec_assign, exec_ite]
  split
  · rw [exec_bind, exec_bind, exec_assign]
    rfl
  · rfl

/-- A start that supports the CPU has returned so. -/
theorem initializeCapabilitiesLocked_supported :
    Triple (fun w => w.driver.supported = false) (initializeCapabilitiesLocked P)
      fun ok w => w.driver.supported = true → ok = true := by
  have hidentity : Triple (fun w => w.driver.supported = false) (readCPUIdentity P)
      fun _ w => w.driver.supported = false := fun _ hw => hw
  refine hidentity.bind fun identity => ?_
  obtain ⟨family, model, stepping⟩ := identity
  have hassign : Triple (fun w => w.driver.supported = false)
      (assign fun d => { d with cpuFamily := family, cpuModel := model, cpuStepping := stepping })
      fun _ w => w.driver.supported = false := fun _ hw => hw
  refine hassign.bind fun _ => Triple.ite (fun _ => ?_) fun _ => ?_
  · intro w hw hsupported
    exact absurd hsupported (by simp [hw])
  refine triple_true.bind fun units => triple_true.bind fun powerInfo => triple_true.bind fun _ => ?_
  refine triple_true.bind fun maximum => triple_true.bind fun _ => triple_true.bind fun _ => ?_
  intro w _ hsupported
  rw [exec_bind, exec_getDriver, exec_ite] at hsupported ⊢
  split at hsupported
  · rename_i hd
    rw [if_pos hd, ← initializeGuardLocked_supported]
    exact hsupported
  · rename_i hd
    exact absurd hsupported hd

/-- The world a run starts from: nothing is captured, the guard has not been
cleared and no limit written. -/
structure Fresh (w : World) : Prop where
  captured : w.driver.captured = false
  state : w.driver.state = .passive
  hwpCaptured : w.driver.hwp.captured = false
  log : Extends (fun _ e => e.driver.state = .passive ∧ Guarding e) [] w.log

theorem started_spec :
    Fresh (started P) ∧ ((started P).driver.supported = true →
      (started P).driver.watchdog = some ⟨some passiveGuardPollMS⟩) := by
  set w₀ : World := ⟨{ initialDriver with watchdog := some ⟨none⟩ }, []⟩ with hw₀
  have hstarted : started P =
      (exec (doIf (exec (initializeCapabilitiesLocked P) w₀).1 schedulePassiveGuardLocked)
        (exec (initializeCapabilitiesLocked P) w₀).2).2 := rfl
  have hframe := keeps_initializeCapabilitiesLocked P w₀
  have htriple := initializeCapabilitiesLocked_supported P w₀ rfl
  rw [hstarted]
  generalize exec (initializeCapabilitiesLocked P) w₀ = r at hframe htriple ⊢
  obtain ⟨initialized, w₁⟩ := r
  dsimp only at hframe htriple ⊢
  have hstate : w₁.driver.state = .passive := hframe.driver.state
  have hfresh : Fresh w₁ := by
    refine ⟨hframe.driver.captured, hstate, hframe.driver.hwpCaptured, ?_⟩
    exact hframe.log.mono fun _ e he => ⟨he.1.state, he.2⟩
  rw [exec_doIf]
  split
  · obtain ⟨hlog, hdriver, hwatchdog⟩ :=
      schedulePassiveGuardLocked_released w₁ (by rw [hstate]; decide)
    refine ⟨⟨?_, ?_, ?_, ?_⟩, fun hsupported => ?_⟩
    · rw [hdriver]
      exact hfresh.captured
    · rw [hdriver]
      exact hfresh.state
    · rw [hdriver]
      exact hfresh.hwpCaptured
    · rw [hlog]
      exact hfresh.log
    · have hsupported₁ : w₁.driver.supported = true := by
        rw [hdriver] at hsupported
        exact hsupported
      rw [hwatchdog hsupported₁, hframe.driver.watchdog]
      rfl
  · rename_i hinitialized
    exact ⟨hfresh, fun hsupported => absurd (htriple hsupported) hinitialized⟩

end

end TurboMac.Kext
