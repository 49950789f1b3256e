import TurboMac.Kext.Limit

/-! # The firmware's limits

The register is never above what the firmware left in it, and after a disarm it
is that again unless a restore of the run has lost it.
-/

namespace TurboMac.Kext

open Program

/-! ## At every point of a run -/

/-- The register at a point of a run, with the driver at that point. -/
structure Point (initial : U64) (d : Driver) (log : List Entry) : Prop where
  pl1_le : raplPl1Raw (packageLimit initial log) ≤ raplPl1Raw initial
  pl2_le : raplPl2Raw (packageLimit initial log) ≤ raplPl2Raw initial
  other : otherBits (packageLimit initial log) = otherBits initial
  armed : d.state = .armed →
    raplPl1Raw (packageLimit initial log) ≤ raplPl1Raw d.capturedPackageLimit ∧
      raplPl2Raw (packageLimit initial log) ≤ raplPl2Raw d.capturedPackageLimit

/-- A point before and after each event of a log, and what is written then: never
the LOCK bit, and only under a capture. -/
def History (initial : U64) : List Entry → Prop
  | [] => True
  | e :: log => Point initial e.driver log ∧ Point initial e.driver (e :: log) ∧
      (∀ value, e.event = .wrmsr msrPackagePowerLimit value →
        raplLocked value = false ∧ e.driver.captured = true) ∧ History initial log

theorem History.at {initial : U64} {log : List Entry} (h : History initial log)
    {later : List Entry} {e : Entry} {earlier : List Entry} (hlog : log = later ++ e :: earlier) :
    Point initial e.driver earlier ∧ Point initial e.driver (e :: earlier) ∧
      ∀ value, e.event = .wrmsr msrPackagePowerLimit value →
        raplLocked value = false ∧ e.driver.captured = true := by
  induction later generalizing log with
  | nil =>
      subst hlog
      exact ⟨h.1, h.2.1, h.2.2.1⟩
  | cons x later ih =>
      subst hlog
      exact ih h.2.2.2 rfl

/-- The invariant of small steps. -/
structure LimitInv (initial : U64) (g : World × Prop) : Prop where
  register : SavedRegister.Inv (limitFields initial) (cell initial g)
  other : otherBits (packageLimit initial g.1.log) = otherBits initial
  capturedOther : g.1.driver.captured = true →
    otherBits g.1.driver.capturedPackageLimit = otherBits initial
  armed : g.1.driver.state = .armed → g.1.driver.captured = true

theorem LimitInv.point {initial : U64} {g : World × Prop} (h : LimitInv initial g) :
    Point initial g.1.driver g.1.log := by
  have hle := (limitFields_le.1 h.register.live_le).1
  refine ⟨BitVec.le_def.2 hle.1, BitVec.le_def.2 hle.2, h.other, fun harmed => ?_⟩
  have hcaptured := h.armed harmed
  have hsaved := h.register.live_le_saved (limitFields g.1.driver.capturedPackageLimit)
    (by simp [cell, hcaptured])
  have hle' := (limitFields_le.1 hsaved).1
  exact ⟨BitVec.le_def.2 hle'.1, BitVec.le_def.2 hle'.2⟩

theorem LimitStep.inv {initial : U64} {g g' : World × Prop} (h : LimitStep initial g g')
    (hg : LimitInv initial g) : LimitInv initial g' := by
  have hregister := SavedRegister.Steps.inv h.cell hg.register
  cases h with
  | @assign w d lost hd =>
      refine ⟨hregister, hg.other, ?_, ?_⟩
      · intro hcaptured
        rw [hd.capturedPackageLimit]
        exact hg.capturedOther (hd.captured.symm.trans hcaptured)
      · intro harmed
        rcases hd.armed harmed with harmed | hcaptured
        · exact hd.captured.trans (hg.armed harmed)
        · exact hcaptured
  | @event w e lost he =>
      refine ⟨hregister, ?_, hg.capturedOther, hg.armed⟩
      rw [packageLimit_logged initial he]
      exact hg.other
  | @capture w d lost hidle hcaptured hlimit hunlocked =>
      refine ⟨hregister, hg.other, fun _ => ?_, fun _ => hcaptured⟩
      rw [hlimit]
      exact hg.other
  | @write w value lost hcaptured hfields hother hunlocked =>
      refine ⟨hregister, ?_, hg.capturedOther, hg.armed⟩
      rw [World.logged, packageLimit_write]
      -- the other bits are those of the register, or of the capture
      rcases hother with hother | hother
      · exact hother.trans hg.other
      · exact hother.trans (hg.capturedOther hcaptured)
  | @release w d lost hcaptured hreleased hstate =>
      refine ⟨hregister, hg.other, fun hcaptured => ?_, fun harmed => absurd harmed hstate⟩
      exact absurd hcaptured (by simp [hreleased])

/-- A step adds at most one event to the history, between two points. -/
theorem LimitStep.history {initial : U64} {g g' : World × Prop} (h : LimitStep initial g g')
    (hg : LimitInv initial g) (hhistory : History initial g.1.log) : History initial g'.1.log := by
  have hpoint := (h.inv hg).point
  cases h with
  | assign => exact hhistory
  | @event w e lost he =>
      refine ⟨hg.point, hpoint, ?_, hhistory⟩
      rintro value rfl
      exact absurd rfl he
  | capture => exact hhistory
  | @write w value lost hcaptured hfields hother hunlocked =>
      refine ⟨hg.point, hpoint, ?_, hhistory⟩
      rintro value' hvalue
      obtain ⟨-, rfl⟩ := Event.wrmsr.inj hvalue
      exact ⟨hunlocked, hcaptured⟩
  | release => exact hhistory

theorem LimitSteps.inv {initial : U64} {g g' : World × Prop} (h : LimitSteps initial g g')
    (hg : LimitInv initial g) (hhistory : History initial g.1.log) :
    LimitInv initial g' ∧ History initial g'.1.log := by
  induction h with
  | refl => exact ⟨hg, hhistory⟩
  | tail _ hstep ih => exact ⟨hstep.inv ih.1, hstep.history ih.1 ih.2⟩

section

variable {P : Platform} {initial : U64}

/-- `start` does not write the register. -/
theorem started_limitInv :
    LimitInv initial (started P, False) ∧ History initial (started P).log := by
  obtain ⟨hfresh, -⟩ := started_spec P
  have hne : (started P).driver.state ≠ .armed := by
    rw [hfresh.state]
    decide
  -- up to here the driver has only looked, and put the guard on
  have hlog : ∀ log, Extends (fun _ e => e.driver.state = .passive ∧ Guarding e) [] log →
      packageLimit initial log = initial ∧ History initial log := by
    intro log hlog
    induction hlog with
    | refl => exact ⟨rfl, trivial⟩
    | @cons log e _ he ih =>
        have hlive : packageLimit initial (e :: log) = initial :=
          (packageLimit_cons initial he.2.leavesLimit log).trans ih.1
        have hpoint : ∀ log', packageLimit initial log' = initial → Point initial e.driver log' := by
          intro log' hlog'
          have harmed : e.driver.state ≠ .armed := by
            rw [he.1]
            decide
          refine ⟨?_, ?_, congrArg otherBits hlog', fun h => absurd h harmed⟩
          · rw [hlog']
            exact BitVec.le_refl _
          · rw [hlog']
            exact BitVec.le_refl _
        refine ⟨hlive, hpoint log ih.1, hpoint _ hlive, ?_, ih.2⟩
        intro value hvalue
        have hguarding := he.2
        rw [Guarding, hvalue] at hguarding
        exact absurd rfl hguarding
  obtain ⟨hlive, hhistory⟩ := hlog _ hfresh.log
  have hcell : cell initial (started P, False) = ⟨limitFields initial, none, False⟩ := by
    simp [cell, hlive, hfresh.captured]
  refine ⟨⟨?_, congrArg otherBits hlive, ?_, fun harmed => absurd harmed hne⟩, hhistory⟩
  · rw [hcell]
    exact SavedRegister.inv_init _
  · intro hcaptured
    exact absurd hcaptured (by simp [hfresh.captured])

variable (hP : StoresLimit P initial)

include hP

theorem run_limitInv (ops : List Op) :
    LimitInv initial (run P ops (started P), RunLoses P initial ops (started P)) ∧
      History initial (run P ops (started P)).log := by
  obtain ⟨hinv, hhistory⟩ := @started_limitInv P initial
  have hunlocked : CaptureUnlocked initial (started P) := by
    intro hcaptured
    exact absurd hcaptured (by simp [(started_spec P).1.captured])
  have hsteps := run_limitSteps hP ops hunlocked False
  simp only [false_or] at hsteps
  exact hsteps.inv hinv hhistory

/-- At every point of every run, between the calls as well as before and after
each event of a call: PL1 and PL2 are at most what they were before the first
call, the other bits are what they were, and while Armed PL1 and PL2 are at most
the captured ones. The driver never writes the LOCK bit. -/
theorem package_limit_bounded (ops : List Op) :
    let w := run P ops (started P)
    Point initial w.driver w.log ∧
      ∀ later e earlier, w.log = later ++ e :: earlier →
        Point initial e.driver earlier ∧ Point initial e.driver (e :: earlier) ∧
          ∀ value, e.event = .wrmsr msrPackagePowerLimit value → raplLocked value = false := by
  intro w
  obtain ⟨hinv, hhistory⟩ := run_limitInv hP ops
  refine ⟨hinv.point, ?_⟩
  intro later e earlier hlog
  obtain ⟨hbefore, hafter, hwrite⟩ := hhistory.at hlog
  exact ⟨hbefore, hafter, fun value hvalue => (hwrite value hvalue).1⟩

end

/-- Armed for 10 W, the machine is below what it captured. -/
theorem package_limit_bounded_armed :
    raplPl1Raw (packageLimit firmwareLimit (run (machine firmwareLimit fun _ => false)
        [.arm (some (tenWatts 1))] (started (machine firmwareLimit fun _ => false))).log) ≤
      raplPl1Raw (run (machine firmwareLimit fun _ => false) [.arm (some (tenWatts 1))]
        (started (machine firmwareLimit fun _ => false))).driver.capturedPackageLimit := by
  have hbounded := package_limit_bounded (storesLimit_machine firmwareLimit fun _ => false)
    [.arm (some (tenWatts 1))]
  have harmed : (run (machine firmwareLimit fun _ => false) [.arm (some (tenWatts 1))]
      (started (machine firmwareLimit fun _ => false))).driver.state = .armed := by
    decide +kernel
  exact (hbounded.1.armed harmed).1

section

variable {P : Platform} {initial : U64}

/-! ## After a disarm -/

/-- `disarm` succeeds if and only if it leaves the driver Passive. -/
theorem disarm_success_iff (request : Option CommandRequest) (w : World) :
    (exec (disarm P request) w).1 = .success ↔
      (exec (disarm P request) w).2.driver.state = .passive := by
  unfold disarm
  rw [exec_bind]
  generalize hexit : exec (disarmExit request) w = r
  obtain ⟨exit, w₁⟩ := r
  obtain ⟨-, hcases⟩ := disarmExit_cases hexit
  dsimp only
  rcases hcases with rfl | rfl
  · unfold leave
    rw [exec_bind]
    generalize hrestore : exec (restoreLocked P .invalidRequest) w₁ = r
    obtain ⟨restored, w₂⟩ := r
    have hstate := (restoreLocked_spec P hrestore).2
    simp [exec_pure, hstate]
  · unfold leave
    rw [exec_bind]
    generalize hrestore : exec (restoreLocked P .requested) w₁ = r
    obtain ⟨restored, w₂⟩ := r
    have hstate := (restoreLocked_spec P hrestore).2
    cases restored with
    | false => simp [exec_pure, hstate]
    | true => simp [exec_pure, hstate]

/-- A disarm that succeeds has released nothing but what it has captured. -/
theorem not_loses_of_success {request : Option CommandRequest} {w : World}
    (hsuccess : (exec (disarm P request) w).1 = .success) :
    ¬ (Op.disarm request).Loses P initial w := by
  rintro ⟨-, hcaptured, hfails, -⟩
  change HWPFails P (exec (disarmExit request) w).2 at hfails
  change (exec (disarmExit request) w).2.driver.captured = true at hcaptured
  unfold disarm at hsuccess
  rw [exec_bind] at hsuccess
  generalize hexit : exec (disarmExit request) w = r at hsuccess hcaptured hfails
  obtain ⟨exit, w₁⟩ := r
  obtain ⟨-, hcases⟩ := disarmExit_cases hexit
  dsimp only at hsuccess hcaptured hfails
  rcases hcases with rfl | rfl
  · unfold leave at hsuccess
    rw [exec_bind] at hsuccess
    simp at hsuccess
  · have hcapture : exec (restoreLocked P .requested) w₁ =
        exec (restoreCapturedLocked P .requested) w₁.fired := by
      rw [exec_restoreLocked, if_neg (by simp [hcaptured])]
    unfold leave at hsuccess
    rw [exec_bind, hcapture] at hsuccess
    generalize hrestore : exec (restoreCapturedLocked P .requested) w₁.fired = r at hsuccess
    obtain ⟨restored, w₂⟩ := r
    obtain ⟨guardRestored, w₃, hwpRestored, w₄, limitsRestored, w₅, hset, hhwp, -, hrestored, -⟩ :=
      restoreCapturedLocked_cases P hrestore
    have hfalse : hwpRestored = false := by
      unfold HWPFails at hfails
      rw [hset, hhwp] at hfails
      exact hfails
    simp [hrestored, hfalse] at hsuccess

theorem runLoses_append (ops : List Op) (op : Op) (w : World) :
    RunLoses P initial (ops ++ [op]) w ↔
      RunLoses P initial ops w ∨ op.Loses P initial (run P ops w) := by
  induction ops generalizing w with
  | nil => simp [RunLoses]
  | cons op' ops ih =>
      simp only [List.cons_append, RunLoses, run_cons]
      rw [ih, or_assoc]

variable (hP : StoresLimit P initial)

include hP in
/-- After every disarm that succeeds the limit, enable and clamp fields are those
the register had before the first call, if and only if no restore of the run has
lost them. (Nothing is written before the first capture.) -/
theorem restore_complete_iff (ops : List Op) (request : Option CommandRequest)
    (hsuccess : (exec (disarm P request) (run P ops (started P))).1 = .success) :
    limitFields (packageLimit initial
        (exec (disarm P request) (run P ops (started P))).2.log) = limitFields initial ↔
      ¬ RunLoses P initial ops (started P) := by
  set w := run P ops (started P) with hw
  have hrun : run P (ops ++ [.disarm request]) (started P) = (exec (disarm P request) w).2 := by
    rw [run_append]
    rfl
  obtain ⟨hinv, -⟩ := run_limitInv hP (ops ++ [.disarm request])
  rw [hrun] at hinv
  -- a disarm lets go of the capture, so the register says what is lost
  have hcaptured : (exec (disarm P request) w).2.driver.captured = false := by
    unfold disarm
    rw [exec_bind]
    generalize hexit : exec (disarmExit request) w = r
    obtain ⟨exit, w₁⟩ := r
    obtain ⟨-, hcases⟩ := disarmExit_cases hexit
    dsimp only
    have hleave : ∀ reason onRestored onFailed, (exec (leave P
        (.restore reason onRestored onFailed)) w₁).2.driver.captured = false := by
      intro reason onRestored onFailed
      rw [exec_leave_restore]
      generalize hrestore : exec (restoreLocked P reason) w₁ = r
      obtain ⟨restored, w₂⟩ := r
      exact (restoreLocked_spec P hrestore).1
    rcases hcases with rfl | rfl
    · exact hleave _ _ _
    · exact hleave _ _ _
  have hlive := hinv.register.live_eq (by simp [cell, hcaptured])
  refine hlive.trans (not_congr ?_)
  show RunLoses P initial (ops ++ [.disarm request]) (started P) ↔ _
  rw [runLoses_append, ← hw]
  have hlast : ¬ (Op.disarm request).Loses P initial w := not_loses_of_success hsuccess
  simp [hlast]

end

theorem restore_complete_iff_machine :
    let P := machine firmwareLimit fun _ => false
    let w := run P [.arm (some (tenWatts 1))] (started P)
    limitFields (packageLimit firmwareLimit (exec (disarm P (some (command 2))) w).2.log) =
        limitFields firmwareLimit ↔
      ¬ RunLoses P firmwareLimit [.arm (some (tenWatts 1))] (started P) :=
  restore_complete_iff (storesLimit_machine firmwareLimit fun _ => false)
    [.arm (some (tenWatts 1))] (some (command 2)) (by decide +kernel)

/-- The rendezvous right after the guard has been set again: the write of the HWP
requests in a restore. -/
def restoring (log : List Entry) : Bool :=
  match log with
  | ⟨.powerControl .setGuard _, _⟩ :: _ => true
  | _ => false

/-- Armed for 10 W, the machine fails one rendezvous: the first disarm reports an
error, drops the capture and leaves 10 W in the register; the second succeeds. -/
theorem restore_incomplete :
    ¬ ∀ (P : Platform) (initial : U64), StoresLimit P initial → raplLocked initial = false →
      ∀ (ops : List Op) (request : Option CommandRequest),
        (exec (disarm P request) (run P ops (started P))).1 = .success →
        limitFields (packageLimit initial
          (exec (disarm P request) (run P ops (started P))).2.log) = limitFields initial := by
  intro h
  have hlimits := h (machine firmwareLimit restoring) firmwareLimit
    (storesLimit_machine firmwareLimit restoring) (by decide)
    [.arm (some (tenWatts 1)), .disarm (some (command 2))] (some (command 3)) (by decide +kernel)
  have hne : limitFields (packageLimit firmwareLimit (exec (disarm (machine firmwareLimit restoring)
      (some (command 3))) (run (machine firmwareLimit restoring)
        [.arm (some (tenWatts 1)), .disarm (some (command 2))]
        (started (machine firmwareLimit restoring)))).2.log) ≠ limitFields firmwareLimit := by
    decide +kernel
  exact hne hlimits

end TurboMac.Kext
