import TurboMac.Kext.DriverClient

/-! # The driver's watchdog

While the driver is Armed its heartbeat is the clock at the last `arm` or `update` that
succeeded; and it is only still Armed after the watchdog has fired if that was less
than five seconds before.
-/

namespace TurboMac.Kext

open Program

/-- The clock, if the last thing that happened was a reading of it. -/
def World.clock (w : World) : Option U64 :=
  match w.log with
  | ⟨.machAbsoluteTime now, _⟩ :: _ => some now
  | _ => none

/-- The calls that are a heartbeat if they succeed. -/
def Op.beats : Op → Bool
  | .arm _ | .update _ => true
  | _ => false

section

variable (P : Platform)

/-- The clock at the last call that was a heartbeat, with the world after some calls. -/
def beat (last : Option U64 × World) (op : Op) : Option U64 × World :=
  (if op.beats && (exec (op.call P) last.2).1 == .success then (op.after P last.2).clock else last.1,
    op.after P last.2)

/-- After some calls, from the start of the driver on. -/
def beats (ops : List Op) : Option U64 × World := ops.foldl (beat P) (none, started P)

theorem beats_world (ops : List Op) : (beats P ops).2 = run P ops (started P) := by
  have hfold : ∀ last : Option U64 × World, (ops.foldl (beat P) last).2 = run P ops last.2 := by
    induction ops with
    | nil => exact fun _ => rfl
    | cons op ops ih => exact fun last => ih (beat P last op)
  exact hfold (none, started P)

/-- An Armed driver has the last heartbeat, and a timeout of five seconds. -/
def Beating (last : Option U64 × World) : Prop :=
  last.2.driver.state = .armed →
    last.1 = some last.2.driver.lastHeartbeat ∧ last.2.driver.watchdogTimeoutMS = watchdogTimeoutMS

/-- What a heartbeat is of. -/
def Driver.heartbeat (d : Driver) : U64 × U32 := (d.lastHeartbeat, d.watchdogTimeoutMS)

theorem HWPMembers.heartbeat {d d' : Driver} (h : HWPMembers d d') : d'.heartbeat = d.heartbeat := by
  rw [h.eq]
  rfl

/-- A call that does not beat, and one that fails, leaves the heartbeat of a driver that is
still Armed. -/
theorem Beating.same {last : Option U64 × World} {op : Op} (hlast : Beating last)
    (hbeat : (beat P last op).1 = last.1)
    (h : (op.after P last.2).driver.state = .armed →
      last.2.driver.state = .armed ∧ (op.after P last.2).driver.heartbeat = last.2.driver.heartbeat) :
    Beating (beat P last op) := by
  intro harmed
  rcases h harmed with ⟨hbefore, hsame⟩
  rcases hlast hbefore with ⟨hclock, htimeout⟩
  have hheart : (op.after P last.2).driver.lastHeartbeat = _ := congrArg Prod.fst hsame
  have htime : (op.after P last.2).driver.watchdogTimeoutMS = _ := congrArg Prod.snd hsame
  refine ⟨?_, htime.trans htimeout⟩
  rw [hbeat, hclock]
  exact congrArg some hheart.symm

/-- What a valid request has for a timeout. -/
theorem timeout_of_validateRequestLocked {request : LimitRequest} {isArm : Bool} {w w' : World}
    (h : exec (validateRequestLocked P (some request) isArm) w = (true, w')) :
    request.watchdogTimeoutMS = watchdogTimeoutMS := by
  have hvalid : ∀ {last : U64} {floorMW ceilingPL1MW ceilingPL2MW : U32},
      validateLimitRequest (some request) last floorMW ceilingPL1MW ceilingPL2MW watchdogTimeoutMS =
        true → request.watchdogTimeoutMS = watchdogTimeoutMS :=
    fun hvalid => (of_decide_eq_true hvalid).2.2.1
  unfold validateRequestLocked at h
  rw [exec_bind, exec_getDriver] at h
  rcases exec_ite_cases h with ⟨-, h⟩ | ⟨-, h⟩
  · exact hvalid (Prod.mk.inj h).1
  · exact hvalid (Prod.mk.inj h).1

theorem timeout_of_armInstall {request : LimitRequest} {hwpWasEnabled : Bool} {w w' : World}
    (h : exec (armInstall P request hwpWasEnabled) w = (true, w')) :
    request.watchdogTimeoutMS = watchdogTimeoutMS := by
  unfold armInstall at h
  rw [exec_bind, exec_getDriver, exec_bind] at h
  generalize hvalidate : exec (validateRequestLocked P (some request) true) w = r at h
  rcases r with ⟨valid, w₁⟩
  rcases exec_ite_cases h with ⟨-, h⟩ | ⟨hvalid, -⟩
  · cases (Prod.mk.inj h).1
  · obtain rfl : valid = true := by simpa using hvalid
    exact timeout_of_validateRequestLocked P hvalidate

/-- The result of a call, and the world after it, from its exit. -/
theorem call_of_exit (op : Op) {w w' : World} {exit : Exit}
    (h : exec (op.exit P) w = (exit, w')) :
    (exec (op.call P) w).1 = (exec (leave P exit) w').1 ∧
      op.after P w = (exec op.finish (exec (leave P exit) w').2).2 := by
  constructor
  · show (exec (leave P (exec (op.exit P) w).1) (exec (op.exit P) w).2).1 = _
    rw [h]
  · rw [after_eq, h]

/-- An operation that restores is not Armed after it. -/
theorem ne_armed_of_restore (op : Op) {w w' : World} {reason : RestoreReason}
    {onRestored onFailed : IOReturn}
    (h : exec (op.exit P) w = (.restore reason onRestored onFailed, w')) :
    (op.after P w).driver.state ≠ .armed := by
  rw [(call_of_exit P op h).2, exec_finish]
  exact leave_restore_ne_armed P reason onRestored onFailed w'

theorem arm_beating {request : Option LimitRequest} {last : Option U64 × World} (hlast : Beating last) :
    Beating (beat P last (.arm request)) := by
  rcases armExit_cases P request last.2 with ⟨code, w₁, hexec, hrefused⟩ |
    ⟨r, capture, w₀, w₁, -, -, -, -, -, -, -, hexec⟩
  · -- refused: nothing has changed that a heartbeat is of
    rcases call_of_exit P (.arm request) hexec with ⟨hcode, hafter⟩
    have hnot : (exec (Op.call P (.arm request)) last.2).1 ≠ .success := by
      rw [hcode]
      exact hrefused.code.1
    refine hlast.same P ?_ fun harmed => ?_
    · simp [beat, hnot]
    · rw [hafter] at harmed ⊢
      rcases hrefused.driver with ⟨d, hd, hdriver⟩
      have hstate : w₁.driver.state = last.2.driver.state := hrefused.frame.driver.state
      refine ⟨hstate.symm.trans harmed, ?_⟩
      show w₁.driver.heartbeat = _
      rw [hdriver, ← hd.heartbeat]
      rfl
  · generalize hcaptured : exec (armCaptured P r capture) w₁ = result at hexec
    rcases result with ⟨exit, w'⟩
    rcases armCaptured_cases P hcaptured with ⟨installed, w₂, hinstall, hcases⟩
    have hfailed : exit = armFailed → Beating (beat P last (.arm request)) := by
      rintro rfl harmed
      exact absurd harmed (ne_armed_of_restore P (.arm request) hexec)
    rcases hcases with ⟨-, rfl, -⟩ | ⟨rfl, applied, w₃, -, hcases⟩
    · exact hfailed rfl
    rcases hcases with ⟨-, rfl, -⟩ | ⟨-, cleared, w₄, -, hcases⟩
    · exact hfailed rfl
    rcases hcases with ⟨-, rfl, -⟩ | ⟨-, rfl, rfl⟩
    · exact hfailed rfl
    · -- armed: the clock was read last
      rcases call_of_exit P (.arm request) hexec with ⟨hcode, hafter⟩
      have hsuccess : (exec (Op.call P (.arm request)) last.2).1 = .success := hcode
      intro _
      have hclock : (beat P last (.arm request)).1 = (Op.after P (.arm request) last.2).clock := by
        simp [beat, Op.beats, hsuccess]
      rw [hclock]
      show World.clock (Op.after P (.arm request) last.2) =
        some (Op.after P (.arm request) last.2).driver.lastHeartbeat ∧
          (Op.after P (.arm request) last.2).driver.watchdogTimeoutMS = _
      rw [hafter]
      exact ⟨rfl, timeout_of_armInstall P hinstall⟩

theorem update_beating {request : Option LimitRequest} {last : Option U64 × World}
    (hlast : Beating last) : Beating (beat P last (.update request)) := by
  generalize hexec : exec (updateExit P request) last.2 = result
  rcases result with ⟨exit, w'⟩
  rcases updateExit_cases P hexec with ⟨-, rfl, rfl⟩ | ⟨hopen, hcases⟩
  · rcases call_of_exit P (.update request) hexec with ⟨hcode, hafter⟩
    refine hlast.same P ?_ fun harmed => ?_
    · have hnot : (exec (Op.call P (.update request)) last.2).1 = .notOpen := hcode
      simp [beat, hnot]
    · rw [hafter] at harmed ⊢
      exact ⟨harmed, rfl⟩
  have hfailed : exit.IsFailure → Beating (beat P last (.update request)) := by
    rintro ⟨reason, code, rfl, -⟩ harmed
    exact absurd harmed (ne_armed_of_restore P (.update request) hexec)
  rcases hcases with ⟨hfailure, -⟩ | ⟨r, w₁, installed, w₂, hframe, hinstall, hcases⟩
  · exact hfailed hfailure
  rcases hcases with ⟨-, hfailure, -⟩ | ⟨rfl, rfl, rfl⟩
  · exact hfailed hfailure
  · rcases call_of_exit P (.update request) hexec with ⟨hcode, hafter⟩
    have hsuccess : (exec (Op.call P (.update request)) last.2).1 = .success := hcode
    intro _
    have hclock : (beat P last (.update request)).1 = (Op.after P (.update request) last.2).clock := by
      simp [beat, Op.beats, hsuccess]
    rw [hclock]
    show World.clock (Op.after P (.update request) last.2) =
      some (Op.after P (.update request) last.2).driver.lastHeartbeat ∧
        (Op.after P (.update request) last.2).driver.watchdogTimeoutMS = _
    rw [hafter]
    refine ⟨rfl, ?_⟩
    -- the timeout is the one the driver was armed with
    have htimeout := (hlast hopen.2).2
    have hread : w₁.driver.watchdogTimeoutMS = last.2.driver.watchdogTimeoutMS :=
      congrArg Prod.snd hframe.driver.toHWPMembers.heartbeat
    show w₂.driver.watchdogTimeoutMS = watchdogTimeoutMS
    rcases installLimitsLocked_cases P r.pl1MW r.pl2MW w₁ hinstall with ⟨hfalse, -⟩ | ⟨_, _, _, hinstalled⟩
    · cases hfalse
    · rw [hinstalled.driver, ← htimeout, ← hread]

/-- The driver after the watchdog has fired, if it is still Armed: it has looked at the
clock, and the heartbeat was not too old. -/
theorem watchdogFired_armed {w : World} (hcaptured : w.driver.captured = true ↔ w.driver.state = .armed)
    (h : (Op.watchdogFired.after P w).driver.state = .armed) :
    (Op.watchdogFired.after P w).driver.heartbeat = w.driver.heartbeat ∧
      watchdogExpiredLocked P w.driver (P.machAbsoluteTime w.log) = false := by
  have harmed := armed_of_after P .watchdogFired (fun _ => nofun) h
  generalize hexec : exec (watchdogFiredExit P) w = r
  rcases r with ⟨exit, w'⟩
  have hafter := (call_of_exit P .watchdogFired hexec).2
  rcases watchdogFiredExit_cases P hexec with ⟨-, hcases⟩ | ⟨hnot, -⟩
  · rcases hcases with ⟨⟨reason, code, rfl, -⟩, -⟩ | ⟨rfl, w₁, hframe, rfl⟩
    · exact absurd h (ne_armed_of_restore P .watchdogFired hexec)
    · refine ⟨?_, ?_⟩
      · rw [hafter]
        exact hframe.driver.toHWPMembers.heartbeat
      · -- had it been too old, it would have restored
        unfold watchdogFiredExit at hexec
        rw [exec_bind] at hexec
        change exec _ w.fired = _ at hexec
        rw [exec_bind, exec_getDriver] at hexec
        rcases exec_ite_cases hexec with ⟨-, hexec⟩ | ⟨hidle, -⟩
        · rw [exec_bind, exec_bind, exec_getDriver] at hexec
          rcases exec_ite_cases hexec with ⟨-, hexec⟩ | ⟨hfresh, -⟩
          · cases (Prod.mk.inj hexec).1
          · exact Bool.eq_false_iff.2 hfresh
        · refine absurd ?_ hidle
          simp [World.fired, harmed, hcaptured.2 harmed]
  · exact absurd ⟨hcaptured.2 harmed, harmed⟩ hnot

theorem beat_beating (op : Op) {last : Option U64 × World} (hlast : Beating last)
    (hcaptured : last.2.driver.captured = true ↔ last.2.driver.state = .armed) :
    Beating (beat P last op) := by
  have hrestores : ∀ {op : Op}, (op.after P last.2).driver.state ≠ .armed → Beating (beat P last op) :=
    fun hne harmed => absurd harmed hne
  cases op with
  | arm request => exact arm_beating P hlast
  | update request => exact update_beating P hlast
  | disarm request =>
      generalize hexec : exec (disarmExit request) last.2 = r
      rcases r with ⟨exit, w'⟩
      rcases (disarmExit_cases hexec).2 with rfl | rfl
      · exact hrestores (ne_armed_of_restore P (.disarm request) hexec)
      · exact hrestores (ne_armed_of_restore P (.disarm request) hexec)
  | invalidClientCommand =>
      exact hrestores (ne_armed_of_restore P .invalidClientCommand rfl)
  | clientDisconnected =>
      exact hrestores (ne_armed_of_restore P .clientDisconnected rfl)
  | watchdogFired =>
      refine hlast.same P rfl fun harmed => ?_
      exact ⟨armed_of_after P .watchdogFired (fun _ => nofun) harmed,
        (watchdogFired_armed P hcaptured harmed).1⟩

theorem beats_beating (hsupported : (started P).driver.supported = true) (ops : List Op) :
    Beating (beats P ops) := by
  induction ops using List.reverseRecOn with
  | nil =>
      intro harmed
      have hpassive : (started P).driver.state = .passive := (started_spec P).1.state
      exact absurd (hpassive.symm.trans harmed) nofun
  | append_singleton ops op ih =>
      have hguarded : Guarded (run P ops (started P)) :=
        run_invariant P (fun op _ => after_guarded P op) ops (started_guarded P hsupported)
      have hworld : (beats P ops).2 = run P ops (started P) := beats_world P ops
      rw [beats, List.foldl_append]
      exact beat_beating P op ih (hworld ▸ hguarded.captured_iff)

/-- Whatever is called, an Armed driver's heartbeat is the clock at the last `arm` or
`update` that succeeded, and if it is still Armed after the watchdog has fired that was
less than five seconds before. -/
theorem heartbeat_fresh (hsupported : (started P).driver.supported = true) (ops : List Op) :
    let w := run P ops (started P)
    (w.driver.state = .armed → (beats P ops).1 = some w.driver.lastHeartbeat) ∧
      ((run P (ops ++ [.watchdogFired]) (started P)).driver.state = .armed →
        ∃ last, (beats P ops).1 = some last ∧ last ≠ 0 ∧ last ≤ P.machAbsoluteTime w.log ∧
          (P.absolutetimeToNanoseconds (P.machAbsoluteTime w.log - last)).toNat < 5000000000) := by
  intro w
  have hguarded : Guarded w :=
    run_invariant P (fun op _ => after_guarded P op) ops (started_guarded P hsupported)
  have hbeating := beats_beating P hsupported ops
  have hworld : (beats P ops).2 = w := beats_world P ops
  refine ⟨fun harmed => ?_, fun harmed => ?_⟩
  · rw [← hworld] at harmed ⊢
    exact (hbeating harmed).1
  · rw [run_append] at harmed
    have hbefore := armed_of_after P .watchdogFired (fun _ => nofun) harmed
    have hexpired := (watchdogFired_armed P hguarded.captured_iff harmed).2
    have hbeat := hbeating (by rw [hworld]; exact hbefore)
    rw [hworld] at hbeat
    simp only [watchdogExpiredLocked, watchdogExpired, hbeat.2, watchdogTimeoutMS, Bool.or_eq_false_iff,
      decide_eq_false_iff_not, not_or, BitVec.not_lt, BitVec.not_le] at hexpired
    exact ⟨_, hbeat.1, hexpired.1.1, hexpired.1.2, hexpired.2⟩

end

/-- A second after an `arm` for 10 W. -/
theorem heartbeat_fresh_tenWatts :
    let P := machine firmwareLimit fun _ => false
    ∃ last, (beats P [.arm (some (tenWatts 1))]).1 = some last ∧ last ≠ 0 ∧
      last ≤ P.machAbsoluteTime (run P [.arm (some (tenWatts 1))] (started P)).log ∧
      (P.absolutetimeToNanoseconds
        (P.machAbsoluteTime (run P [.arm (some (tenWatts 1))] (started P)).log - last)).toNat <
          5000000000 := by
  intro P
  have hfresh := heartbeat_fresh P (by decide +kernel) [.arm (some (tenWatts 1))]
  exact hfresh.2 (by decide +kernel)

end TurboMac.Kext
