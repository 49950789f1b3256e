import TurboMac.Kext.ArmOrder
import TurboMac.Kext.Requests

/-! # `arm`

What follows the limits: HWP at its highest, the clear of the guard, and the
restore of an `arm` that fails.
-/

namespace TurboMac.Kext

open Program

section

variable (P : Platform) {r : LimitRequest} {base : List Entry} {w w' : World} {s : Seen}

/-! ## HWP at its highest -/

/-- Whenever `m` returns true, the last it did was to read every CPU's request,
and each was at its highest. -/
def EndsAtHighest (m : DriverM Bool) : Prop :=
  ∀ w w', exec m w = (true, w') → ∃ w₁ cpus, Frame HWPMembers HWPAccess w w₁ ∧
    w' = w₁.logged (.hwpRequest .read cpus) ∧ ReadAtHighest w₁.driver.hwp cpus

theorem endsAtHighest_false : EndsAtHighest (pure false) := by
  intro w w' h
  exact absurd (Prod.mk.inj h).1 (by simp)

theorem EndsAtHighest.ite {c : Prop} [Decidable c] {m k : DriverM Bool} (hm : EndsAtHighest m)
    (hk : EndsAtHighest k) : EndsAtHighest (if c then m else k) := by
  split
  · exact hm
  · exact hk

theorem EndsAtHighest.bind {α : Type} {m : DriverM α} {f : α → DriverM Bool}
    (hm : Keeps (Frame HWPMembers HWPAccess) m) (hf : ∀ a, EndsAtHighest (f a)) :
    EndsAtHighest (m >>= f) := by
  intro w w' h
  rw [exec_bind] at h
  obtain ⟨w₁, cpus, hframe, hw', hread⟩ := hf _ _ _ h
  exact ⟨w₁, cpus, trans_of _ (hm w) hframe, hw', hread⟩

theorem endsAtHighest_verifyHWPRequestsLocked : EndsAtHighest (verifyHWPRequestsLocked P) := by
  intro w w' h
  unfold verifyHWPRequestsLocked at h
  rw [exec_bind, exec_getDriver, exec_bind] at h
  generalize hread : exec (readHWPRequestsLocked P .zero) w = x at h
  obtain ⟨⟨ok, current⟩, w₁⟩ := x
  dsimp only at h
  rcases exec_ite_cases h with ⟨-, h⟩ | ⟨hok, h⟩
  · exact absurd (Prod.mk.inj h).1 (by simp)
  simp only [Bool.or_eq_true, not_or, Bool.not_eq_true', Bool.not_eq_false] at hok
  obtain ⟨hall, rfl⟩ := Prod.mk.inj h
  rw [decide_eq_true_eq] at hall
  obtain rfl : ok = true := hok.1
  obtain ⟨cpus, rfl, heach, hpresent⟩ := readHWPRequestsLocked_spec P hread
  refine ⟨w, cpus, refl_of _ w, rfl, ⟨?_, ?_⟩, ?_⟩
  · intro cpu hcpu
    obtain ⟨index, hnumber, hindex, hrequest⟩ := heach cpu hcpu
    refine ⟨index, hnumber, (hall index).1 ▸ hindex, ?_⟩
    rw [hrequest, ((hall index).2 hindex).1]
  · intro index hindex
    exact hpresent index ((hall index).1.trans hindex)
  · intro index hindex
    have hcurrent := (hall index).2 ((hall index).1.trans hindex)
    rw [← hcurrent.1]
    exact hcurrent.2

theorem endsAtHighest_applyHWPMaximumLocked (mode : U32) :
    EndsAtHighest (applyHWPMaximumLocked P mode) := by
  have hK : ∀ e : Entry, e.event.IsRead → HWPAccess e := fun _ he =>
    (Event.IsRead.restrained he).hwpAccess
  have hrequests := endsAtHighest_verifyHWPRequestsLocked P
  have hverify : EndsAtHighest (verifyHWPOverrideLocked P) := by
    refine .bind keeps_getHWP fun hwp => .ite endsAtHighest_false (.ite ?_ hrequests)
    exact .bind (keeps_readHWPPackageRequestLocked P hK) fun _ => .ite endsAtHighest_false hrequests
  have happly : EndsAtHighest (applyHWPRequestsLocked P mode) := by
    refine .bind keeps_getHWP fun hwp => .bind ?_ fun _ => .ite endsAtHighest_false ?_
    · intro w
      exact (frame_writeHWPRequestsLocked P fun cpus => ⟨trivial, id⟩).const
    · exact .bind (keeps_assignHWP (by simp)) fun _ => hverify
  refine .bind keeps_getHWP fun hwp => .ite endsAtHighest_false ?_
  refine .bind (keeps_assignHWP (by simp)) fun _ => .ite ?_ happly
  refine .bind ?_ fun _ => .ite endsAtHighest_false happly
  intro w
  refine (frame_writeHWPPackageRequestLocked P hK ⟨?_, ?_⟩).const
  · show msrHWPPackageRequest ≠ msrPackagePowerLimit
    decide
  · show msrHWPPackageRequest ≠ msrHWPEnable
    decide

/-- HWP goes to its highest under the requested limits. -/
theorem Trail.apply (h : Trail r base w s) (hforce : s.InForce w.driver r.pl1MW r.pl2MW)
    {mode : U32} {ok : Bool} (hexec : exec (applyHWPMaximumLocked P mode) w = (ok, w')) :
    ∃ s', Trail r base w' s' ∧ s'.InForce w'.driver r.pl1MW r.pl2MW ∧
      (ok = true → ∃ cpus, s'.requests = some cpus ∧ ReadAtHighest w'.driver.hwp cpus) := by
  have hextend : ∀ w₁, Frame HWPMembers HWPAccess w w₁ →
      ∃ s₁, Trail r base w₁ s₁ ∧ s₁.InForce w₁.driver r.pl1MW r.pl2MW := by
    intro w₁ hframe
    have hexponent : ∀ d, HWPMembers w.driver d → d.powerExponent = w.driver.powerExponent := by
      intro d hd
      rw [hd.eq]
    obtain ⟨s₁, hle, h₁⟩ := h.extend hframe (fun _ he => he.1) fun s' e hs' hd he =>
      rule_of_inForce he.1 he.2 (hforce.mono hs' (hexponent _ hd))
    exact ⟨s₁, h₁, hforce.mono hle (hexponent _ hframe.driver)⟩
  cases ok with
  | false =>
      have hkeeps : Keeps (Frame HWPMembers HWPAccess) (applyHWPMaximumLocked P mode) :=
        keeps_applyHWPMaximumLocked P (fun _ hhwp henable => ⟨hhwp, henable⟩) mode
      obtain ⟨s₁, h₁, hforce₁⟩ := hextend w' (hkeeps.rel hexec)
      exact ⟨s₁, h₁, hforce₁, by simp⟩
  | true =>
      obtain ⟨w₁, cpus, hframe, rfl, hread⟩ := endsAtHighest_applyHWPMaximumLocked P mode w w' hexec
      obtain ⟨s₁, h₁, hforce₁⟩ := hextend w₁ hframe
      have hle : s₁.Le (s₁.next (.hwpRequest .read cpus)) := Seen.le_next s₁ trivial
      exact ⟨_, h₁.logged (.hwpRequest .read cpus) (rule_of_read trivial), hforce₁.mono hle rfl,
        fun _ => ⟨cpus, rfl, hread⟩⟩

/-! ## The guard -/

theorem Seen.InForce.guard (h : s.InForce w.driver r.pl1MW r.pl2MW) {d : Driver}
    (hd : d.powerExponent = w.driver.powerExponent) (operation : PowerControlOperation)
    (cpus : List PowerControlCPU) :
    (s.next (.powerControl operation cpus)).InForce d r.pl1MW r.pl2MW := by
  obtain ⟨hread, original, hlimit⟩ := h
  cases operation <;> exact ⟨hread, original, by rw [hd]; exact hlimit⟩

/-- A write of the guard, where the rule permits it. -/
theorem Trail.guard (h : Trail r base w s) {enabled ok : Bool}
    (hclear : enabled = false → ∃ cpus, s.requests = some cpus ∧ ReadAtHighest w.driver.hwp cpus)
    (hexec : exec (setPowerControlGuardLocked P enabled) w = (ok, w')) :
    ∃ cpus, Trail r base w'
        (s.next (.powerControl (if enabled then .setGuard else .clearGuard) cpus)) ∧
      w'.log = ⟨.powerControl (if enabled then .setGuard else .clearGuard) cpus, w.driver⟩ :: w.log ∧
      HWPDetection w.driver w'.driver ∧ w'.driver.hwp = w.driver.hwp := by
  obtain ⟨operation, cpus, rfl, hlog, hdriver, hhwp, -⟩ := setPowerControlGuardLocked_spec P hexec
  refine ⟨cpus, ?_, hlog, hdriver, hhwp⟩
  refine (h.logged (.powerControl (if enabled then .setGuard else .clearGuard) cpus) ?_).congr hlog
  refine ⟨False.elim, False.elim, ?_⟩
  intro cleared he
  cases enabled with
  | false => exact hclear rfl
  | true => simp at he

/-! ## The restore -/

/-- The trace of `restoreLimitsLocked`: a read of the package limit, and a write
between two of them only if HWP is restored. -/
def LimitsTrace (hwpRestored : Bool) (captured : U64) (trace : List Entry) : Prop :=
  (∃ current, trace.map (·.event) = [.rdmsr msrPackagePowerLimit current]) ∨
    hwpRestored = true ∧ ∃ current readback, trace.map (·.event) =
      [.rdmsr msrPackagePowerLimit readback,
        .wrmsr msrPackagePowerLimit (captured &&& ~~~raplLock),
        .rdmsr msrPackagePowerLimit current]

/-- The trace of `restoreLocked` of the capture in `w`: a set of the guard, then
what `restoreHWPLocked` does, then the package limit. -/
def RestoreTrace (w : World) (trace : List Entry) : Prop :=
  ∃ set guardRestored hwp hwpRestored limits w₁ w₂,
    trace = limits ++ hwp ++ [set] ∧
    (∃ cpus, set.event = .powerControl .setGuard cpus) ∧
    (exec (setPowerControlGuardLocked P true) w.fired = (guardRestored, w₁) ∧
      w₁.log = set :: w.log) ∧
    (exec (restoreHWPLocked P) w₁ = (hwpRestored, w₂) ∧ w₂.log = hwp ++ w₁.log ∧
      ∀ e ∈ hwp, HWPAccess e) ∧
    LimitsTrace hwpRestored w.driver.capturedPackageLimit limits

/-- A restore of HWP obeys the rule if it raises nothing, or the requested limits
are in force. -/
theorem Trail.restoreHWP (h : Trail r base w s)
    (hsafe : RestoreSafe w.driver.hwp ∨ s.InForce w.driver r.pl1MW r.pl2MW) {ok : Bool}
    (hexec : exec (restoreHWPLocked P) w = (ok, w')) :
    Frame HWPMembers HWPAccess w w' ∧ ∃ s', Trail r base w' s' := by
  have hpackage : HWPAccess
      ⟨.wrmsr msrHWPPackageRequest w.driver.hwp.capturedPackageRequest, w.driver⟩ := by
    refine ⟨?_, ?_⟩
    · show msrHWPPackageRequest ≠ msrPackagePowerLimit
      decide
    · show msrHWPPackageRequest ≠ msrHWPEnable
      decide
  have hframe : Frame HWPMembers HWPAccess w (exec (restoreHWPLocked P) w).2 :=
    frame_restoreHWPLocked P (fun _ he => he.hwpAccess) (fun _ _ => hpackage)
      fun _ _ _ => ⟨trivial, id⟩
  rcases hsafe with hsafe | hforce
  · -- no CPU is let above what is restrained, so no limit is needed
    have hrestrained : Frame HWPMembers Entry.Restrained w (exec (restoreHWPLocked P) w).2 := by
      apply frame_restoreHWPLocked P fun _ he => he
      · intro henabled hcaptured
        refine ⟨hpackage.1, hpackage.2, ?_⟩
        rintro ⟨-, hne | ⟨index, hpresent, hle⟩⟩
        · exact hne rfl
        · exact BitVec.not_lt.2 hle (hsafe henabled hcaptured index hpresent)
      · intro henabled hcaptured cpus
        refine ⟨trivial, id, ?_⟩
        rintro ⟨index, hpresent, hle | ⟨hne, -⟩⟩
        · exact BitVec.not_lt.2 hle (hsafe henabled hcaptured index hpresent)
        · exact hne rfl
    rw [hexec] at hframe hrestrained
    obtain ⟨s', -, h'⟩ := h.extend hrestrained (fun _ he => he.onHWP)
      fun _ _ _ _ he => rule_of_restrained he
    exact ⟨hframe, s', h'⟩
  · -- the requested limit is in force, so any write is allowed
    rw [hexec] at hframe
    obtain ⟨s', -, h'⟩ := h.extend hframe (fun _ he => he.1) fun s' e hs' hd he =>
      rule_of_inForce he.1 he.2 (hforce.mono hs' (by rw [hd.eq]))
    exact ⟨hframe, s', h'⟩

theorem Trail.restoreLimits (h : Trail r base w s) {hwpRestored ok : Bool}
    (hexec : exec (restoreLimitsLocked P hwpRestored) w = (ok, w')) :
    ∃ s' trace, Trail r base w' s' ∧ w'.log = trace ++ w.log ∧
      LimitsTrace hwpRestored w.driver.capturedPackageLimit trace := by
  set current := P.rdmsr w.log msrPackagePowerLimit with hcurrent
  have hread := h.logged (.rdmsr msrPackagePowerLimit current) (rule_of_read trivial)
  rcases restoreLimitsLocked_cases P hexec with ⟨hrestored, -, readback, -, -, rfl⟩ | ⟨-, -, rfl⟩
  · set captured := w.driver.capturedPackageLimit &&& ~~~raplLock with hcaptured
    have hwrite := hread.logged (.wrmsr msrPackagePowerLimit captured)
      (rule_of_limit captured w.driver)
    have hreadback := hwrite.logged (.rdmsr msrPackagePowerLimit readback) (rule_of_read trivial)
    exact ⟨_, [⟨_, _⟩, ⟨_, _⟩, ⟨_, _⟩], hreadback, rfl, .inr ⟨hrestored, current, readback, rfl⟩⟩
  · exact ⟨_, [⟨_, _⟩], hread, rfl, .inl ⟨current, rfl⟩⟩

/-- The restore of a capture obeys the rule, and has the trace of one. -/
theorem Trail.restore (h : Trail r base w s) (hcaptured : w.driver.captured = true)
    (hsafe : RestoreSafe w.driver.hwp ∨ s.InForce w.driver r.pl1MW r.pl2MW)
    {reason : RestoreReason} {restored : Bool}
    (hexec : exec (restoreLocked P reason) w = (restored, w')) :
    ∃ s' trace, Trail r base w' s' ∧ w'.log = trace ++ w.log ∧ RestoreTrace P w trace := by
  rw [exec_restoreLocked, if_neg (by simp [hcaptured])] at hexec
  obtain ⟨guardRestored, w₁, hwpRestored, w₂, limitsRestored, w₃, hset, hhwp, hlimits, -,
    hreleased⟩ := restoreCapturedLocked_cases P hexec
  have hfired : Trail r base w.fired s := h.congr rfl
  obtain ⟨cpus, h₁, hlog₁, hdriver₁, hsame⟩ := hfired.guard P (by simp) hset
  have hsafe₁ : RestoreSafe w₁.driver.hwp ∨
      (s.next (.powerControl .setGuard cpus)).InForce w₁.driver r.pl1MW r.pl2MW := by
    rcases hsafe with hsafe | hforce
    · left
      rw [hsame]
      exact hsafe
    · right
      refine hforce.guard ?_ .setGuard cpus
      rw [hdriver₁.toHWPMembers.eq]
      rfl
  obtain ⟨hframe, s₂, h₂⟩ := h₁.restoreHWP P hsafe₁ hhwp
  obtain ⟨hwp, hlog₂, hhwpAccess⟩ :=
    (hframe.log.mono fun _ _ he => he.2 : Extends (fun _ e => HWPAccess e) w₁.log w₂.log).exists_append
  have hcapture : w₂.driver.capturedPackageLimit = w.driver.capturedPackageLimit :=
    hframe.driver.sameCore.capturedPackageLimit.trans
      hdriver₁.toHWPMembers.sameCore.capturedPackageLimit
  obtain ⟨s₃, limits, h₃, hlog₃, hlimitsTrace⟩ := h₂.restoreLimits P hlimits
  refine ⟨s₃, limits ++ hwp ++ [_], h₃.congr hreleased.log, ?_,
    ⟨_, guardRestored, hwp, hwpRestored, limits, w₁, w₂, rfl, ⟨cpus, rfl⟩, ⟨hset, hlog₁⟩,
      ⟨hhwp, hlog₂, hhwpAccess⟩, hcapture ▸ hlimitsTrace⟩⟩
  rw [hreleased.log, hlog₃, hlog₂, hlog₁]
  simp [World.fired]

/-! ## From the capture on -/

/-- Nothing past the capture takes it back. -/
theorem armCaptured_captured {request : LimitRequest} {capture : ArmCapture} {exit : Exit}
    (hexec : exec (armCaptured P request capture) w = (exit, w')) : w'.driver.captured = true := by
  obtain ⟨installed, w₁, hinstall, hinstalled⟩ := armCaptured_cases P hexec
  have hkeeps : Keeps (Frame SameCore fun _ => True)
      (armInstall P request capture.hwpWasEnabled) :=
    keeps_armInstall P (fun _ _ => trivial) (fun _ _ => trivial) _ _
  have hcaptured₁ : w₁.driver.captured = true := (hkeeps.rel hinstall).driver.captured
  rcases hinstalled with ⟨-, -, rfl⟩ | ⟨-, applied, w₂, happly, happlied⟩
  · exact hcaptured₁
  have hdriver₂ := ((keeps_applyHWPMaximumLocked_onHWP P request.hwpMode).rel happly).driver
  have hcaptured₂ : w₂.driver.captured = true := hdriver₂.sameCore.captured.trans hcaptured₁
  rcases happlied with ⟨-, -, rfl⟩ | ⟨-, cleared, w₃, hclear, hcleared⟩
  · exact hcaptured₂
  obtain ⟨_, _, _, _, hdriver₃, -⟩ := setPowerControlGuardLocked_spec P hclear
  have hcaptured₃ : w₃.driver.captured = true :=
    hdriver₃.toHWPMembers.sameCore.captured.trans hcaptured₂
  rcases hcleared with ⟨-, -, rfl⟩ | ⟨-, -, rfl⟩
  · exact hcaptured₃
  · exact hcaptured₃

/-- Past the capture `arm` obeys the rule; where it fails, its capture may be
restored under the rule. -/
theorem Trail.armCaptured (h : Trail r base w s) {capture : ArmCapture}
    (hrestricted : capture.hwpWasEnabled = true → RestoreSafe w.driver.hwp)
    (hidle : capture.hwpWasEnabled = false → w.driver.hwp.captured = false) {exit : Exit}
    (hexec : exec (Kext.armCaptured P r capture) w = (exit, w')) :
    ∃ s', Trail r base w' s' ∧ (exit = .done .success ∨
      exit = armFailed ∧
        (RestoreSafe w'.driver.hwp ∨ s'.InForce w'.driver r.pl1MW r.pl2MW)) := by
  obtain ⟨installed, w₁, hinstall, hinstalled⟩ := armCaptured_cases P hexec
  have hstore : Trail r base (capture.store w) s := h.congr rfl
  obtain ⟨s₁, h₁, hforce₁, hsafe₁⟩ := hstore.armInstall hrestricted hidle hinstall
  rcases hinstalled with ⟨hfailed, rfl, rfl⟩ | ⟨hok, applied, w₂, happly, happlied⟩
  · exact ⟨s₁, h₁, .inr ⟨rfl, .inl (hsafe₁ hfailed)⟩⟩
  obtain ⟨s₂, h₂, hforce₂, hread₂⟩ := h₁.apply P (hforce₁ hok) happly
  rcases happlied with ⟨-, rfl, rfl⟩ | ⟨hok, cleared, w₃, hclear, hcleared⟩
  · exact ⟨s₂, h₂, .inr ⟨rfl, .inr hforce₂⟩⟩
  obtain ⟨cpus, h₃, -, hdriver₃, -⟩ := h₂.guard P (fun _ => hread₂ hok) hclear
  rcases hcleared with ⟨-, rfl, rfl⟩ | ⟨-, rfl, rfl⟩
  · refine ⟨_, h₃, .inr ⟨rfl, .inr ?_⟩⟩
    exact hforce₂.guard (by rw [hdriver₃.toHWPMembers.eq]) _ cpus
  · -- the heartbeat is the last event
    obtain ⟨e, hlast, he⟩ : ∃ e : Entry, (armed P r w₃).log = e :: w₃.log ∧ Reads e := by
      refine ⟨_, rfl, ?_⟩
      trivial
    obtain ⟨trace, hlog, hordered, -⟩ := h₃
    refine ⟨_, ⟨e :: trace, ?_, ⟨rule_of_read he, hordered⟩, rfl⟩, .inl rfl⟩
    rw [hlast, hlog, List.cons_append]

/-! ## Between calls -/

/-- Without a capture there is none of HWP either. -/
def Idle (w : World) : Prop := w.driver.captured = false → w.driver.hwp.captured = false

theorem Idle.frame {K : Entry → Prop} (hw : Idle w) (h : Frame HWPDetection K w w') : Idle w' := by
  intro hcaptured
  rw [h.driver.captured]
  exact hw (h.driver.toHWPMembers.sameCore.captured.symm.trans hcaptured)

theorem idle_of_captured (h : w.driver.captured = true) : Idle w := by
  intro hcaptured
  exact absurd h (by simp [hcaptured])

theorem restoreLocked_idle (hw : Idle w) {reason : RestoreReason} {restored : Bool}
    (hexec : exec (restoreLocked P reason) w = (restored, w')) : Idle w' := by
  intro _
  rw [exec_restoreLocked] at hexec
  split at hexec
  · rename_i hcaptured
    obtain ⟨w₁, hframe, hreleased⟩ :=
      @restorePassiveLocked_cases P reason w.fired w' restored hcaptured hexec
    exact hreleased.hwpCaptured (.inl (hframe.driver.captured.trans (hw hcaptured)))
  · rename_i hcaptured
    rw [Bool.not_eq_false] at hcaptured
    obtain ⟨_, w₁, _, w₂, _, w₃, hset, hhwp, hlimits, -, hreleased⟩ :=
      restoreCapturedLocked_cases P hexec
    obtain ⟨_, _, _, _, hdriver₁, -⟩ := setPowerControlGuardLocked_spec P hset
    have hdriver₂ := ((keeps_restoreHWPLocked_onHWP P).rel hhwp).driver
    have hdriver₃ : Frame Eq (fun _ => True) w₂ w₃ :=
      (keeps_restoreLimitsLocked P (fun _ _ => trivial) (fun _ _ => trivial) _).rel hlimits
    refine hreleased.hwpCaptured (.inr ?_)
    rw [← hdriver₃.driver, hdriver₂.sameCore.captured, hdriver₁.toHWPMembers.sameCore.captured]
    exact hcaptured

theorem exit_idle (op : Op) (hw : Idle w) {exit : Exit}
    (h : exec (op.exit P) w = (exit, w')) : Idle w' := by
  cases op with
  | arm request =>
      change exec (armExit P request) w = _ at h
      rcases armExit_cases P request w with ⟨code, w₁, hexec, hrefused⟩ |
        ⟨r, capture, w₀, w₁, -, -, -, -, -, -, -, hexec⟩
      · rw [hexec] at h
        obtain ⟨-, rfl⟩ := Prod.mk.inj h
        intro hcaptured
        exact hrefused.idle (hw (hrefused.frame.driver.captured.symm.trans hcaptured))
      · rw [hexec] at h
        exact idle_of_captured (armCaptured_captured P h)
  | update request =>
      rcases updateExit_cases P h with ⟨-, -, rfl⟩ | ⟨hopen, hcases⟩
      · exact hw
      rcases hcases with ⟨-, hframe⟩ | ⟨r, w₁, installed, w₂, hframe, hinstall, hinstalled⟩
      · exact hw.frame hframe
      -- an update is of an armed driver, which has captured
      have hkeeps : Keeps (Frame SameCore fun _ => True)
          (installLimitsLocked P r.pl1MW r.pl2MW) :=
        keeps_installLimitsLocked P (fun _ _ => trivial) (fun _ _ => trivial) _ _
      have hcaptured : w₂.driver.captured = true :=
        (hkeeps.rel hinstall).driver.captured.trans
          (hframe.driver.toHWPMembers.sameCore.captured.trans hopen.1)
      rcases hinstalled with ⟨-, -, rfl⟩ | ⟨-, -, rfl⟩
      · exact idle_of_captured hcaptured
      · exact idle_of_captured hcaptured
  | disarm request =>
      change exec (disarmExit request) w = _ at h
      unfold disarmExit at h
      rw [exec_bind, exec_getDriver] at h
      cases request with
      | none =>
          obtain ⟨-, rfl⟩ := Prod.mk.inj h
          exact hw
      | some request =>
          rcases exec_ite_cases h with ⟨-, h⟩ | ⟨-, h⟩
          · obtain ⟨-, rfl⟩ := Prod.mk.inj h
            exact hw
          · obtain ⟨-, rfl⟩ := Prod.mk.inj h
            exact hw
  | invalidClientCommand =>
      obtain ⟨-, rfl⟩ := Prod.mk.inj h
      exact hw
  | clientDisconnected =>
      obtain ⟨-, rfl⟩ := Prod.mk.inj h
      exact hw
  | watchdogFired =>
      have hfired : Idle w.fired := hw
      rcases watchdogFiredExit_cases P h with ⟨-, hcases⟩ | ⟨-, rfl, hcases⟩
      · -- armed
        rcases hcases with ⟨-, hframe⟩ | ⟨-, w₁, hframe, rfl⟩
        · exact hfired.frame hframe
        · have hidle : Idle w₁ := hfired.frame hframe
          exact hidle
      · -- Passive
        rcases hcases with ⟨-, hpassive⟩ | ⟨-, rfl⟩
        · obtain ⟨-, w₁, state, reason, hframe, -, rfl⟩ := watchdogPassive_cases P hpassive
          have hidle : Idle w₁ := hfired.frame hframe
          exact hidle
        · exact hfired

theorem after_idle (op : Op) (hw : Idle w) : Idle (op.after P w) := by
  have hfinish : ∀ w', Idle w' → Idle (exec op.finish w').2 := by
    intro w' hw'
    rw [exec_finish]
    exact hw'
  rw [after_eq]
  apply hfinish
  generalize hexit : exec (op.exit P) w = x
  obtain ⟨exit, w'⟩ := x
  have hw' := exit_idle P op hw hexit
  cases exit with
  | done code => exact hw'
  | restore reason onRestored onFailed =>
      rw [exec_leave_restore]
      generalize hrestore : exec (restoreLocked P reason) w' = x
      obtain ⟨restored, w''⟩ := x
      exact restoreLocked_idle P hw' hrestore

/-! ## Every `arm` -/

/-- Every `arm`, after any run, is refused and has only read, or the events of its
trace come in the order of the rule; it succeeds then, or it fails past the
capture, and what follows is the trace of a restore. -/
theorem arm_ordered (ops : List Op) (request : Option LimitRequest) :
    let w := run P ops (started P)
    let result := exec (arm P request) w
    ∃ trace, result.2.log = trace ++ w.log ∧
      ((result.1 ≠ .success ∧ result.1 ≠ .error ∧ ∀ e ∈ trace, Reads e) ∨
        ∃ r, request = some r ∧ Ordered r trace ∧
          (result.1 = .success ∨ result.1 = .error ∧ ∃ before after w₁,
            trace = after ++ before ∧ exec (armExit P request) w = (armFailed, w₁) ∧
              w₁.log = before ++ w.log ∧ RestoreTrace P w₁ after)) := by
  intro w result
  have hidle : Idle w := by
    refine run_invariant P (fun op _ => after_idle P op) ops ?_
    intro _
    exact (started_spec P).1.hwpCaptured
  have hresult : result = exec (leave P (exec (armExit P request) w).1)
      (exec (armExit P request) w).2 := rfl
  clear_value result
  subst hresult
  rcases armExit_cases P request w with ⟨code, w', hexec, hrefused⟩ |
    ⟨r, capture, w₀, w₁, rfl, -, hcaptured, -, hframe₀, hframe₁, hcapture, hexec⟩
  · -- refused: only reads
    obtain ⟨trace, hlog, hreads⟩ := (hrefused.log.mono fun _ _ he => he.2 :
      Extends (fun _ e => Reads e) w.log w'.log).exists_append
    rw [hexec]
    exact ⟨trace, hlog, .inl ⟨hrefused.code.1, hrefused.code.2, hreads⟩⟩
  -- captured: the trail goes on through the installation
  obtain ⟨s₀, -, h₀⟩ := (trail_nil : Trail r w.log w Seen.none).reads hframe₀
  obtain ⟨s₁, -, h₁⟩ := h₀.reads hframe₁
  have hrestricted : capture.hwpWasEnabled = true → RestoreSafe w₁.driver.hwp := fun henabled =>
    restoreSafe_of_restricted (hcapture.restricted henabled)
  have hnone : capture.hwpWasEnabled = false → w₁.driver.hwp.captured = false := by
    intro hdisabled
    rw [hcapture.idle hdisabled, ← hframe₀.driver]
    exact hidle hcaptured
  generalize harm : exec (armCaptured P r capture) w₁ = x at hexec
  obtain ⟨exit, w₂⟩ := x
  obtain ⟨s₂, h₂, hexit⟩ := h₁.armCaptured P hrestricted hnone harm
  rw [hexec]
  rcases hexit with rfl | ⟨rfl, hsafe⟩
  · obtain ⟨trace, hlog, hordered, -⟩ := h₂
    exact ⟨trace, hlog, .inr ⟨r, rfl, hordered, .inl rfl⟩⟩
  · -- the installation has failed: `leave` restores
    generalize hrestore : exec (restoreLocked P .readbackMismatch) w₂ = x
    obtain ⟨restored, w₃⟩ := x
    obtain ⟨s₃, after, ⟨trace, hlog, hordered, -⟩, hafter, hrestoreTrace⟩ :=
      h₂.restore P (armCaptured_captured P harm) hsafe hrestore
    obtain ⟨before, hbefore, -⟩ := h₂
    have hleave : exec (leave P armFailed) w₂ = (.error, w₃) := by
      show ((if (exec (restoreLocked P .readbackMismatch) w₂).1 then IOReturn.error else .error),
        (exec (restoreLocked P .readbackMismatch) w₂).2) = _
      rw [hrestore, ite_self]
    rw [hleave]
    refine ⟨trace, hlog, .inr ⟨r, rfl, hordered, .inr ⟨rfl, before, after, w₂, ?_, rfl, hbefore,
      hrestoreTrace⟩⟩⟩
    have happend : trace ++ w.log = (after ++ before) ++ w.log := by
      rw [← hlog, hafter, hbefore, List.append_assoc]
    exact List.append_cancel_right happend

end

end TurboMac.Kext
