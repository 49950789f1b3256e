import TurboMac.Kext.Frames
import TurboMac.Kext.Rendezvous

/-! # What each call does

One statement for each function whose result the operations go by, and the two
ways `arm` can go: it is refused before the capture, or goes on with one.
-/

namespace TurboMac.Kext

open Program

/-- Only reads. -/
abbrev Reads : Entry → Prop := fun e => e.event.IsRead

/-- Only reads and HWP writes. -/
abbrev OnHWP : Entry → Prop := fun e => e.event.IsHWP

theorem Entry.Restrained.onHWP {e : Entry} (h : e.Restrained) : OnHWP e := h.1

theorem Event.IsEnable.onHWP {e : Entry} (h : e.event.IsEnable) : OnHWP e := by
  unfold OnHWP Event.IsHWP
  cases he : e.event with
  | wrmsr msr value =>
      have hmsr : msr = msrHWPEnable := by simpa [he, Event.IsEnable] using h
      simp only [hmsr]
      decide
  | powerControl => simp [he, Event.IsEnable] at h
  | rdmsr | hwpEnable | hwpRequest | cpuid | machAbsoluteTime => trivial

section

variable (P : Platform)

/-! ## The guard -/

/-- A set or clear of the guard is one rendezvous. -/
theorem setPowerControlGuardLocked_spec {enabled : Bool} {w w' : World} {ok : Bool}
    (h : exec (setPowerControlGuardLocked P enabled) w = (ok, w')) :
    ∃ operation cpus, operation = (if enabled then .setGuard else .clearGuard) ∧
      w'.log = ⟨.powerControl operation cpus, w.driver⟩ :: w.log ∧
      HWPDetection w.driver w'.driver ∧ w'.driver.hwp = w.driver.hwp ∧
      (ok = true ↔ GuardReads operation cpus enabled ∧ cpus.length ≤ maximumLogicalCPUs) := by
  set operation : PowerControlOperation := if enabled then .setGuard else .clearGuard with hop
  set cpus := P.powerControl w.log operation with hcpus
  set b := cpus.foldl powerControlOnCPU ⟨0, 0, operation, fun _ => 0⟩ with hb
  have hstart : exec (rendezvousPowerControl P operation) w =
      (b, ⟨w.driver, ⟨.powerControl operation cpus, w.driver⟩ :: w.log⟩) := rfl
  have hsame : HWPDetection w.driver w.driver := refl_of HWPDetection w.driver
  refine ⟨operation, cpus, rfl, ?_⟩
  unfold setPowerControlGuardLocked at h
  rw [exec_bind, ← hop, hstart] at h
  rcases exec_ite_cases h with ⟨hcomplete, h⟩ | ⟨hcomplete, h⟩
  · obtain ⟨rfl, rfl⟩ := Prod.mk.inj h
    refine ⟨rfl, hsame, rfl, by simp, ?_⟩
    rintro ⟨hreads, hlength⟩
    simp [(all_of_guardReads hb hreads hlength).1] at hcomplete
  rcases exec_ite_cases h with ⟨hall, h⟩ | ⟨hall, h⟩
  · obtain ⟨rfl, rfl⟩ := Prod.mk.inj h
    refine ⟨rfl, hsame, rfl, by simp, ?_⟩
    rintro ⟨hreads, hlength⟩
    simp [(all_of_guardReads hb hreads hlength).2] at hall
  simp only [Bool.not_eq_true', Bool.not_eq_false] at hcomplete hall
  obtain ⟨rfl, rfl⟩ := Prod.mk.inj h
  exact ⟨rfl, ⟨⟨rfl, id⟩, rfl⟩, rfl, fun _ => guardReads_of_all hb hcomplete hall, fun _ => rfl⟩

/-- The frame of a set or clear of the guard. -/
theorem keeps_setPowerControlGuardLocked {K : Entry → Prop} (enabled : Bool)
    (hK : ∀ cpus d, K ⟨.powerControl (if enabled then .setGuard else .clearGuard) cpus, d⟩) :
    Keeps (Frame HWPDetection K) (setPowerControlGuardLocked P enabled) := by
  intro w
  generalize hexec : exec (setPowerControlGuardLocked P enabled) w = r
  obtain ⟨ok, w'⟩ := r
  obtain ⟨operation, cpus, hoperation, hlog, hdriver, -⟩ := setPowerControlGuardLocked_spec P hexec
  refine ⟨hdriver, ?_⟩
  dsimp only
  rw [hlog, hoperation]
  exact .single ⟨refl_of HWPDetection w.driver, hK cpus w.driver⟩

theorem readPowerControlLocked_spec {w w' : World} {guard : PowerControlRead}
    (h : exec (readPowerControlLocked P) w = (guard, w')) :
    ∃ cpus, w'.log = ⟨.powerControl .read cpus, w.driver⟩ :: w.log ∧
      (guard.ok = true → guard.allEnabled = true → GuardReads .read cpus true) := by
  set cpus := P.powerControl w.log .read with hcpus
  set b := cpus.foldl powerControlOnCPU ⟨0, 0, .read, fun _ => 0⟩ with hb
  have hstart : exec (rendezvousPowerControl P .read) w =
      (b, ⟨w.driver, ⟨.powerControl .read cpus, w.driver⟩ :: w.log⟩) := rfl
  refine ⟨cpus, ?_⟩
  unfold readPowerControlLocked at h
  rw [exec_bind, hstart] at h
  rcases exec_ite_cases h with ⟨-, h⟩ | ⟨hcomplete, h⟩
  · obtain ⟨rfl, rfl⟩ := Prod.mk.inj h
    exact ⟨rfl, by simp⟩
  simp only [Bool.not_eq_true', Bool.not_eq_false] at hcomplete
  obtain ⟨rfl, rfl⟩ := Prod.mk.inj h
  exact ⟨rfl, fun _ hall => (guardReads_of_all hb hcomplete hall).1⟩

/-! ## The package limit -/

theorem exec_verifyLimitsLocked (expected : U64) (w : World) :
    exec (verifyLimitsLocked P expected) w =
      (limitsMatch (P.rdmsr w.log msrPackagePowerLimit) expected,
        w.logged (.rdmsr msrPackagePowerLimit (P.rdmsr w.log msrPackagePowerLimit))) := rfl

/-- `installLimitsLocked` past its checks: the new limits are written, and read back. -/
structure Installed (pl1MW pl2MW : U32) (w : World) (ok : Bool) (w' : World)
    (current requested readback : U64) : Prop where
  accepted : limitsRefused w.driver current (raplMWToRaw pl1MW w.driver.powerExponent)
    (raplMWToRaw pl2MW w.driver.powerExponent) = false
  current_eq : current = P.rdmsr w.log msrPackagePowerLimit
  requested_eq : requested = raplWithPowerLimits current
    (raplMWToRaw pl1MW w.driver.powerExponent) (raplMWToRaw pl2MW w.driver.powerExponent)
  ok_eq : ok = limitsMatch readback requested
  log : w'.log = (((w.logged (.rdmsr msrPackagePowerLimit current)).logged
    (.wrmsr msrPackagePowerLimit requested)).logged (.rdmsr msrPackagePowerLimit readback)).log
  driver : w'.driver = { w.driver with
    expectedPackageLimit := w'.driver.expectedPackageLimit
    appliedPL1MW := w'.driver.appliedPL1MW
    appliedPL2MW := w'.driver.appliedPL2MW }
  expected : ok = true → w'.driver.expectedPackageLimit = requested

theorem installLimitsLocked_cases (pl1MW pl2MW : U32) (w : World) {ok : Bool} {w' : World}
    (h : exec (installLimitsLocked P pl1MW pl2MW) w = (ok, w')) :
    (ok = false ∧ ∃ current, w' = w.logged (.rdmsr msrPackagePowerLimit current)) ∨
      ∃ current requested readback, Installed P pl1MW pl2MW w ok w' current requested readback := by
  set current := P.rdmsr w.log msrPackagePowerLimit with hcurrent
  set requested := raplWithPowerLimits current (raplMWToRaw pl1MW w.driver.powerExponent)
    (raplMWToRaw pl2MW w.driver.powerExponent) with hrequested
  set w₁ := (w.logged (.rdmsr msrPackagePowerLimit current)).logged
    (.wrmsr msrPackagePowerLimit requested) with hw₁
  have hstart : exec (rdmsr64 P msrPackagePowerLimit) w =
      (current, w.logged (.rdmsr msrPackagePowerLimit current)) := rfl
  have hwrite : exec (wrmsr64 msrPackagePowerLimit requested)
      (w.logged (.rdmsr msrPackagePowerLimit current)) = ((), w₁) := rfl
  unfold installLimitsLocked at h
  rw [exec_bind, hstart, exec_bind, exec_getDriver, exec_ite] at h
  split at h
  · obtain ⟨rfl, rfl⟩ := Prod.mk.inj h
    exact .inl ⟨rfl, current, rfl⟩
  rename_i haccepted
  rw [Bool.not_eq_true] at haccepted
  rw [exec_bind] at h
  change exec _ w₁ = (ok, w') at h
  rw [exec_bind, exec_verifyLimitsLocked, exec_ite] at h
  right
  refine ⟨current, requested, P.rdmsr w₁.log msrPackagePowerLimit, ?_⟩
  split at h
  · rename_i hmatch
    rw [Bool.not_eq_true'] at hmatch
    obtain ⟨rfl, rfl⟩ := Prod.mk.inj h
    exact ⟨haccepted, rfl, rfl, hmatch.symm, rfl, rfl, by simp⟩
  · rename_i hmatch
    rw [Bool.not_eq_true', Bool.not_eq_false] at hmatch
    obtain ⟨rfl, rfl⟩ := Prod.mk.inj h
    exact ⟨haccepted, rfl, rfl, hmatch.symm, rfl, rfl, fun _ => rfl⟩

theorem keeps_installLimitsLocked {K : Entry → Prop} (hK : ∀ e : Entry, e.event.IsRead → K e)
    (hlimit : ∀ value d, K ⟨.wrmsr msrPackagePowerLimit value, d⟩) (pl1MW pl2MW : U32) :
    Keeps (Frame SameCore K) (installLimitsLocked P pl1MW pl2MW) := by
  refine (keeps_rdmsr64 P hK _).bind fun current => keeps_getDriver.bind fun d => ?_
  refine Keeps.ite (keeps_pure _) (Keeps.bind ?_ fun _ => ?_)
  · intro w
    exact ⟨refl_of SameCore w.driver, .single ⟨refl_of SameCore w.driver, hlimit _ _⟩⟩
  refine (keeps_verifyLimitsLocked P hK _).bind fun _ => Keeps.ite (keeps_pure _) ?_
  refine Keeps.bind (keeps_assign ?_) fun _ => keeps_pure _
  intro d
  exact ⟨rfl, rfl, rfl, rfl, rfl⟩

/-! ## HWP -/

theorem keeps_applyHWPMaximumLocked_onHWP (mode : U32) :
    Keeps (Frame HWPMembers OnHWP) (applyHWPMaximumLocked P mode) :=
  keeps_applyHWPMaximumLocked P (fun _ he _ => he) mode

theorem keeps_restoreHWPLocked_onHWP : Keeps (Frame HWPMembers OnHWP) (restoreHWPLocked P) := by
  intro w
  apply frame_restoreHWPLocked P fun _ he => he.onHWP
  · intro _ _
    show msrHWPPackageRequest ≠ msrPackagePowerLimit
    decide
  · intro _ _ _
    trivial

/-! ## `arm` -/

theorem keeps_armCheck (request : LimitRequest) :
    Keeps (Frame HWPMembers Reads) (armCheck P request) := by
  have hK : ∀ e : Entry, e.event.IsRead → Reads e := fun _ he => he
  refine (keeps_rdmsr64 P hK _).bind fun packageLimit => ?_
  refine (keeps_hwpMembers (keeps_readPowerControlLocked P hK)).bind fun guard => ?_
  refine keeps_getHWP.bind fun hwp => Keeps.bind (Keeps.ite ?_ (keeps_pure _)) fun _ => ?_
  · exact (keeps_hwpMembers (keeps_initializeHWPLocked P hK)).bind fun _ => keeps_pure _
  refine keeps_getHWP.bind fun hwp => Keeps.ite (keeps_pure _) (Keeps.ite ?_ (keeps_pure _))
  refine (keeps_captureHWPStateLocked P hK).bind fun captured => ?_
  refine keeps_getHWP.bind fun hwp => Keeps.ite ?_ (keeps_pure _)
  exact (keeps_assignHWP (by simp)).bind fun _ => keeps_pure _

/-- What a capture relies on. -/
structure Capturable (w : World) (capture : ArmCapture) (w' : World) : Prop where
  packageLimit : capture.packageLimit = P.rdmsr w.log msrPackagePowerLimit
  unlocked : raplLocked capture.packageLimit = false
  restricted : capture.hwpWasEnabled = true → hwpMaximumRestricted w'.driver.hwp = true
  idle : capture.hwpWasEnabled = false → w'.driver.hwp.captured = w.driver.hwp.captured

theorem armCheck_some {request : LimitRequest} {w w' : World} {capture : ArmCapture}
    (h : exec (armCheck P request) w = (some capture, w')) : Capturable P w capture w' := by
  have hK : ∀ e : Entry, e.event.IsRead → Reads e := fun _ he => he
  set packageLimit := P.rdmsr w.log msrPackagePowerLimit with hlimit
  have hstart : exec (rdmsr64 P msrPackagePowerLimit) w =
      (packageLimit, w.logged (.rdmsr msrPackagePowerLimit packageLimit)) := rfl
  have hguard := keeps_readPowerControlLocked P hK
    (w.logged (.rdmsr msrPackagePowerLimit packageLimit))
  unfold armCheck at h
  rw [exec_bind, hstart, exec_bind] at h
  generalize exec (readPowerControlLocked P)
    (w.logged (.rdmsr msrPackagePowerLimit packageLimit)) = r at h hguard
  obtain ⟨guard, w₁⟩ := r
  dsimp only at h hguard
  rw [exec_bind, exec_getHWP, exec_bind] at h
  -- HWP is looked for again if it was not enabled before
  have hdetect : Frame HWPDetection Reads w₁ (exec (doIf (!w₁.driver.hwp.enabled)
      (discard (initializeHWPLocked P))) w₁).2 := by
    refine Keeps.ite ?_ (keeps_pure _) w₁
    exact (keeps_initializeHWPLocked P hK).bind fun _ => keeps_pure _
  generalize exec (doIf (!w₁.driver.hwp.enabled) (discard (initializeHWPLocked P))) w₁ = r
    at h hdetect
  obtain ⟨_, w₂⟩ := r
  dsimp only at h hdetect
  rw [exec_bind, exec_getHWP] at h
  dsimp only at h
  rcases exec_ite_cases h with ⟨-, h⟩ | ⟨hpermitted, h⟩
  · exact absurd (Prod.mk.inj h).1 (by simp)
  simp only [Bool.or_eq_true, not_or, Bool.not_eq_true] at hpermitted
  -- the limit register is not locked
  have hunlocked : raplLocked packageLimit = false := hpermitted.1.1.1.1.1.1
  rcases exec_ite_cases h with ⟨henabled, h⟩ | ⟨hdisabled, h⟩
  · -- HWP is enabled: its state is captured, and has to be restricted
    rw [exec_bind] at h
    generalize exec (captureHWPStateLocked P) w₂ = r at h
    obtain ⟨captured, w₃⟩ := r
    dsimp only at h
    rw [exec_bind, exec_getHWP] at h
    rcases exec_ite_cases h with ⟨-, h⟩ | ⟨hrestricted, h⟩
    · exact absurd (Prod.mk.inj h).1 (by simp)
    simp only [Bool.or_eq_true, not_or, Bool.not_eq_true', Bool.not_eq_false] at hrestricted
    obtain ⟨hcapture, rfl⟩ := Prod.mk.inj h
    obtain rfl := Option.some.inj hcapture
    exact ⟨rfl, hunlocked, fun _ => hrestricted.2, fun hdisabled => by simp [henabled] at hdisabled⟩
  · obtain ⟨hcapture, rfl⟩ := Prod.mk.inj h
    obtain rfl := Option.some.inj hcapture
    refine ⟨rfl, hunlocked, fun henabled => absurd henabled hdisabled, fun _ => ?_⟩
    exact hdetect.driver.captured.trans hguard.driver.captured

theorem keeps_armInstall {K : Entry → Prop} (hK : ∀ e : Entry, OnHWP e → K e)
    (hlimit : ∀ value d, K ⟨.wrmsr msrPackagePowerLimit value, d⟩) (request : LimitRequest)
    (hwpWasEnabled : Bool) : Keeps (Frame SameCore K) (armInstall P request hwpWasEnabled) := by
  have hread : ∀ e : Entry, e.event.IsRead → K e := fun e he => hK e he.isHWP
  have hinstall := keeps_installLimitsLocked P hread hlimit
  have hbootstrap : Keeps (Frame SameCore K) (bootstrapHWPLocked P) :=
    keeps_sameCore (keeps_bootstrapHWPLocked P (fun e he => hK e he.onHWP)
      fun e he => hK e he.onHWP)
  refine keeps_getDriver.bind fun d => ?_
  refine (keeps_validateRequestLocked P hread _ _).bind fun _ => Keeps.ite (keeps_pure _) ?_
  refine (hinstall _ _).bind fun _ => Keeps.ite (keeps_pure _) (Keeps.ite (keeps_pure _) ?_)
  refine hbootstrap.bind fun _ => Keeps.ite (keeps_pure _) ?_
  exact Keeps.ite (keeps_pure _) (hinstall _ _)

/-- A check that fails after the HWP capture drops it. -/
theorem armCheck_none {request : LimitRequest} {w w' : World}
    (h : exec (armCheck P request) w = (none, w')) (hidle : w.driver.hwp.captured = false) :
    w'.driver.hwp.captured = false := by
  have hK : ∀ e : Entry, e.event.IsRead → Reads e := fun _ he => he
  have hlimit : Frame HWPDetection Reads w (exec (rdmsr64 P msrPackagePowerLimit) w).2 :=
    keeps_rdmsr64 P hK _ w
  unfold armCheck at h
  rw [exec_bind] at h
  generalize exec (rdmsr64 P msrPackagePowerLimit) w = r at h hlimit
  obtain ⟨packageLimit, w₁⟩ := r
  dsimp only at h hlimit
  rw [exec_bind] at h
  have hguard := trans_of _ hlimit (keeps_readPowerControlLocked P hK w₁)
  generalize exec (readPowerControlLocked P) w₁ = r at h hguard
  obtain ⟨guard, w₂⟩ := r
  dsimp only at h hguard
  rw [exec_bind, exec_getHWP, exec_bind] at h
  have hdetect : Frame HWPDetection Reads w (exec (doIf (!w₂.driver.hwp.enabled)
      (discard (initializeHWPLocked P))) w₂).2 := by
    refine trans_of _ hguard (Keeps.ite ?_ (keeps_pure _) w₂)
    exact (keeps_initializeHWPLocked P hK).bind fun _ => keeps_pure _
  generalize exec (doIf (!w₂.driver.hwp.enabled) (discard (initializeHWPLocked P))) w₂ = r
    at h hdetect
  obtain ⟨_, w₃⟩ := r
  dsimp only at h hdetect
  have hidle₃ : w₃.driver.hwp.captured = false := hdetect.driver.captured.trans hidle
  rw [exec_bind, exec_getHWP] at h
  dsimp only at h
  rcases exec_ite_cases h with ⟨-, h⟩ | ⟨-, h⟩
  · obtain ⟨-, rfl⟩ := Prod.mk.inj h
    exact hidle₃
  rcases exec_ite_cases h with ⟨-, h⟩ | ⟨-, h⟩
  · rw [exec_bind, exec_bind, exec_getHWP] at h
    rcases exec_ite_cases h with ⟨-, h⟩ | ⟨-, h⟩
    · obtain ⟨-, rfl⟩ := Prod.mk.inj h
      rfl
    · exact absurd (Prod.mk.inj h).1 (by simp)
  · exact absurd (Prod.mk.inj h).1 (by simp)

/-- The world once `arm` has captured. -/
def ArmCapture.store (capture : ArmCapture) (w : World) : World :=
  { w with driver := { w.driver with
    capturedPackageLimit := capture.packageLimit
    capturedPowerControl := capture.powerControl
    ceilingPL1MW := raplRawToMW (raplPl1Raw capture.packageLimit) w.driver.powerExponent
    ceilingPL2MW := raplRawToMW (raplPl2Raw capture.packageLimit) w.driver.powerExponent
    captured := true } }

/-- The world once `arm` has succeeded. -/
def armed (request : LimitRequest) (w : World) : World :=
  let d := { w.driver with
    state := .armed
    restoreReason := .none
    lastSequence := request.sequence
    watchdogTimeoutMS := request.watchdogTimeoutMS }
  let now := P.machAbsoluteTime w.log
  { driver := { d with
      lastHeartbeat := now
      watchdog := d.watchdog.map fun _ => ⟨some watchdogPollMS⟩ }
    log := ⟨.machAbsoluteTime now, d⟩ :: w.log }

/-- The exit of an `arm` that failed past the capture. -/
def armFailed : Exit := .restore .readbackMismatch .error .error

/-- The four ways of `arm` past the capture: it fails in its limits, in HWP or in
the guard, and leaves the capture to `restoreLocked`, or it succeeds. -/
theorem armCaptured_cases {request : LimitRequest} {capture : ArmCapture} {w w' : World}
    {exit : Exit} (h : exec (armCaptured P request capture) w = (exit, w')) :
    ∃ installed w₁, exec (armInstall P request capture.hwpWasEnabled) (capture.store w) =
        (installed, w₁) ∧
      (installed = false ∧ exit = armFailed ∧ w' = w₁ ∨
      installed = true ∧ ∃ applied w₂,
        exec (applyHWPMaximumLocked P request.hwpMode) w₁ = (applied, w₂) ∧
        (applied = false ∧ exit = armFailed ∧ w' = w₂ ∨
        applied = true ∧ ∃ cleared w₃,
          exec (setPowerControlGuardLocked P false) w₂ = (cleared, w₃) ∧
          (cleared = false ∧ exit = armFailed ∧ w' = w₃ ∨
          cleared = true ∧ exit = .done .success ∧ w' = armed P request w₃))) := by
  unfold armCaptured at h
  rw [exec_bind] at h
  change exec _ (capture.store w) = _ at h
  rw [exec_bind] at h
  generalize exec (armInstall P request capture.hwpWasEnabled) (capture.store w) = r at h
  obtain ⟨installed, w₁⟩ := r
  refine ⟨installed, w₁, rfl, ?_⟩
  dsimp only at h
  rcases exec_ite_cases h with ⟨hinstalled, h⟩ | ⟨hinstalled, h⟩
  · obtain ⟨rfl, rfl⟩ := Prod.mk.inj h
    exact .inl ⟨by simpa using hinstalled, rfl, rfl⟩
  rw [exec_bind] at h
  generalize exec (applyHWPMaximumLocked P request.hwpMode) w₁ = r at h
  obtain ⟨applied, w₂⟩ := r
  refine .inr ⟨by simpa using hinstalled, applied, w₂, rfl, ?_⟩
  dsimp only at h
  rcases exec_ite_cases h with ⟨happlied, h⟩ | ⟨happlied, h⟩
  · obtain ⟨rfl, rfl⟩ := Prod.mk.inj h
    exact .inl ⟨by simpa using happlied, rfl, rfl⟩
  rw [exec_bind] at h
  generalize exec (setPowerControlGuardLocked P false) w₂ = r at h
  obtain ⟨cleared, w₃⟩ := r
  refine .inr ⟨by simpa using happlied, cleared, w₃, rfl, ?_⟩
  dsimp only at h
  rcases exec_ite_cases h with ⟨hcleared, h⟩ | ⟨hcleared, h⟩
  · obtain ⟨rfl, rfl⟩ := Prod.mk.inj h
    exact .inl ⟨by simpa using hcleared, rfl, rfl⟩
  · obtain ⟨rfl, rfl⟩ := Prod.mk.inj h
    exact .inr ⟨by simpa using hcleared, rfl, rfl⟩

/-- An `arm` that is refused has only read, and changed HWP members, the caches
and the reason at most. -/
structure Refused (w : World) (code : IOReturn) (w' : World) : Prop where
  code : code ≠ .success ∧ code ≠ .error
  driver : ∃ d, HWPMembers w.driver d ∧ w'.driver = { d with restoreReason := w'.driver.restoreReason }
  log : Extends (fun _ e => HWPMembers w.driver e.driver ∧ Reads e) w.log w'.log
  idle : w.driver.hwp.captured = false → w'.driver.hwp.captured = false

theorem Refused.frame {w w' : World} {code : IOReturn} (h : Refused w code w') :
    Frame SameCore Reads w w' := by
  refine ⟨?_, h.log.mono fun _ e he => ⟨he.1.sameCore, he.2⟩⟩
  obtain ⟨d, hd, hdriver⟩ := h.driver
  have hcore := hd.sameCore
  rw [hdriver]
  exact ⟨hcore.watchdog, hcore.supported, hcore.captured, hcore.state, hcore.capturedPackageLimit⟩

theorem armExit_cases (request : Option LimitRequest) (w : World) :
    (∃ code w', exec (armExit P request) w = (.done code, w') ∧ Refused w code w') ∨
    ∃ r capture w₀ w₁, request = some r ∧ w.driver.supported = true ∧ w.driver.captured = false ∧
      w.driver.state ≠ .armed ∧ Frame Eq Reads w w₀ ∧ Frame HWPMembers Reads w₀ w₁ ∧
      Capturable P w₀ capture w₁ ∧ exec (armExit P request) w = exec (armCaptured P r capture) w₁ := by
  have hK : ∀ e : Entry, e.event.IsRead → Reads e := fun _ he => he
  have hsame : HWPMembers w.driver w.driver := refl_of HWPMembers w.driver
  unfold armExit
  rw [exec_bind, exec_getDriver, exec_ite]
  split
  · exact .inl ⟨.unsupported, w, rfl, by decide, ⟨w.driver, hsame, rfl⟩, .refl, id⟩
  rename_i hsupported
  rw [exec_ite]
  split
  · exact .inl ⟨.busy, w, rfl, by decide, ⟨w.driver, hsame, rfl⟩, .refl, id⟩
  rename_i hbusy
  simp only [Bool.not_eq_true', Bool.not_eq_false] at hsupported
  simp only [Bool.or_eq_true, not_or, Bool.not_eq_true, beq_iff_eq] at hbusy
  -- what refuses a request up to here has changed nothing
  have hvalidate : Frame Eq Reads w (exec (validateRequestLocked P request true) w).2 :=
    keeps_validateRequestLocked P hK request true w
  rw [exec_bind]
  generalize exec (validateRequestLocked P request true) w = r at hvalidate
  obtain ⟨valid, w₀⟩ := r
  dsimp only at hvalidate ⊢
  have hdriver : w₀.driver = w.driver := hvalidate.driver.symm
  rw [exec_ite]
  split
  · refine .inl ⟨.badArgument, _, rfl, by decide, ⟨w.driver, hsame, ?_⟩, hvalidate.const.log, ?_⟩
    · exact congrArg (fun d : Driver => { d with restoreReason := .invalidRequest }) hdriver
    · exact fun hidle => (congrArg (fun d : Driver => d.hwp.captured) hdriver).trans hidle
  cases request with
  | none =>
      refine .inl ⟨.badArgument, _, rfl, by decide, ⟨w.driver, hsame, ?_⟩, hvalidate.const.log, ?_⟩
      · exact congrArg (fun d : Driver => { d with restoreReason := .invalidRequest }) hdriver
      · exact fun hidle => (congrArg (fun d : Driver => d.hwp.captured) hdriver).trans hidle
  | some request =>
      dsimp only
      -- the checks, the last of which captures
      have hcheck := keeps_armCheck P request w₀
      have hcapture := @armCheck_some P request w₀
      have hnone := @armCheck_none P request w₀
      rw [exec_bind]
      generalize exec (armCheck P request) w₀ = r at hcheck hcapture hnone
      obtain ⟨capture, w₁⟩ := r
      dsimp only at hcheck ⊢
      have hframe : Frame HWPMembers Reads w w₁ := trans_of _ hvalidate.const hcheck
      cases capture with
      | none =>
          left
          refine ⟨.notPermitted, _, rfl, by decide, ⟨w₁.driver, hframe.driver, rfl⟩, hframe.log, ?_⟩
          intro hidle
          have hdropped : w₁.driver.hwp.captured = false :=
            hnone rfl ((congrArg (fun d : Driver => d.hwp.captured) hdriver).trans hidle)
          exact hdropped
      | some capture =>
          right
          exact ⟨request, capture, w₀, w₁, rfl, hsupported, hbusy.1, hbusy.2, hvalidate, hcheck,
            hcapture rfl, rfl⟩

/-! ## The other operations -/

/-- The exit of a failed operation. -/
def Exit.IsFailure (exit : Exit) : Prop :=
  ∃ reason code, exit = .restore reason code code ∧ reason ≠ .requested

/-- The world once `update` has succeeded. -/
def updated (request : LimitRequest) (w : World) : World :=
  let d := { w.driver with lastSequence := request.sequence }
  let now := P.machAbsoluteTime w.log
  { driver := { d with
      lastHeartbeat := now
      watchdog := d.watchdog.map fun _ => ⟨some watchdogPollMS⟩ }
    log := ⟨.machAbsoluteTime now, d⟩ :: w.log }

/-- An `update` is turned down, fails before it has written anything, or installs
its limits. -/
theorem updateExit_cases {request : Option LimitRequest} {w w' : World} {exit : Exit}
    (h : exec (updateExit P request) w = (exit, w')) :
    (w.driver.captured = false ∨ w.driver.state ≠ .armed) ∧ exit = .done .notOpen ∧ w' = w ∨
    (w.driver.captured = true ∧ w.driver.state = .armed) ∧
      (exit.IsFailure ∧ Frame HWPDetection Reads w w' ∨
      ∃ r w₁ installed w₂, Frame HWPDetection Reads w w₁ ∧
        exec (installLimitsLocked P r.pl1MW r.pl2MW) w₁ = (installed, w₂) ∧
        (installed = false ∧ exit.IsFailure ∧ w' = w₂ ∨
          installed = true ∧ exit = .done .success ∧ w' = updated P r w₂)) := by
  have hK : ∀ e : Entry, e.event.IsRead → Reads e := fun _ he => he
  have hfailure : ∀ reason code, reason ≠ .requested → Exit.IsFailure (.restore reason code code) :=
    fun reason code hreason => ⟨reason, code, rfl, hreason⟩
  unfold updateExit at h
  rw [exec_bind, exec_getDriver] at h
  rcases exec_ite_cases h with ⟨hopen, h⟩ | ⟨hopen, h⟩
  · obtain ⟨rfl, rfl⟩ := Prod.mk.inj h
    refine .inl ⟨?_, rfl, rfl⟩
    simpa using hopen
  refine .inr ⟨by simpa using hopen, ?_⟩
  -- validation, verification and a second validation, all of which only read
  have hvalidate : Frame HWPDetection Reads w (exec (validateRequestLocked P request false) w).2 :=
    keeps_validateRequestLocked P hK request false w
  rw [exec_bind] at h
  generalize exec (validateRequestLocked P request false) w = r at h hvalidate
  obtain ⟨valid, w₀⟩ := r
  dsimp only at h hvalidate
  rcases exec_ite_cases h with ⟨-, h⟩ | ⟨-, h⟩
  · obtain ⟨rfl, rfl⟩ := Prod.mk.inj h
    exact .inl ⟨hfailure _ _ (by decide), hvalidate⟩
  cases request with
  | none =>
      obtain ⟨rfl, rfl⟩ := Prod.mk.inj h
      exact .inl ⟨hfailure _ _ (by decide), hvalidate⟩
  | some request =>
      unfold updateValidated at h
      rcases exec_ite_cases h with ⟨-, h⟩ | ⟨-, h⟩
      · obtain ⟨rfl, rfl⟩ := Prod.mk.inj h
        exact .inl ⟨hfailure _ _ (by decide), hvalidate⟩
      have hverify := trans_of _ hvalidate (keeps_verifyArmedStateLocked P hK w₀)
      rw [exec_bind] at h
      generalize exec (verifyArmedStateLocked P) w₀ = r at h hverify
      obtain ⟨verified, w₁⟩ := r
      dsimp only at h hverify
      rcases exec_ite_cases h with ⟨-, h⟩ | ⟨-, h⟩
      · obtain ⟨rfl, rfl⟩ := Prod.mk.inj h
        exact .inl ⟨hfailure _ _ (by decide), hverify⟩
      have hagain := trans_of _ hverify (keeps_validateRequestLocked P hK (some request) false w₁)
      rw [exec_bind] at h
      generalize exec (validateRequestLocked P (some request) false) w₁ = r at h hagain
      obtain ⟨valid, w₂⟩ := r
      dsimp only at h hagain
      rcases exec_ite_cases h with ⟨-, h⟩ | ⟨-, h⟩
      · obtain ⟨rfl, rfl⟩ := Prod.mk.inj h
        exact .inl ⟨hfailure _ _ (by decide), hagain⟩
      rw [exec_bind] at h
      -- the one write
      generalize hinstall : exec (installLimitsLocked P request.pl1MW request.pl2MW) w₂ = r at h
      obtain ⟨installed, w₃⟩ := r
      refine .inr ⟨request, w₂, installed, w₃, hagain, hinstall, ?_⟩
      dsimp only at h
      rcases exec_ite_cases h with ⟨hinstalled, h⟩ | ⟨hinstalled, h⟩
      · obtain ⟨rfl, rfl⟩ := Prod.mk.inj h
        exact .inl ⟨by simpa using hinstalled, hfailure _ _ (by decide), rfl⟩
      · obtain ⟨rfl, rfl⟩ := Prod.mk.inj h
        exact .inr ⟨by simpa using hinstalled, rfl, rfl⟩

/-- Every `disarm` restores; if it is valid, it succeeds with the restore. -/
theorem disarmExit_cases {request : Option CommandRequest} {w w' : World} {exit : Exit}
    (h : exec (disarmExit request) w = (exit, w')) :
    Frame SameCore Reads w w' ∧ (exit = .restore .invalidRequest .badArgument .badArgument ∨
      exit = .restore .requested .success .error) := by
  unfold disarmExit at h
  rw [exec_bind, exec_getDriver] at h
  cases request with
  | none =>
      obtain ⟨rfl, rfl⟩ := Prod.mk.inj h
      exact ⟨refl_of _ w, .inl rfl⟩
  | some request =>
      rcases exec_ite_cases h with ⟨-, h⟩ | ⟨-, h⟩
      · obtain ⟨rfl, rfl⟩ := Prod.mk.inj h
        exact ⟨refl_of _ w, .inl rfl⟩
      · obtain ⟨rfl, rfl⟩ := Prod.mk.inj h
        exact ⟨⟨⟨rfl, rfl, rfl, rfl, rfl⟩, .refl⟩, .inr rfl⟩

/-- The guard is not cleared, and no limit written. -/
def Event.IsGuarding : Event → Prop
  | .wrmsr msr _ => msr ≠ msrPackagePowerLimit
  | .powerControl operation _ => operation ≠ .clearGuard
  | _ => True

/-- No clear of the guard, and no limit. -/
abbrev Guarding : Entry → Prop := fun e => e.event.IsGuarding

theorem OnHWP.guarding {e : Entry} (h : OnHWP e) : Guarding e := by
  unfold Guarding Event.IsGuarding
  unfold OnHWP Event.IsHWP at h
  cases he : e.event with
  | wrmsr msr value => simpa [he] using h
  | powerControl operation cpus =>
      have hread : operation = .read := by simpa [he] using h
      simp [hread]
  | rdmsr | hwpEnable | hwpRequest | cpuid | machAbsoluteTime => trivial

theorem Reads.guarding {e : Entry} (h : Reads e) : Guarding e :=
  OnHWP.guarding (Event.IsRead.isHWP h)

end

end TurboMac.Kext
