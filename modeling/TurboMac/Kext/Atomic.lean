import TurboMac.Kext.Requests
import TurboMac.Kext.Run
import TurboMac.Kext.Observe

/-! # A restore is all or nothing

`restoreLocked` of a capture reports success exactly if the guard, HWP and the
package limit were each restored and read back, and writes the limit only over
a restored HWP.
-/

namespace TurboMac.Kext

open Program

/-- Each CPU that ran the set has the guard bit, and a place in the driver's array. -/
def GuardSet (cpus : List PowerControlCPU) : Prop :=
  GuardReads .setGuard cpus true ∧ cpus.length ≤ maximumLogicalCPUs

/-- The CPUs present, and no others, wrote their request and read it back. -/
def RequestsWritten (values : CPU → U64) (present : CPU → Bool) (trace : List Event) : Prop :=
  ∃ cpus, trace = [.hwpRequest (.write values present) cpus] ∧ cpus ≠ [] ∧
    Answered (.write values present) present values cpus

/-- The fail-safe request was written to every CPU, read back by each, and read
once more on as many. -/
def FailSafeWritten (request : U64) (trace : List Event) : Prop :=
  ∃ present values first written verified,
    trace = [.hwpRequest .read first,
      .hwpRequest (.write (fun index => if present index then request else 0) present) written,
      .hwpRequest .read verified] ∧
    first ≠ [] ∧ Answered .read present values first ∧
    Answered (.write (fun index => if present index then request else 0) present) present
      (fun index => if present index then request else 0) written ∧
    verified.length = first.length ∧ ∃ present', Answered .read present' (fun _ => request) verified

/-- HWP is as it was before the capture; or fail-safe, if TurboMac enabled it. -/
inductive HWPRestored (hwp : HWP) : List Event → Prop
  | nothing (enabledByTurboMac : hwp.enabledByTurboMac = false) (captured : hwp.captured = false) :
      HWPRestored hwp []
  | requests {trace : List Event} (enabledByTurboMac : hwp.enabledByTurboMac = false)
      (captured : hwp.captured = true) (packageRequest : hwp.packageRequestSupported = false)
      (written : RequestsWritten hwp.capturedRequests hwp.capturedPresent trace) :
      HWPRestored hwp trace
  | package {package trace : List Event} (enabledByTurboMac : hwp.enabledByTurboMac = false)
      (captured : hwp.captured = true) (packageRequest : hwp.packageRequestSupported = true)
      (packageWritten : PackageWritten hwp.capturedPackageRequest package)
      (written : RequestsWritten hwp.capturedRequests hwp.capturedPresent trace) :
      HWPRestored hwp (package ++ trace)
  | failSafe {trace : List Event} (enabledByTurboMac : hwp.enabledByTurboMac = true)
      (written : FailSafeWritten (hwpFailsafeRequest hwp.capabilitiesRaw hwp.eppSupported) trace) :
      HWPRestored hwp trace

/-- The captured limit was written, without LOCK, and its fields read back, without LOCK too. -/
def LimitWritten (captured : U64) (trace : List Event) : Prop :=
  ∃ current readback, raplLocked current = false ∧
    trace = [.rdmsr msrPackagePowerLimit current,
      .wrmsr msrPackagePowerLimit (captured &&& ~~~raplLock),
      .rdmsr msrPackagePowerLimit readback] ∧
    limitFields readback = limitFields captured ∧ raplLocked readback = false

/-- A restore of the capture in `w`: the set of the guard, HWP, and then the limit. -/
structure Restoration (reason : RestoreReason) (w : World) (restored : Bool) (w' : World)
    (cpus : List PowerControlCPU) (hwp limit : List Event) : Prop where
  events : w'.events = w.events ++ .powerControl .setGuard cpus :: (hwp ++ limit)
  /-- neither the guard nor the limit is written for HWP -/
  onHWP : ∀ e ∈ hwp, e.IsHWP
  /-- over an HWP that is restored the captured limit is written, unless the register is locked;
  else it is only read -/
  written : ∃ current,
    HWPRestored w.driver.hwp hwp ∧ raplLocked current = false ∧ (∃ readback,
      limit = [.rdmsr msrPackagePowerLimit current,
        .wrmsr msrPackagePowerLimit (w.driver.capturedPackageLimit &&& ~~~raplLock),
        .rdmsr msrPackagePowerLimit readback]) ∨
    (¬ HWPRestored w.driver.hwp hwp ∨ raplLocked current = true) ∧
      limit = [.rdmsr msrPackagePowerLimit current]
  verified : restored = true ↔ GuardSet cpus ∧ HWPRestored w.driver.hwp hwp ∧
    LimitWritten w.driver.capturedPackageLimit limit
  state : w'.driver.state = if restored && reason == .requested then .passive else .failsafe

/-! ## The limit -/

/-- `verifyLimitsLocked` of the unlocked capture compares the fields of both. -/
theorem limitsMatch_unlocked (readback captured : U64) :
    limitsMatch readback (captured &&& ~~~raplLock) = true ↔
      limitFields readback = limitFields captured ∧ raplLocked readback = false := by
  rcases unlock_spec captured with ⟨hfields, -, hunlocked⟩
  rw [limitsMatch, Bool.and_eq_true, beq_iff_eq, Bool.not_eq_true']
  constructor
  · rintro ⟨hmask, hlock⟩
    exact ⟨(limitFields_of_readback hmask).trans hfields, hlock⟩
  · rintro ⟨heq, hlock⟩
    refine ⟨?_, hlock⟩
    apply BitVec.eq_of_getLsbD_eq
    intro i hi
    rw [BitVec.getLsbD_and, BitVec.getLsbD_and, getLsbD_readbackMask]
    by_cases hfield : i < 17 ∨ (32 ≤ i ∧ i < 49)
    · rw [getLsbD_of_limitFields (heq.trans hfields.symm) hfield]
    by_cases h63 : i = 63
    · rw [raplLocked_eq] at hlock hunlocked
      rw [h63, hlock, hunlocked]
    · have hout : ¬ (i < 17 ∨ (32 ≤ i ∧ i < 49) ∨ i = 63) := by omega
      simp [hout]

section

variable (P : Platform) {w w' : World} {ok : Bool}

/-- What the last stage does, over an HWP that is restored or not. -/
theorem restoreLimitsLocked_written {hwpRestored : Bool}
    (h : exec (restoreLimitsLocked P hwpRestored) w = (ok, w')) :
    ∃ limit current, w'.events = w.events ++ limit ∧
      (hwpRestored = true ∧ raplLocked current = false ∧ (∃ readback,
        limit = [.rdmsr msrPackagePowerLimit current,
          .wrmsr msrPackagePowerLimit (w.driver.capturedPackageLimit &&& ~~~raplLock),
          .rdmsr msrPackagePowerLimit readback]) ∨
      (¬ hwpRestored = true ∨ raplLocked current = true) ∧
        limit = [.rdmsr msrPackagePowerLimit current]) ∧
      (ok = true ↔ hwpRestored = true ∧ LimitWritten w.driver.capturedPackageLimit limit) := by
  rcases restoreLimitsLocked_cases P h with
    ⟨hrestored, hunlocked, readback, -, rfl, rfl⟩ | ⟨hnot, rfl, rfl⟩
  · refine ⟨[.rdmsr msrPackagePowerLimit _, .wrmsr msrPackagePowerLimit _,
      .rdmsr msrPackagePowerLimit readback], _, by simp, .inl ⟨hrestored, hunlocked, readback, rfl⟩,
      ?_⟩
    rw [limitsMatch_unlocked]
    constructor
    · rintro ⟨hfields, hlock⟩
      exact ⟨hrestored, _, readback, hunlocked, rfl, hfields, hlock⟩
    · rintro ⟨-, current, readback', -, htrace, hfields, hlock⟩
      simp only [List.cons.injEq, Event.rdmsr.injEq, true_and, and_true] at htrace
      rw [htrace.2]
      exact ⟨hfields, hlock⟩
  · refine ⟨[.rdmsr msrPackagePowerLimit (P.rdmsr w.log msrPackagePowerLimit)], _, by simp,
      .inr ⟨?_, rfl⟩, ?_⟩
    · simpa using hnot
    · simp [LimitWritten]

/-! ## HWP -/

theorem restoreHWPRequestsLocked_written {packageRestored : Bool}
    (h : exec (restoreHWPRequestsLocked P packageRestored) w = (ok, w')) :
    ∃ trace, w'.events = w.events ++ trace ∧
      (trace = [] ∨ ∃ operation cpus, trace = [.hwpRequest operation cpus]) ∧
      (ok = true ↔ packageRestored = true ∧
        RequestsWritten w.driver.hwp.capturedRequests w.driver.hwp.capturedPresent trace) := by
  unfold restoreHWPRequestsLocked at h
  rw [exec_bind, exec_getHWP, exec_bind] at h
  generalize hwrite : exec (writeHWPRequestsLocked P w.driver.hwp.capturedRequests
    w.driver.hwp.capturedPresent) w = r at h
  rcases r with ⟨requestsRestored, w₁⟩
  rcases Prod.mk.inj h with ⟨rfl, rfl⟩
  rcases writeHWPRequestsLocked_cases P hwrite with
    ⟨-, rfl, rfl⟩ | ⟨-, cpus, -, rfl, hok⟩
  · refine ⟨[], by simp [World.events], .inl rfl, ?_⟩
    simp [RequestsWritten]
  · refine ⟨[.hwpRequest (.write w.driver.hwp.capturedRequests w.driver.hwp.capturedPresent) cpus],
      by simp [World.events, World.logged], .inr ⟨_, _, rfl⟩, ?_⟩
    dsimp only
    rw [Bool.and_eq_true, hok]
    simp [RequestsWritten]

/-- The CPUs of a fail-safe verification. -/
def FailSafeRead (request : U64) (count : U32) (cpus : List HWPRequestCPU) : Prop :=
  cpus ≠ [] ∧ BitVec.ofNat 32 cpus.length = count ∧
    ∃ present, Answered .read present (fun _ => request) cpus

theorem verifyHWPFailSafeLocked_cases (h : exec (verifyHWPFailSafeLocked P) w = (ok, w'))
    (hready : w.driver.hwp.Ready) (henabled : w.driver.hwp.enabledByTurboMac = true)
    (hactive : w.driver.hwp.failSafeActive = true) :
    ∃ cpus, w' = w.logged (.hwpRequest .read cpus) ∧
      (ok = true ↔ FailSafeRead w.driver.hwp.failSafeRequest w.driver.logicalCPUCount cpus) := by
  unfold verifyHWPFailSafeLocked at h
  rw [exec_bind, exec_getDriver] at h
  rcases exec_ite_cases h with ⟨hnot, -⟩ | ⟨-, h⟩
  · simp [henabled, hready.2, hactive] at hnot
  rw [exec_bind] at h
  generalize hread : exec (readHWPRequestsLocked P .zero) w = r at h
  rcases r with ⟨⟨allRead, current⟩, w₁⟩
  dsimp only at h
  rcases readHWPRequestsLocked_cases P hread with ⟨hnot, -, -⟩ | ⟨-, cpus, -, rfl, hall, hcurrent⟩
  · exact absurd hready hnot
  refine ⟨cpus, ?_⟩
  rcases exec_ite_cases h with ⟨hbad, h⟩ | ⟨hgood, h⟩
  · rcases Prod.mk.inj h with ⟨rfl, rfl⟩
    refine ⟨rfl, by simp, ?_⟩
    rintro ⟨hne, hcount, present, hanswered⟩
    have htrue := hall.2 ⟨hne, hanswered.allRun⟩
    simp only [htrue, (hcurrent htrue).2, hcount] at hbad
    simp at hbad
  · rcases Prod.mk.inj h with ⟨rfl, rfl⟩
    refine ⟨rfl, ?_⟩
    simp only [Bool.or_eq_true, Bool.not_eq_true', bne_iff_ne, ne_eq, not_or, Bool.not_eq_false,
      not_not] at hgood
    rcases hcurrent hgood.1 with ⟨hanswered, hlength⟩
    rw [decide_eq_true_eq]
    constructor
    · -- the driver compares every CPU it has read
      intro hvalues
      refine ⟨(hall.1 hgood.1).1, hlength ▸ hgood.2, current.present, hanswered.allRun,
        hanswered.present, ?_⟩
      intro cpu hmem index hnumber
      rw [hanswered.values cpu hmem index hnumber]
      exact hvalues index ((hanswered.present index).2 ⟨cpu, hmem, hnumber⟩)
    · rintro ⟨-, -, present, hrequest⟩ index hpresent
      rcases (hanswered.present index).1 hpresent with ⟨cpu, hmem, hnumber⟩
      rw [← hanswered.values cpu hmem index hnumber, hrequest.values cpu hmem index hnumber]

/-- The driver writes the fail-safe request to every CPU that it reads. -/
theorem ensureHWPFailSafeLocked_written (h : exec (ensureHWPFailSafeLocked P) w = (ok, w'))
    (henabled : w.driver.hwp.enabledByTurboMac = true) :
    ∃ trace, w'.events = w.events ++ trace ∧
      (ok = true ↔ FailSafeWritten
        (hwpFailsafeRequest w.driver.hwp.capabilitiesRaw w.driver.hwp.eppSupported) trace) := by
  unfold ensureHWPFailSafeLocked at h
  rw [exec_bind, exec_getHWP] at h
  rcases exec_ite_cases h with ⟨-, h⟩ | ⟨-, h⟩
  · rcases Prod.mk.inj h with ⟨rfl, rfl⟩
    exact ⟨[], by simp, by simp [FailSafeWritten]⟩
  set request := hwpFailsafeRequest w.driver.hwp.capabilitiesRaw w.driver.hwp.eppSupported
  rw [exec_bind, exec_assignHWP, exec_bind] at h
  generalize hread : exec (readHWPRequestsLocked P .zero) _ = r at h
  rcases r with ⟨⟨allRead, current⟩, w₁⟩
  dsimp only at h hread
  rcases readHWPRequestsLocked_cases P hread with
    ⟨-, rfl, rfl⟩ | ⟨hready, first, -, rfl, hall, hcurrent⟩
  · rcases Prod.mk.inj h with ⟨rfl, rfl⟩
    exact ⟨[], by simp [World.events], by simp [FailSafeWritten]⟩
  rcases exec_ite_cases h with ⟨-, hrun⟩ | ⟨hok, hrun⟩
  · rcases Prod.mk.inj hrun with ⟨rfl, rfl⟩
    refine ⟨[.hwpRequest .read first], by simp [World.events, World.logged], ?_⟩
    simp [FailSafeWritten]
  obtain rfl : allRead = true := by simpa using hok
  rcases hcurrent rfl with ⟨hfirst, hcount⟩
  set targets : CPU → U64 := fun index => if current.present index then request else 0 with htargets
  rw [exec_bind] at hrun
  generalize hwrite : exec (writeHWPRequestsLocked P targets current.present) _ = r at hrun
  rcases r with ⟨allWritten, w₂⟩
  dsimp only at hrun hwrite
  rcases writeHWPRequestsLocked_cases P hwrite with ⟨hnot, -, -⟩ | ⟨-, written, -, rfl, hwritten⟩
  · exact absurd hready hnot
  rcases exec_ite_cases hrun with ⟨-, hrest⟩ | ⟨hgood, hrest⟩
  · rcases Prod.mk.inj hrest with ⟨rfl, rfl⟩
    refine ⟨[.hwpRequest .read first, .hwpRequest (.write targets current.present) written],
      by simp [World.events, World.logged], ?_⟩
    simp [FailSafeWritten]
  obtain rfl : allWritten = true := by simpa using hgood
  rw [exec_bind, exec_assign, exec_bind, exec_assignHWP] at hrest
  rcases verifyHWPFailSafeLocked_cases P hrest hready henabled rfl with ⟨verified, rfl, hverified⟩
  refine ⟨[.hwpRequest .read first, .hwpRequest (.write targets current.present) written,
    .hwpRequest .read verified], by simp [World.events, World.logged], ?_⟩
  rw [hverified]
  constructor
  · rintro ⟨-, hcount', present', hrequest⟩
    refine ⟨current.present, current.values, first, written, verified, rfl, (hall.1 rfl).1, hfirst,
      (hwritten.1 rfl).2, ?_, present', hrequest⟩
    -- neither count comes near the width of `logicalCPUCount_`
    have hle := hrequest.length.2
    have hle' := hfirst.length.2
    have heq := congrArg BitVec.toNat hcount'
    simp only [BitVec.toNat_ofNat, hcount] at heq
    simp only [maximumLogicalCPUs] at hle hle'
    omega
  · rintro ⟨present, values, first', written', verified', htrace, hne, -, -, hcount', present',
      hrequest⟩
    simp only [List.cons.injEq, Event.hwpRequest.injEq, true_and, and_true] at htrace
    rcases htrace with ⟨rfl, -, rfl⟩
    refine ⟨?_, ?_, present', hrequest⟩
    · intro hnil
      rw [hnil, List.length_nil, eq_comm, List.length_eq_zero_iff] at hcount'
      exact hne hcount'
    · rw [hcount', ← hcount]

/-- A package write and what follows it do not overlap. -/
theorem package_append_iff {value : U64} {values : CPU → U64} {present : CPU → Bool}
    {package trace : List Event}
    (hpackage : ∀ e ∈ package, ∃ msr v, e = .rdmsr msr v ∨ e = .wrmsr msrHWPPackageRequest v)
    (htrace : trace = [] ∨ ∃ operation cpus, trace = [.hwpRequest operation cpus]) :
    (∃ package' trace', package ++ trace = package' ++ trace' ∧ PackageWritten value package' ∧
        RequestsWritten values present trace') ↔
      PackageWritten value package ∧ RequestsWritten values present trace := by
  constructor
  · rintro ⟨package', trace', happend, hwritten', hrequests'⟩
    have hlast : ∃ cpus, trace' = [.hwpRequest (.write values present) cpus] := by
      rcases hrequests' with ⟨cpus, rfl, -⟩
      exact ⟨cpus, rfl⟩
    rcases hlast with ⟨cpus, hlast⟩
    rcases htrace with rfl | ⟨operation, cpus', rfl⟩
    · have hmem : Event.hwpRequest (.write values present) cpus ∈ package := by
        rw [List.append_nil] at happend
        simp [happend, hlast]
      rcases hpackage _ hmem with ⟨_, _, heq | heq⟩
      · cases heq
      · cases heq
    · rw [hlast] at happend
      rcases List.append_inj' happend rfl with ⟨rfl, heq⟩
      rw [heq, ← hlast]
      exact ⟨hwritten', hrequests'⟩
  · rintro ⟨hwritten, hrequests⟩
    exact ⟨package, trace, rfl, hwritten, hrequests⟩

theorem restoreHWPLocked_restored (h : exec (restoreHWPLocked P) w = (ok, w')) :
    ∃ trace, w'.events = w.events ++ trace ∧ (ok = true ↔ HWPRestored w.driver.hwp trace) := by
  unfold restoreHWPLocked at h
  rw [exec_bind, exec_getHWP] at h
  rcases exec_ite_cases h with ⟨henabled, h⟩ | ⟨henabled, h⟩
  · -- TurboMac has enabled HWP, which cannot be undone: the fail-safe request
    rw [exec_bind, exec_assignHWP] at h
    rcases ensureHWPFailSafeLocked_written P h henabled with ⟨trace, htrace, hok⟩
    refine ⟨trace, htrace, ?_⟩
    rw [hok]
    constructor
    · exact .failSafe henabled
    · intro hrestored
      cases hrestored with
      | failSafe _ hwritten => exact hwritten
      | nothing hnot | requests hnot | package hnot => simp [hnot] at henabled
  rw [Bool.not_eq_true] at henabled
  rcases exec_ite_cases h with ⟨hcaptured, h⟩ | ⟨hcaptured, h⟩
  · -- nothing was captured
    rcases Prod.mk.inj h with ⟨rfl, rfl⟩
    refine ⟨[], by simp, fun _ => .nothing henabled (by simpa using hcaptured), fun _ => rfl⟩
  rw [Bool.not_eq_true, Bool.not_eq_false'] at hcaptured
  rcases exec_ite_cases h with ⟨hpackage, h⟩ | ⟨hpackage, h⟩
  · -- the package request first, then the CPUs'
    rw [exec_bind] at h
    generalize hwrite : exec (writeHWPPackageRequestLocked P _) w = r at h
    rcases r with ⟨packageRestored, w₁⟩
    rcases writeHWPPackageRequestLocked_cases P hwrite with
      ⟨package, hevents, hdriver, hmsr, hwritten⟩
    rcases restoreHWPRequestsLocked_written P h with ⟨trace, hevents', hshape, hok⟩
    dsimp only at hdriver hevents hevents' hok
    refine ⟨package ++ trace, by rw [hevents', hevents, List.append_assoc], ?_⟩
    rw [hok, hwritten, hdriver, ← package_append_iff hmsr hshape]
    constructor
    · rintro ⟨package', trace', happend, hpackage', hrequests⟩
      rw [happend]
      exact .package henabled hcaptured hpackage hpackage' hrequests
    · intro hrestored
      generalize htotal : package ++ trace = total at hrestored ⊢
      cases hrestored with
      | package _ _ _ hpackage' hrequests => exact ⟨_, _, rfl, hpackage', hrequests⟩
      | nothing _ hnot => simp [hnot] at hcaptured
      | requests _ _ hnot => simp [hnot] at hpackage
      | failSafe hnot => simp [hnot] at henabled
  · -- without package requests only the CPUs'
    rw [Bool.not_eq_true] at hpackage
    rcases restoreHWPRequestsLocked_written P h with ⟨trace, hevents, -, hok⟩
    refine ⟨trace, hevents, ?_⟩
    rw [hok]
    constructor
    · rintro ⟨-, hrequests⟩
      exact .requests henabled hcaptured hpackage hrequests
    · intro hrestored
      cases hrestored with
      | requests _ _ _ hrequests => exact ⟨rfl, hrequests⟩
      | nothing _ hnot => simp [hnot] at hcaptured
      | package _ _ hnot => simp [hnot] at hpackage
      | failSafe hnot => simp [hnot] at henabled

/-! ## The restore -/

/-- The events of a frame. -/
theorem Frame.events {D : Driver → Driver → Prop} {K : Entry → Prop} {w w' : World}
    (h : Frame D K w w') {trace : List Event} (htrace : w'.events = w.events ++ trace) :
    ∀ e ∈ trace, ∃ entry : Entry, entry.event = e ∧ K entry := by
  rcases (h.log.mono fun _ _ he => he.2).exists_append with ⟨new, hlog, hnew⟩
  rw [World.events, hlog, List.map_append, List.reverse_append, World.events] at htrace
  intro e hmem
  rw [← List.append_cancel_left htrace, List.mem_reverse, List.mem_map] at hmem
  rcases hmem with ⟨entry, hentry, rfl⟩
  exact ⟨entry, rfl, hnew entry hentry⟩

/-- Whatever the broadcasts and the reads return, a restore of a capture sets the
guard, restores HWP and only then the limit, and reports success exactly if each
was read back. -/
theorem restoreLocked_atomic (reason : RestoreReason) (w : World)
    (hcaptured : w.driver.captured = true) :
    ∃ cpus hwp limit, Restoration reason w (exec (restoreLocked P reason) w).1
      (exec (restoreLocked P reason) w).2 cpus hwp limit := by
  rw [exec_restoreLocked, if_neg (by simp [hcaptured])]
  generalize hrun : exec (restoreCapturedLocked P reason) w.fired = r
  rcases r with ⟨restored, w'⟩
  rcases restoreCapturedLocked_cases P hrun with
    ⟨guardRestored, w₁, hwpRestored, w₂, limitsRestored, w₃, hset, hhwp, hlimits, hrestored,
      hreleased⟩
  -- the guard, HWP and the limit, each with what it has done
  rcases setPowerControlGuardLocked_spec P hset with
    ⟨operation, cpus, rfl, hlog, hdriver, hsame, hguard⟩
  rcases restoreHWPLocked_restored P hhwp with ⟨hwp, hevents₂, hrequests⟩
  rcases restoreLimitsLocked_written P hlimits with ⟨limit, current, hevents₃, hwritten, hlimit⟩
  have hframe := (keeps_restoreHWPLocked_onHWP P).rel hhwp
  have hevents₁ : w₁.events = w.events ++ [.powerControl .setGuard cpus] := by
    rw [World.events, hlog, World.events]
    simp [World.fired]
  have hcapturedLimit : w₂.driver.capturedPackageLimit = w.driver.capturedPackageLimit := by
    rw [hframe.driver.eq, hdriver.eq]
    rfl
  rw [hsame] at hrequests
  rw [hcapturedLimit] at hwritten hlimit
  refine ⟨cpus, hwp, limit, ?_, ?_, ⟨current, ?_⟩, ?_, hreleased.state⟩
  · rw [World.events_congr hreleased.log, hevents₃, hevents₂, hevents₁]
    simp
  · intro e hmem
    rcases hframe.events hevents₂ e hmem with ⟨entry, rfl, honHWP⟩
    exact honHWP
  · rw [hrequests] at hwritten
    exact hwritten
  · -- the limit is written only if HWP was restored
    rw [hrestored, Bool.and_eq_true, Bool.and_eq_true, hguard, hlimit, hrequests]
    constructor
    · rintro ⟨⟨hguardSet, -⟩, hrestored, hlimit⟩
      exact ⟨hguardSet, hrestored, hlimit⟩
    · rintro ⟨hguardSet, hrestored, hlimit⟩
      exact ⟨⟨hguardSet, hrestored⟩, hrestored, hlimit⟩

end

/-- The restore of an `arm`. -/
theorem restoreLocked_atomic_machine :
    let P := machine firmwareLimit fun _ => false
    let w := run P [.arm (some (tenWatts 1))] (started P)
    w.driver.captured = true ∧ ∃ cpus hwp limit,
      Restoration .requested w (exec (restoreLocked P .requested) w).1
        (exec (restoreLocked P .requested) w).2 cpus hwp limit := by
  have hcaptured : (run (machine firmwareLimit fun _ => false) [.arm (some (tenWatts 1))]
      (started (machine firmwareLimit fun _ => false))).driver.captured = true := by
    decide +kernel
  exact ⟨hcaptured, restoreLocked_atomic _ .requested _ hcaptured⟩

end TurboMac.Kext
