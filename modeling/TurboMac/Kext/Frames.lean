import TurboMac.Kext.Driver

/-! # What each driver function leaves alone

Most of `TurboMac.cpp` only reads the hardware, or only touches HWP. `Frame D K`
is the preorder of both kinds: the driver has changed within `D` at most, then
and at every new entry of the log, and these are in `K`. A `const` method keeps
the frame of every `D`.
-/

namespace TurboMac.Kext

open Program

/-- From `w` to `w'` the driver changes within `D`, and what is logged is in `K`. -/
structure Frame (D : Driver → Driver → Prop) (K : Entry → Prop) (w w' : World) : Prop where
  driver : D w.driver w'.driver
  log : Extends (fun _ e => D w.driver e.driver ∧ K e) w.log w'.log

instance (D : Driver → Driver → Prop) [IsPreorder Driver D] (K : Entry → Prop) :
    IsPreorder World (Frame D K) where
  refl w := ⟨refl_of D w.driver, .refl⟩
  trans _ _ _ h h' := by
    refine ⟨trans_of D h.driver h'.driver, h.log.trans (h'.log.mono ?_)⟩
    intro _ e he
    exact ⟨trans_of D h.driver he.1, he.2⟩

theorem Frame.mono {D D' : Driver → Driver → Prop} {K K' : Entry → Prop} {w w' : World}
    (h : Frame D K w w') (hD : ∀ d d', D d d' → D' d d') (hK : ∀ e, K e → K' e) :
    Frame D' K' w w' := by
  refine ⟨hD _ _ h.driver, h.log.mono ?_⟩
  intro _ e he
  exact ⟨hD _ _ he.1, hK e he.2⟩

theorem Frame.weaken {D : Driver → Driver → Prop} {K K' : Entry → Prop} {w w' : World}
    (h : Frame D K w w') (hK : ∀ e, K e → K' e) : Frame D K' w w' :=
  h.mono (fun _ _ hd => hd) hK

/-- Nothing has changed but the `hwp*` members and the caches `logicalCPUCount_`
and `currentPowerControl_`; and that TurboMac enabled HWP is never taken back. -/
structure HWPMembers (d d' : Driver) : Prop where
  eq : d' = { d with
    hwp := d'.hwp
    logicalCPUCount := d'.logicalCPUCount
    currentPowerControl := d'.currentPowerControl }
  enabledByTurboMac : d.hwp.enabledByTurboMac = true → d'.hwp.enabledByTurboMac = true

instance : IsPreorder Driver HWPMembers where
  refl _ := ⟨rfl, id⟩
  trans _ _ _ h h' := by
    refine ⟨?_, fun henabled => h'.enabledByTurboMac (h.enabledByTurboMac henabled)⟩
    rw [h'.eq, h.eq]

/-- Of the `hwp*` members the capture has not changed. -/
structure HWPDetection (d d' : Driver) : Prop extends HWPMembers d d' where
  captured : d'.hwp.captured = d.hwp.captured

instance : IsPreorder Driver HWPDetection where
  refl d := ⟨refl_of HWPMembers d, rfl⟩
  trans _ _ _ h h' :=
    ⟨trans_of HWPMembers h.toHWPMembers h'.toHWPMembers, h'.captured.trans h.captured⟩

/-- What the operations hand on to each other has not changed. -/
structure SameCore (d d' : Driver) : Prop where
  watchdog : d'.watchdog = d.watchdog
  supported : d'.supported = d.supported
  captured : d'.captured = d.captured
  state : d'.state = d.state
  capturedPackageLimit : d'.capturedPackageLimit = d.capturedPackageLimit

instance : IsPreorder Driver SameCore where
  refl _ := ⟨rfl, rfl, rfl, rfl, rfl⟩
  trans _ _ _ h h' :=
    ⟨h'.watchdog.trans h.watchdog, h'.supported.trans h.supported, h'.captured.trans h.captured,
      h'.state.trans h.state, h'.capturedPackageLimit.trans h.capturedPackageLimit⟩

theorem HWPMembers.sameCore {d d' : Driver} (h : HWPMembers d d') : SameCore d d' := by
  constructor <;> rw [h.eq]

theorem keeps_hwpMembers {K : Entry → Prop} {α : Type} {m : DriverM α}
    (h : Keeps (Frame HWPDetection K) m) : Keeps (Frame HWPMembers K) m :=
  h.mono fun _ _ hw => hw.mono (fun _ _ hd => hd.toHWPMembers) fun _ he => he

theorem keeps_sameCore {K : Entry → Prop} {α : Type} {m : DriverM α}
    (h : Keeps (Frame HWPMembers K) m) : Keeps (Frame SameCore K) m :=
  h.mono fun _ _ hw => hw.mono (fun _ _ hd => hd.sameCore) fun _ he => he

/-- What keeps the driver as it is keeps the frame of every preorder. -/
theorem Frame.const {D : Driver → Driver → Prop} [IsPreorder Driver D] {K : Entry → Prop}
    {w w' : World} (h : Frame Eq K w w') : Frame D K w w' := by
  refine h.mono ?_ fun _ he => he
  rintro d _ rfl
  exact refl_of D d

/-! ## Kinds of events -/

/-- Nothing is written. -/
def Event.IsRead : Event → Prop
  | .wrmsr _ _ => False
  | .powerControl operation _ => operation = .read
  | .hwpRequest (.write _ _) _ => False
  | _ => True

/-- `IA32_PM_ENABLE` is written. -/
def Event.IsEnable : Event → Prop
  | .wrmsr msr _ => msr = msrHWPEnable
  | _ => False

/-- Neither the package limit nor the guard is written. -/
def Event.IsHWP : Event → Prop
  | .wrmsr msr _ => msr ≠ msrPackagePowerLimit
  | .powerControl operation _ => operation = .read
  | _ => True

/-- The guard is not written. -/
def Event.LeavesGuard : Event → Prop
  | .powerControl operation _ => operation = .read
  | _ => True

theorem Event.IsRead.isHWP {e : Event} (h : e.IsRead) : e.IsHWP := by
  cases e with
  | wrmsr => exact False.elim h
  | powerControl => exact h
  | rdmsr | hwpEnable | hwpRequest | cpuid | machAbsoluteTime => trivial

theorem Event.IsHWP.leavesGuard {e : Event} (h : e.IsHWP) : e.LeavesGuard := by
  cases e with
  | powerControl => exact h
  | wrmsr | rdmsr | hwpEnable | hwpRequest | cpuid | machAbsoluteTime => trivial

/-- With this write some CPU may run at the highest performance level that could
not before: the package request changes, or rules a CPU, or a logical request
reaches it, by itself or through the captured package request. -/
def Entry.Raises (e : Entry) : Prop :=
  let hwp := e.driver.hwp
  let highest := hwpHighest hwp.capabilitiesRaw
  match e.event with
  | .wrmsr msr value => msr = msrHWPPackageRequest ∧
      (value ≠ hwp.capturedPackageRequest ∨ ∃ index, hwp.capturedPresent index = true ∧
        highest ≤ hwpEffectiveMaximum (hwp.capturedRequests index) value hwp.flexibleRequestFields)
  | .hwpRequest (.write targets targetPresent) _ => ∃ index, targetPresent index = true ∧
      (highest ≤ hwpEffectiveMaximum (targets index) hwp.capturedPackageRequest
          hwp.flexibleRequestFields ∨
        targets index ≠ hwp.capturedRequests index ∧ highest ≤ hwpMaximum (targets index))
  | _ => False

/-- A read, or a write of HWP requests that raises none. -/
def Entry.Restrained (e : Entry) : Prop :=
  e.event.IsHWP ∧ ¬ e.event.IsEnable ∧ ¬ e.Raises

theorem Event.IsRead.restrained {e : Entry} (h : e.event.IsRead) : e.Restrained := by
  refine ⟨h.isHWP, ?_, ?_⟩
  · unfold Event.IsEnable
    cases he : e.event with
    | wrmsr => simp [he, Event.IsRead] at h
    | rdmsr | powerControl | hwpEnable | hwpRequest | cpuid | machAbsoluteTime => exact id
  · unfold Entry.Raises
    cases he : e.event with
    | wrmsr => simp [he, Event.IsRead] at h
    | hwpRequest operation =>
        cases operation with
        | read => exact id
        | write => simp [he, Event.IsRead] at h
    | rdmsr | powerControl | hwpEnable | cpuid | machAbsoluteTime => exact id

/-! ## Functions that only read -/

section

variable {D : Driver → Driver → Prop} {K : Entry → Prop}

theorem keeps_assign {f : Driver → Driver} (h : ∀ d, D d (f d)) : Keeps (Frame D K) (assign f) := by
  apply keeps_modify
  intro w
  exact ⟨h w.driver, .refl⟩

theorem keeps_assignHWP {f : HWP → HWP}
    (h : ∀ hwp, hwp.enabledByTurboMac = true → (f hwp).enabledByTurboMac = true) :
    Keeps (Frame HWPMembers K) (assignHWP f) :=
  keeps_assign fun d => ⟨rfl, h d.hwp⟩

theorem keeps_detect {f : HWP → HWP}
    (h : ∀ hwp, (f hwp).enabledByTurboMac = hwp.enabledByTurboMac ∧
      (f hwp).captured = hwp.captured) :
    Keeps (Frame HWPDetection K) (assignHWP f) :=
  keeps_assign fun d => ⟨⟨rfl, fun henabled => (h d.hwp).1.trans henabled⟩, (h d.hwp).2⟩

theorem keeps_logicalCPUCount (count : U32) :
    Keeps (Frame HWPDetection K) (assign fun d => { d with logicalCPUCount := count }) :=
  keeps_assign fun _ => ⟨⟨rfl, id⟩, rfl⟩

variable [IsPreorder Driver D]

theorem keeps_getHWP : Keeps (Frame D K) getHWP := keeps_get.bind fun _ => keeps_pure _

theorem keeps_getDriver : Keeps (Frame D K) getDriver := keeps_get.bind fun _ => keeps_pure _

variable (P : Platform) (hK : ∀ e : Entry, e.event.IsRead → K e)

include hK

theorem keeps_rdmsr64 (msr : U32) : Keeps (Frame D K) (rdmsr64 P msr) := by
  intro w
  exact ⟨refl_of D w.driver, .single ⟨refl_of D w.driver, hK _ trivial⟩⟩

theorem keeps_cpuid (leaf : U32) : Keeps (Frame D K) (cpuid P leaf) := by
  intro w
  exact ⟨refl_of D w.driver, .single ⟨refl_of D w.driver, hK _ trivial⟩⟩

theorem keeps_readAbsoluteTime : Keeps (Frame D K) (readAbsoluteTime P) := by
  intro w
  exact ⟨refl_of D w.driver, .single ⟨refl_of D w.driver, hK _ trivial⟩⟩

theorem keeps_rendezvousHWPEnable : Keeps (Frame D K) (rendezvousHWPEnable P) := by
  intro w
  exact ⟨refl_of D w.driver, .single ⟨refl_of D w.driver, hK _ trivial⟩⟩

theorem keeps_rendezvousHWPRequest_read : Keeps (Frame D K) (rendezvousHWPRequest P .read) := by
  intro w
  exact ⟨refl_of D w.driver, .single ⟨refl_of D w.driver, hK _ trivial⟩⟩

theorem keeps_rendezvousPowerControl_read : Keeps (Frame D K) (rendezvousPowerControl P .read) := by
  intro w
  exact ⟨refl_of D w.driver, .single ⟨refl_of D w.driver, hK _ rfl⟩⟩

theorem keeps_readPowerControlLocked : Keeps (Frame HWPDetection K) (readPowerControlLocked P) := by
  refine (keeps_rendezvousPowerControl_read P hK).bind fun broadcast => ?_
  refine Keeps.ite (keeps_pure _) (Keeps.bind ?_ fun _ => keeps_pure _)
  apply keeps_assign
  intro d
  exact ⟨⟨rfl, id⟩, rfl⟩

theorem keeps_verifyLimitsLocked (expected : U64) :
    Keeps (Frame D K) (verifyLimitsLocked P expected) :=
  (keeps_rdmsr64 P hK _).bind fun _ => keeps_pure _

theorem keeps_validateRequestLocked (request : Option LimitRequest) (isArm : Bool) :
    Keeps (Frame D K) (validateRequestLocked P request isArm) := by
  refine keeps_getDriver.bind fun d => Keeps.ite ?_ (keeps_pure _)
  exact (keeps_rdmsr64 P hK _).bind fun _ => keeps_pure _

theorem keeps_readHWPEnableStateLocked :
    Keeps (Frame HWPDetection K) (readHWPEnableStateLocked P) := by
  refine keeps_getHWP.bind fun hwp => Keeps.ite (keeps_pure _) ?_
  refine (keeps_rendezvousHWPEnable P hK).bind fun broadcast => Keeps.ite (keeps_pure _) ?_
  refine (keeps_detect (by simp)).bind fun _ => Keeps.ite (keeps_pure _) ?_
  exact (keeps_logicalCPUCount _).bind fun _ => keeps_pure _

theorem keeps_hwpEnabledOnCurrentCPULocked : Keeps (Frame D K) (hwpEnabledOnCurrentCPULocked P) := by
  refine keeps_getHWP.bind fun hwp => Keeps.ite (keeps_pure _) ?_
  exact (keeps_rdmsr64 P hK _).bind fun _ => keeps_pure _

theorem keeps_readHWPPackageRequestLocked : Keeps (Frame D K) (readHWPPackageRequestLocked P) := by
  refine keeps_getHWP.bind fun hwp => Keeps.ite (keeps_pure _) ?_
  refine (keeps_hwpEnabledOnCurrentCPULocked P hK).bind fun enabled => Keeps.ite (keeps_pure _) ?_
  exact (keeps_rdmsr64 P hK _).bind fun _ => keeps_pure _

theorem keeps_readHWPRequestsLocked (out : HWPRequests) :
    Keeps (Frame D K) (readHWPRequestsLocked P out) := by
  refine keeps_getHWP.bind fun hwp => Keeps.ite (keeps_pure _) ?_
  refine (keeps_rendezvousHWPRequest_read P hK).bind fun broadcast => Keeps.ite (keeps_pure _) ?_
  exact Keeps.ite (keeps_pure _) (keeps_pure _)

theorem keeps_initializeHWPLocked : Keeps (Frame HWPDetection K) (initializeHWPLocked P) := by
  refine (keeps_cpuid P hK _).bind fun maximumLeaf => Keeps.ite (keeps_pure _) ?_
  refine (keeps_cpuid P hK _).bind fun eax => (keeps_detect (by simp)).bind fun _ => ?_
  refine keeps_getHWP.bind fun hwp => Keeps.ite (keeps_pure _) ?_
  refine (keeps_readHWPEnableStateLocked P hK).bind fun enable => Keeps.ite ?_ ?_
  · exact (keeps_detect (by simp)).bind fun _ => keeps_pure _
  refine (keeps_detect (by simp)).bind fun _ => Keeps.ite (keeps_pure _) ?_
  refine (keeps_rdmsr64 P hK _).bind fun capabilities => ?_
  refine (keeps_detect (by simp)).bind fun _ => Keeps.ite (keeps_pure _) ?_
  refine (keeps_detect (by simp)).bind fun _ => ?_
  refine (keeps_readHWPRequestsLocked P hK _).bind fun requests => Keeps.ite (keeps_pure _) ?_
  exact (keeps_logicalCPUCount _).bind fun _ => keeps_pure _

omit hK in
theorem keeps_captureHWPStateLocked_finish (count : ℕ) :
    Keeps (Frame HWPMembers K) (captureHWPStateLocked.finish count) := by
  intro w
  have hcopy : (copyCapturedRequests w.driver.hwp).2.enabledByTurboMac =
      w.driver.hwp.enabledByTurboMac := by
    simp only [copyCapturedRequests]
    split <;> rfl
  unfold captureHWPStateLocked.finish
  rw [exec_bind, exec_getHWP]
  have hassign : Frame HWPMembers K w
      { w with driver := { w.driver with hwp := (copyCapturedRequests w.driver.hwp).2 } } :=
    ⟨⟨rfl, fun h => hcopy.trans h⟩, .refl⟩
  refine trans_of (Frame HWPMembers K) hassign ?_
  refine Keeps.ite (keeps_pure _) ?_ _
  refine (keeps_hwpMembers (keeps_logicalCPUCount _)).bind fun _ => ?_
  exact (keeps_assignHWP (by simp)).bind fun _ => keeps_pure _

theorem keeps_captureHWPStateLocked : Keeps (Frame HWPMembers K) (captureHWPStateLocked P) := by
  refine (keeps_hwpMembers (keeps_readHWPEnableStateLocked P hK)).bind fun enable => ?_
  refine Keeps.ite ((keeps_assignHWP (by simp)).bind fun _ => keeps_pure _) ?_
  refine (keeps_assignHWP (by simp)).bind fun _ => ?_
  refine (keeps_rdmsr64 P hK _).bind fun capabilities => ?_
  refine (keeps_assignHWP (by simp)).bind fun _ => Keeps.ite (keeps_pure _) ?_
  refine keeps_getHWP.bind fun hwp => (keeps_readHWPRequestsLocked P hK _).bind fun requests => ?_
  refine (keeps_assignHWP (by simp)).bind fun _ => Keeps.ite (keeps_pure _) ?_
  refine (keeps_assignHWP (by simp)).bind fun _ => ?_
  refine Keeps.ite ?_ (keeps_captureHWPStateLocked_finish _)
  refine (keeps_readHWPPackageRequestLocked P hK).bind fun packageRequest => ?_
  cases packageRequest with
  | none => exact keeps_pure _
  | some packageRequest =>
      exact (keeps_assignHWP (by simp)).bind fun _ => keeps_captureHWPStateLocked_finish _

theorem keeps_verifyHWPFailSafeLocked : Keeps (Frame D K) (verifyHWPFailSafeLocked P) := by
  refine keeps_getDriver.bind fun d => Keeps.ite (keeps_pure _) ?_
  exact (keeps_readHWPRequestsLocked P hK _).bind fun current =>
    Keeps.ite (keeps_pure _) (keeps_pure _)

theorem keeps_verifyHWPRequestsLocked : Keeps (Frame D K) (verifyHWPRequestsLocked P) := by
  refine keeps_getDriver.bind fun d => ?_
  exact (keeps_readHWPRequestsLocked P hK _).bind fun current =>
    Keeps.ite (keeps_pure _) (keeps_pure _)

theorem keeps_verifyHWPOverrideLocked : Keeps (Frame D K) (verifyHWPOverrideLocked P) := by
  refine keeps_getHWP.bind fun hwp => Keeps.ite (keeps_pure _) ?_
  refine Keeps.ite ?_ (keeps_verifyHWPRequestsLocked P hK)
  exact (keeps_readHWPPackageRequestLocked P hK).bind fun packageRequest =>
    Keeps.ite (keeps_pure _) (keeps_verifyHWPRequestsLocked P hK)

theorem keeps_verifyArmedStateLocked : Keeps (Frame HWPDetection K) (verifyArmedStateLocked P) := by
  refine (keeps_readPowerControlLocked P hK).bind fun guard => Keeps.ite (keeps_pure _) ?_
  refine keeps_getDriver.bind fun d => (keeps_verifyLimitsLocked P hK _).bind fun limits => ?_
  exact Keeps.ite (keeps_pure _) (keeps_verifyHWPOverrideLocked P hK)

/-! ## Functions that write HWP

Whether a write is in `K` may depend on the driver when it is made, so these are
about one run, from a given world.
-/

theorem keeps_enableHWPPackageLocked (hEnable : ∀ e : Entry, e.event.IsEnable → K e) :
    Keeps (Frame HWPMembers K) (enableHWPPackageLocked P) := by
  have hwrite : Keeps (Frame HWPMembers K) (wrmsr64 msrHWPEnable hwpEnableBit) := by
    intro w
    exact ⟨refl_of HWPMembers w.driver, .single ⟨refl_of HWPMembers w.driver, hEnable _ rfl⟩⟩
  refine keeps_getHWP.bind fun hwp => Keeps.ite (keeps_pure _) ?_
  refine (keeps_assignHWP (by simp)).bind fun _ => (keeps_rdmsr64 P hK _).bind fun pmEnable => ?_
  refine (keeps_assignHWP (by simp)).bind fun _ => ?_
  refine (Keeps.ite hwrite (keeps_pure _)).bind fun _ => ?_
  refine (keeps_hwpMembers (keeps_readHWPEnableStateLocked P hK)).bind fun enable => Keeps.ite (keeps_pure _) ?_
  exact (keeps_assignHWP (by simp)).bind fun _ => keeps_pure _

theorem frame_writeHWPPackageRequestLocked {value : U64} {w : World}
    (h : K ⟨.wrmsr msrHWPPackageRequest value, w.driver⟩) :
    Frame Eq K w (exec (writeHWPPackageRequestLocked P value) w).2 := by
  have hread : Keeps (Frame Eq K) (readHWPPackageRequestLocked P) :=
    keeps_readHWPPackageRequestLocked P hK
  unfold writeHWPPackageRequestLocked
  rw [exec_bind]
  refine trans_of (Frame Eq K) (hread w) ?_
  have hdriver := (hread w).driver
  rw [exec_ite]
  split
  · exact refl_of (Frame Eq K) _
  · have hwrite : Frame Eq K (exec (readHWPPackageRequestLocked P) w).2
        (exec (wrmsr64 msrHWPPackageRequest value) (exec (readHWPPackageRequestLocked P) w).2).2 := by
      refine ⟨rfl, .single ⟨rfl, ?_⟩⟩
      rw [← hdriver]
      exact h
    rw [exec_bind]
    refine trans_of (Frame Eq K) hwrite ?_
    rw [exec_bind]
    exact hread _

omit hK in
theorem frame_writeHWPRequestsLocked {values : CPU → U64} {present : CPU → Bool} {w : World}
    (h : ∀ cpus, K ⟨.hwpRequest (.write values present) cpus, w.driver⟩) :
    Frame Eq K w (exec (writeHWPRequestsLocked P values present) w).2 := by
  unfold writeHWPRequestsLocked
  rw [exec_bind, exec_ite]
  split
  · exact refl_of (Frame Eq K) w
  · have hwrite : Frame Eq K w
        (exec (rendezvousHWPRequest P (.write values present)) w).2 :=
      ⟨rfl, .single ⟨rfl, h _⟩⟩
    rw [exec_bind]
    refine trans_of (Frame Eq K) hwrite ?_
    rw [exec_ite]
    split
    · exact refl_of (Frame Eq K) _
    · exact refl_of (Frame Eq K) _

end

/-- A fail-safe write raises nothing. -/
theorem restrained_failsafe {d : Driver}
    (h : hwpLowest d.hwp.capabilitiesRaw < hwpHighest d.hwp.capabilitiesRaw) {request : U64}
    (hrequest : request = hwpFailsafeRequest d.hwp.capabilitiesRaw d.hwp.eppSupported)
    (present : CPU → Bool) (cpus : List HWPRequestCPU) :
    Entry.Restrained
      ⟨.hwpRequest (.write (fun index => if present index then request else 0) present) cpus, d⟩ := by
  refine ⟨trivial, id, ?_⟩
  rintro ⟨index, hpresent, hraise⟩
  have hlow := hwpMaximum_failsafe h d.hwp.eppSupported
  simp only [hpresent, if_true, hrequest, hwpEffectiveMaximum_failsafe] at hraise
  rcases hraise with hraise | hraise
  · exact absurd hlow (BitVec.not_lt.2 hraise)
  · exact absurd hlow (BitVec.not_lt.2 hraise.2)

section

variable {K : Entry → Prop} (P : Platform) (hK : ∀ e : Entry, e.Restrained → K e)

include hK

theorem keeps_ensureHWPFailSafeLocked : Keeps (Frame HWPDetection K) (ensureHWPFailSafeLocked P) := by
  have hread : ∀ e : Entry, e.event.IsRead → K e := fun e he => hK e he.restrained
  intro w
  unfold ensureHWPFailSafeLocked
  rw [exec_bind, exec_getHWP, exec_ite]
  split
  · exact refl_of (Frame HWPDetection K) w
  rename_i hsane
  -- a fail-safe request below the highest level is a restrained write
  have hlow : hwpLowest w.driver.hwp.capabilitiesRaw < hwpHighest w.driver.hwp.capabilitiesRaw := by
    simp only [Bool.or_eq_true, not_or, decide_eq_true_eq, BitVec.not_le] at hsane
    exact hsane.2
  rw [exec_bind, exec_assignHWP]
  set request := hwpFailsafeRequest w.driver.hwp.capabilitiesRaw w.driver.hwp.eppSupported
    with hrequest
  set w₁ : World :=
    { w with driver := { w.driver with hwp := { w.driver.hwp with failSafeRequest := request } } }
    with hw₁
  have h₁ : Frame HWPDetection K w w₁ := ⟨⟨⟨rfl, id⟩, rfl⟩, .refl⟩
  refine trans_of (Frame HWPDetection K) h₁ ?_
  have h₂ : Frame Eq K w₁ (exec (readHWPRequestsLocked P .zero) w₁).2 :=
    keeps_readHWPRequestsLocked P hread _ w₁
  rw [exec_bind]
  generalize exec (readHWPRequestsLocked P .zero) w₁ = r at h₂ ⊢
  obtain ⟨⟨ok, current⟩, w₂⟩ := r
  dsimp only at h₂ ⊢
  refine trans_of (Frame HWPDetection K) h₂.const ?_
  rw [exec_ite]
  split
  · exact refl_of (Frame HWPDetection K) w₂
  have hdriver : w₂.driver = w₁.driver := h₂.driver.symm
  -- the write
  have h₃ : Frame Eq K w₂ (exec (writeHWPRequestsLocked P
      (fun index => if current.present index then request else 0) current.present) w₂).2 := by
    apply frame_writeHWPRequestsLocked
    intro cpus
    apply hK
    apply restrained_failsafe
    · rw [hdriver]
      exact hlow
    · rw [hdriver]
  rw [exec_bind]
  refine trans_of (Frame HWPDetection K) h₃.const ?_
  refine Keeps.ite (keeps_pure _) ?_ _
  refine (keeps_logicalCPUCount _).bind fun _ => (keeps_detect (by simp)).bind fun _ => ?_
  exact keeps_verifyHWPFailSafeLocked P hread

theorem frame_bootstrapEnableHWPLocked (hEnable : ∀ e : Entry, e.event.IsEnable → K e)
    (w : World) :
    Frame HWPMembers K w (exec (bootstrapEnableHWPLocked P) w).2 ∧
      (exec (bootstrapEnableHWPLocked P) w).2.driver.hwp.enabledByTurboMac = true := by
  have hread : ∀ e : Entry, e.event.IsRead → K e := fun e he => hK e he.restrained
  set w₁ : World :=
    { w with driver := { w.driver with hwp := { w.driver.hwp with enabledByTurboMac := true } } }
  have hstart : Frame HWPMembers K w w₁ := ⟨⟨rfl, fun _ => rfl⟩, .refl⟩
  have hrest : Frame HWPMembers K w₁ (exec (bootstrapEnableHWPLocked P) w).2 := by
    unfold bootstrapEnableHWPLocked
    rw [exec_bind, exec_assignHWP]
    refine ((keeps_enableHWPPackageLocked P hread hEnable).bind fun _ => ?_ : Keeps _ _) w₁
    refine Keeps.ite (keeps_pure _) ?_
    refine (keeps_hwpMembers (keeps_initializeHWPLocked P hread)).bind fun _ => ?_
    refine Keeps.ite (keeps_pure _) (keeps_getHWP.bind fun hwp => Keeps.ite (keeps_pure _) ?_)
    refine (keeps_captureHWPStateLocked P hread).bind fun _ => Keeps.ite (keeps_pure _) ?_
    refine (keeps_hwpMembers (keeps_ensureHWPFailSafeLocked P hK)).bind fun _ => ?_
    refine Keeps.ite (keeps_pure _) ?_
    exact keeps_getDriver.bind fun d => keeps_verifyLimitsLocked P hread _
  exact ⟨trans_of _ hstart hrest, hrest.driver.enabledByTurboMac rfl⟩

theorem keeps_bootstrapHWPLocked (hEnable : ∀ e : Entry, e.event.IsEnable → K e) :
    Keeps (Frame HWPMembers K) (bootstrapHWPLocked P) := by
  have hread : ∀ e : Entry, e.event.IsRead → K e := fun e he => hK e he.restrained
  refine keeps_getDriver.bind fun d => Keeps.ite (keeps_pure _) ?_
  refine (keeps_verifyLimitsLocked P hread _).bind fun _ => Keeps.ite (keeps_pure _) ?_
  refine (keeps_hwpMembers (keeps_readPowerControlLocked P hread)).bind fun _ => Keeps.ite (keeps_pure _) ?_
  refine (keeps_hwpMembers (keeps_readHWPEnableStateLocked P hread)).bind fun _ => Keeps.ite (keeps_pure _) ?_
  exact fun w => (frame_bootstrapEnableHWPLocked P hK hEnable w).1

/-- What `restoreHWPLocked` writes for a capture. -/
theorem frame_restoreHWPLocked {w : World}
    (hpackage : w.driver.hwp.enabledByTurboMac = false → w.driver.hwp.captured = true →
      K ⟨.wrmsr msrHWPPackageRequest w.driver.hwp.capturedPackageRequest, w.driver⟩)
    (hrequests : w.driver.hwp.enabledByTurboMac = false → w.driver.hwp.captured = true →
      ∀ cpus, K ⟨.hwpRequest
        (.write w.driver.hwp.capturedRequests w.driver.hwp.capturedPresent) cpus, w.driver⟩) :
    Frame HWPMembers K w (exec (restoreHWPLocked P) w).2 := by
  have hread : ∀ e : Entry, e.event.IsRead → K e := fun e he => hK e he.restrained
  have hlast : ∀ packageRestored w', w'.driver = w.driver →
      w.driver.hwp.enabledByTurboMac = false → w.driver.hwp.captured = true →
      Frame HWPMembers K w' (exec (restoreHWPRequestsLocked P packageRestored) w').2 := by
    intro packageRestored w' hw' henabled hcaptured
    have hwrite := frame_writeHWPRequestsLocked P (fun cpus => by
      have h := hrequests henabled hcaptured cpus
      rw [← hw'] at h
      exact h)
    unfold restoreHWPRequestsLocked
    rw [exec_bind, exec_getHWP, exec_bind]
    refine trans_of (Frame HWPMembers K) hwrite.const ?_
    exact (keeps_assignHWP (by simp)).bind (fun _ => keeps_pure _) _
  unfold restoreHWPLocked
  rw [exec_bind, exec_getHWP, exec_ite]
  split
  · refine ((keeps_assignHWP (by simp)).bind fun _ => ?_ : Keeps _ _) w
    exact keeps_hwpMembers (keeps_ensureHWPFailSafeLocked P hK)
  rename_i henabled
  rw [Bool.not_eq_true] at henabled
  rw [exec_ite]
  split
  · exact refl_of (Frame HWPMembers K) w
  rename_i hcaptured
  rw [Bool.not_eq_true, Bool.not_eq_false'] at hcaptured
  rw [exec_ite]
  split
  · have hwrite := frame_writeHWPPackageRequestLocked P hread (hpackage henabled hcaptured)
    rw [exec_bind]
    refine trans_of (Frame HWPMembers K) hwrite.const ?_
    exact hlast _ _ hwrite.driver.symm henabled hcaptured
  · exact hlast _ w rfl henabled hcaptured

end

section

variable {K : Entry → Prop} (P : Platform)
  (hK : ∀ e : Entry, e.event.IsHWP → ¬ e.event.IsEnable → K e)

include hK

theorem keeps_applyHWPRequestsLocked (mode : U32) :
    Keeps (Frame HWPMembers K) (applyHWPRequestsLocked P mode) := by
  have hread : ∀ e : Entry, e.event.IsRead → K e := fun e he => hK e he.isHWP he.restrained.2.1
  refine keeps_getHWP.bind fun hwp => Keeps.bind ?_ fun _ => Keeps.ite (keeps_pure _) ?_
  · intro w
    exact (frame_writeHWPRequestsLocked P fun cpus => hK _ trivial id).const
  exact (keeps_assignHWP (by simp)).bind fun _ => keeps_verifyHWPOverrideLocked P hread

theorem keeps_applyHWPMaximumLocked (mode : U32) :
    Keeps (Frame HWPMembers K) (applyHWPMaximumLocked P mode) := by
  have hread : ∀ e : Entry, e.event.IsRead → K e := fun e he => hK e he.isHWP he.restrained.2.1
  refine keeps_getHWP.bind fun hwp => Keeps.ite (keeps_pure _) ?_
  refine (keeps_assignHWP (by simp)).bind fun _ => Keeps.ite ?_ (keeps_applyHWPRequestsLocked P hK mode)
  refine Keeps.bind ?_ fun _ => Keeps.ite (keeps_pure _) (keeps_applyHWPRequestsLocked P hK mode)
  intro w
  refine (frame_writeHWPPackageRequestLocked P hread (hK _ ?_ ?_)).const
  · show msrHWPPackageRequest ≠ msrPackagePowerLimit
    decide
  · show msrHWPPackageRequest ≠ msrHWPEnable
    decide

end

end TurboMac.Kext
