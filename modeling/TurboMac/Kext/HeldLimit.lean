import TurboMac.Kext.Observe
import TurboMac.Kext.Run

/-! # The milliwatts of the captured limit

`initializeCapabilitiesLocked` reads the exponent and with it the floor and the
maximum, once; `arm` takes the ceilings from the limit it captures. Nothing else
writes them, so that they fit each other in every run.
-/

namespace TurboMac.Kext

open Program

/-- `powerExponent_`, as `initializeCapabilitiesLocked` takes it from the units. -/
def unitExponent (units : U64) : U32 := (units &&& 0xf).setWidth 32

/-- A power of at most 15 bits, in milliwatts. -/
def IsPower (exponent mw : U32) : Prop := ∃ raw : U32, raw.toNat ≤ 0x7fff ∧ mw = raplRawToMW raw exponent

/-- What `initializeCapabilitiesLocked` finds in a package it supports. -/
structure Capable (d : Driver) : Prop where
  powerExponent : d.powerExponent = unitExponent d.unitsRaw
  floorMW : IsPower d.powerExponent d.floorMW ∧ d.floorMW ≠ 0 ∨ d.floorMW = 1000
  capabilityMaximumMW : IsPower d.powerExponent d.capabilityMaximumMW
  floor_le : d.floorMW ≤ d.capabilityMaximumMW

/-- The ceilings are those of the captured limit. -/
structure Ceilings (d : Driver) : Prop where
  pl1 : d.ceilingPL1MW = raplRawToMW (raplPl1Raw d.capturedPackageLimit) d.powerExponent
  pl2 : d.ceilingPL2MW = raplRawToMW (raplPl2Raw d.capturedPackageLimit) d.powerExponent

/-- A driver that has captured `limit` on a package of this exponent. -/
structure HoldsLimit (exponent : U32) (limit : U64) (d : Driver) : Prop where
  captured : d.captured = true
  capturedPackageLimit : d.capturedPackageLimit = limit
  powerExponent : d.powerExponent = exponent
  capable : Capable d
  ceilings : Ceilings d

theorem raplPl1Raw_le (limit : U64) : (raplPl1Raw limit).toNat ≤ 0x7fff := by
  have hle : (limit &&& raplPowerFieldMask).toNat ≤ 0x7fff := by
    rw [BitVec.toNat_and]
    exact Nat.and_le_right
  unfold raplPl1Raw
  rw [BitVec.toNat_setWidth]
  exact (Nat.mod_le _ _).trans hle

theorem raplPl2Raw_le (limit : U64) : (raplPl2Raw limit).toNat ≤ 0x7fff :=
  raplPl1Raw_le (limit >>> (32 : ℕ))

/-! ## What the calls leave alone -/

/-- The exponent, the floor, the maximum and the captured limit with its ceilings
have not changed, and nothing has been captured. -/
structure SameLimits (d d' : Driver) : Prop where
  supported : d'.supported = d.supported
  unitsRaw : d'.unitsRaw = d.unitsRaw
  powerExponent : d'.powerExponent = d.powerExponent
  floorMW : d'.floorMW = d.floorMW
  capabilityMaximumMW : d'.capabilityMaximumMW = d.capabilityMaximumMW
  ceilingPL1MW : d'.ceilingPL1MW = d.ceilingPL1MW
  ceilingPL2MW : d'.ceilingPL2MW = d.ceilingPL2MW
  capturedPackageLimit : d'.capturedPackageLimit = d.capturedPackageLimit
  captured : d'.captured = true → d.captured = true

instance : IsPreorder Driver SameLimits where
  refl _ := ⟨rfl, rfl, rfl, rfl, rfl, rfl, rfl, rfl, id⟩
  trans _ _ _ h h' :=
    ⟨h'.supported.trans h.supported, h'.unitsRaw.trans h.unitsRaw,
      h'.powerExponent.trans h.powerExponent, h'.floorMW.trans h.floorMW,
      h'.capabilityMaximumMW.trans h.capabilityMaximumMW, h'.ceilingPL1MW.trans h.ceilingPL1MW,
      h'.ceilingPL2MW.trans h.ceilingPL2MW, h'.capturedPackageLimit.trans h.capturedPackageLimit,
      fun hcaptured => h.captured (h'.captured hcaptured)⟩

theorem HWPMembers.sameLimits {d d' : Driver} (h : HWPMembers d d') : SameLimits d d' := by
  constructor
  all_goals
    rw [h.eq]
    try exact id

/-- Every event. -/
abbrev Anything : Entry → Prop := fun _ => True

/-- `m` leaves the limits alone. -/
abbrev KeepsLimits {α : Type} (m : DriverM α) : Prop := Keeps (Frame SameLimits Anything) m

theorem keepsLimits_hwp {α : Type} {K : Entry → Prop} {m : DriverM α}
    (h : Keeps (Frame HWPMembers K) m) : KeepsLimits m :=
  h.mono fun _ _ hw => hw.mono (fun _ _ hd => hd.sameLimits) fun _ _ => trivial

theorem keepsLimits_detection {α : Type} {K : Entry → Prop} {m : DriverM α}
    (h : Keeps (Frame HWPDetection K) m) : KeepsLimits m := keepsLimits_hwp (keeps_hwpMembers h)

section

variable (P : Platform)

private theorem anything_of_read : ∀ e : Entry, e.event.IsRead → Anything e := fun _ _ => trivial

theorem keepsLimits_setTimeoutMS (timeout : U32) : KeepsLimits (setTimeoutMS timeout) :=
  keeps_assign fun _ => ⟨rfl, rfl, rfl, rfl, rfl, rfl, rfl, rfl, id⟩

theorem keepsLimits_guard (enabled : Bool) : KeepsLimits (setPowerControlGuardLocked P enabled) :=
  keepsLimits_detection (K := Anything)
    (keeps_setPowerControlGuardLocked P enabled fun _ _ => trivial)

theorem keepsLimits_installLimitsLocked (pl1MW pl2MW : U32) :
    KeepsLimits (installLimitsLocked P pl1MW pl2MW) := by
  refine (keeps_rdmsr64 P anything_of_read _).bind fun current => keeps_getDriver.bind fun d => ?_
  refine Keeps.ite (keeps_pure _) (Keeps.bind ?_ fun _ => ?_)
  · intro w
    exact ⟨refl_of SameLimits w.driver, .single ⟨refl_of SameLimits w.driver, trivial⟩⟩
  refine (keeps_verifyLimitsLocked P anything_of_read _).bind fun _ => Keeps.ite (keeps_pure _) ?_
  refine Keeps.bind (keeps_assign fun _ => ?_) fun _ => keeps_pure _
  exact ⟨rfl, rfl, rfl, rfl, rfl, rfl, rfl, rfl, id⟩

theorem keepsLimits_armInstall (request : LimitRequest) (hwpWasEnabled : Bool) :
    KeepsLimits (armInstall P request hwpWasEnabled) := by
  have hbootstrap : KeepsLimits (bootstrapHWPLocked P) :=
    keepsLimits_hwp (K := Anything)
      (keeps_bootstrapHWPLocked P (fun _ _ => trivial) fun _ _ => trivial)
  refine keeps_getDriver.bind fun d => ?_
  refine (keeps_validateRequestLocked P anything_of_read _ _).bind fun _ => Keeps.ite (keeps_pure _) ?_
  refine (keepsLimits_installLimitsLocked P _ _).bind fun _ => Keeps.ite (keeps_pure _) ?_
  refine Keeps.ite (keeps_pure _) (hbootstrap.bind fun _ => Keeps.ite (keeps_pure _) ?_)
  exact Keeps.ite (keeps_pure _) (keepsLimits_installLimitsLocked P _ _)

theorem keepsLimits_schedulePassiveGuardLocked : KeepsLimits schedulePassiveGuardLocked := by
  refine keeps_getDriver.bind fun d => ?_
  exact Keeps.ite (keepsLimits_setTimeoutMS _) (keeps_pure _)

theorem keepsLimits_restorePassiveLocked (reason : RestoreReason) :
    KeepsLimits (restorePassiveLocked P reason) := by
  refine keeps_getDriver.bind fun d => Keeps.bind ?_ fun guardRestored => Keeps.bind ?_ fun _ => ?_
  · exact (keeps_pure _).andM (keepsLimits_detection (keeps_ensurePassiveGuardLocked P))
  · exact (keeps_pure _).orM (keepsLimits_detection (keeps_ensureHWPFailSafeLocked_guarding P))
  refine Keeps.bind (keeps_assign fun _ => ?_) fun _ => ?_
  · exact ⟨rfl, rfl, rfl, rfl, rfl, rfl, rfl, rfl, id⟩
  · exact keepsLimits_schedulePassiveGuardLocked.bind fun _ => keeps_pure _

theorem keepsLimits_restoreCapturedLocked (reason : RestoreReason) :
    KeepsLimits (restoreCapturedLocked P reason) := by
  refine (keepsLimits_guard P true).bind fun guardRestored => ?_
  refine (keepsLimits_hwp (keeps_restoreHWPLocked_onHWP P)).bind fun hwpRestored => ?_
  refine (keeps_restoreLimitsLocked P anything_of_read (fun _ _ => trivial) _).bind fun limitsRestored => ?_
  refine Keeps.bind (keeps_assign fun _ => ?_) fun _ => ?_
  · exact ⟨rfl, rfl, rfl, rfl, rfl, rfl, rfl, rfl, by simp⟩
  · exact keepsLimits_schedulePassiveGuardLocked.bind fun _ => keeps_pure _

theorem keepsLimits_restoreLocked (reason : RestoreReason) : KeepsLimits (restoreLocked P reason) := by
  refine Keeps.bind (keeps_assign fun _ => ?_) fun _ => keeps_getDriver.bind fun d => ?_
  · exact ⟨rfl, rfl, rfl, rfl, rfl, rfl, rfl, rfl, id⟩
  · exact Keeps.ite (keepsLimits_restorePassiveLocked P reason)
      (keepsLimits_restoreCapturedLocked P reason)

theorem keepsLimits_leave (exit : Exit) : KeepsLimits (leave P exit) := by
  cases exit with
  | done code => exact keeps_pure code
  | restore reason onRestored onFailed =>
      exact (keepsLimits_restoreLocked P reason).bind fun _ => keeps_pure _

theorem keepsLimits_updateExit (request : Option LimitRequest) : KeepsLimits (updateExit P request) := by
  refine keeps_getDriver.bind fun d => Keeps.ite (keeps_pure _) ?_
  refine (keeps_validateRequestLocked P anything_of_read _ _).bind fun _ => Keeps.ite (keeps_pure _) ?_
  cases request with
  | none => exact keeps_pure _
  | some request =>
      refine Keeps.ite (keeps_pure _) ?_
      refine (keepsLimits_detection (keeps_verifyArmedStateLocked P anything_of_read)).bind fun _ => ?_
      refine Keeps.ite (keeps_pure _) ?_
      refine (keeps_validateRequestLocked P anything_of_read _ _).bind fun _ => Keeps.ite (keeps_pure _) ?_
      refine (keepsLimits_installLimitsLocked P _ _).bind fun _ => Keeps.ite (keeps_pure _) ?_
      refine Keeps.bind (keeps_assign fun _ => ?_) fun _ => ?_
      · exact ⟨rfl, rfl, rfl, rfl, rfl, rfl, rfl, rfl, id⟩
      refine (keeps_readAbsoluteTime P anything_of_read).bind fun now => ?_
      refine Keeps.bind (keeps_assign fun _ => ?_) fun _ => ?_
      · exact ⟨rfl, rfl, rfl, rfl, rfl, rfl, rfl, rfl, id⟩
      · exact (keepsLimits_setTimeoutMS _).bind fun _ => keeps_pure _

theorem keepsLimits_disarmExit (request : Option CommandRequest) : KeepsLimits (disarmExit request) := by
  refine keeps_getDriver.bind fun d => ?_
  cases request with
  | none => exact keeps_pure _
  | some request =>
      refine Keeps.ite (keeps_pure _) (Keeps.bind (keeps_assign fun _ => ?_) fun _ => keeps_pure _)
      exact ⟨rfl, rfl, rfl, rfl, rfl, rfl, rfl, rfl, id⟩

theorem keepsLimits_watchdogPassive : KeepsLimits (watchdogPassive P) := by
  refine keeps_getHWP.bind fun hwp => Keeps.bind (Keeps.ite ?_ (keeps_pure _)) fun _ => ?_
  · exact (keepsLimits_detection (keeps_initializeHWPLocked P anything_of_read)).bind fun _ => keeps_pure _
  refine (keepsLimits_detection (keeps_ensurePassiveGuardLocked P)).bind fun guardSafe => ?_
  refine keeps_getHWP.bind fun hwp => Keeps.bind ?_ fun hwpSafe => Keeps.bind ?_ fun _ => ?_
  · refine (keeps_pure _).orM (Keeps.orM ?_ ?_)
    · exact keeps_verifyHWPFailSafeLocked P anything_of_read
    · exact keepsLimits_detection (keeps_ensureHWPFailSafeLocked_guarding P)
  · refine Keeps.ite (keeps_assign fun _ => ?_) (keeps_pure _)
    exact ⟨rfl, rfl, rfl, rfl, rfl, rfl, rfl, rfl, id⟩
  · exact (keepsLimits_setTimeoutMS _).bind fun _ => keeps_pure _

theorem keepsLimits_watchdogFiredExit : KeepsLimits (watchdogFiredExit P) := by
  refine Keeps.bind (keeps_assign fun _ => ?_) fun _ => keeps_getDriver.bind fun d => ?_
  · exact ⟨rfl, rfl, rfl, rfl, rfl, rfl, rfl, rfl, id⟩
  refine Keeps.ite ?_ (Keeps.ite (keepsLimits_watchdogPassive P) (keeps_pure _))
  refine (keeps_readAbsoluteTime P anything_of_read).bind fun now => keeps_getDriver.bind fun d => ?_
  refine Keeps.ite (keeps_pure _) ?_
  refine (keepsLimits_detection (keeps_verifyArmedStateLocked P anything_of_read)).bind fun _ => ?_
  exact Keeps.ite (keeps_pure _) ((keepsLimits_setTimeoutMS _).bind fun _ => keeps_pure _)

theorem keepsLimits_finish (op : Op) : KeepsLimits op.finish := by
  cases op with
  | clientDisconnected =>
      exact keeps_assign fun _ => ⟨rfl, rfl, rfl, rfl, rfl, rfl, rfl, rfl, id⟩
  | arm | update | disarm | invalidClientCommand | watchdogFired => exact keeps_pure _

/-! ## Runs -/

/-- A package that is supported is capable, and only such a one captures. -/
structure Held (d : Driver) : Prop where
  capable : d.supported = true → Capable d
  captured : d.captured = true → d.supported = true ∧ Ceilings d

theorem Held.holdsLimit {d : Driver} (h : Held d) (hcaptured : d.captured = true) :
    HoldsLimit (unitExponent d.unitsRaw) d.capturedPackageLimit d := by
  obtain ⟨hsupported, hceilings⟩ := h.captured hcaptured
  have hcapable := h.capable hsupported
  exact ⟨hcaptured, rfl, hcapable.powerExponent, hcapable, hceilings⟩

theorem Capable.sameLimits {d d' : Driver} (h : Capable d) (hsame : SameLimits d d') :
    Capable d' := by
  constructor
  · rw [hsame.powerExponent, hsame.unitsRaw]
    exact h.powerExponent
  · rw [hsame.powerExponent, hsame.floorMW]
    exact h.floorMW
  · rw [hsame.powerExponent, hsame.capabilityMaximumMW]
    exact h.capabilityMaximumMW
  · rw [hsame.floorMW, hsame.capabilityMaximumMW]
    exact h.floor_le

theorem Held.sameLimits {d d' : Driver} (h : Held d) (hsame : SameLimits d d') : Held d' := by
  constructor
  · intro hsupported
    rw [hsame.supported] at hsupported
    exact (h.capable hsupported).sameLimits hsame
  · intro hcaptured
    obtain ⟨hsupported, hceilings⟩ := h.captured (hsame.captured hcaptured)
    refine ⟨hsame.supported.trans hsupported, ?_, ?_⟩
    · rw [hsame.ceilingPL1MW, hsame.capturedPackageLimit, hsame.powerExponent]
      exact hceilings.pl1
    · rw [hsame.ceilingPL2MW, hsame.capturedPackageLimit, hsame.powerExponent]
      exact hceilings.pl2

/-- `arm` may capture where the package is supported. -/
theorem Held.store {w : World} (h : Held w.driver) (hsupported : w.driver.supported = true)
    (capture : ArmCapture) : Held (capture.store w).driver := by
  have hcapable := h.capable hsupported
  refine ⟨fun _ => ?_, fun _ => ⟨hsupported, rfl, rfl⟩⟩
  exact ⟨hcapable.powerExponent, hcapable.floorMW, hcapable.capabilityMaximumMW, hcapable.floor_le⟩

theorem Held.armExit {request : Option LimitRequest} {w : World} (h : Held w.driver) :
    Held (exec (armExit P request) w).2.driver := by
  rcases armExit_cases P request w with ⟨code, w', hexec, hrefused⟩ |
    ⟨r, capture, w₀, w₁, -, hsupported, -, -, hvalidate, hcheck, -, hexec⟩
  · rw [hexec]
    obtain ⟨d, hd, hdriver⟩ := hrefused.driver
    have hheld := h.sameLimits hd.sameLimits
    show Held w'.driver
    rw [hdriver]
    exact hheld.sameLimits ⟨rfl, rfl, rfl, rfl, rfl, rfl, rfl, rfl, id⟩
  rw [hexec]
  have hdriver : w₀.driver = w.driver := hvalidate.driver.symm
  have hheld₁ : Held w₁.driver := (hdriver ▸ h).sameLimits hcheck.driver.sameLimits
  have hsupported₁ : w₁.driver.supported = true := by
    rw [hcheck.driver.sameLimits.supported, hdriver]
    exact hsupported
  have hstore := hheld₁.store hsupported₁ capture
  generalize hcaptured : exec (armCaptured P r capture) w₁ = result
  obtain ⟨exit, w'⟩ := result
  show Held w'.driver
  obtain ⟨installed, w₂, hinstall, hrest⟩ := armCaptured_cases P hcaptured
  have hheld₂ : Held w₂.driver :=
    hstore.sameLimits ((keepsLimits_armInstall P r _).rel hinstall).driver
  rcases hrest with ⟨-, -, rfl⟩ | ⟨-, applied, w₃, happly, hrest⟩
  · exact hheld₂
  have hheld₃ : Held w₃.driver :=
    hheld₂.sameLimits ((keeps_applyHWPMaximumLocked_onHWP P _).rel happly).driver.sameLimits
  rcases hrest with ⟨-, -, rfl⟩ | ⟨-, cleared, w₄, hclear, hrest⟩
  · exact hheld₃
  have hheld₄ : Held w₄.driver := hheld₃.sameLimits ((keepsLimits_guard P false).rel hclear).driver
  rcases hrest with ⟨-, -, rfl⟩ | ⟨-, -, rfl⟩
  · exact hheld₄
  · exact hheld₄.sameLimits ⟨rfl, rfl, rfl, rfl, rfl, rfl, rfl, rfl, id⟩

theorem Held.exit (op : Op) {w : World} (h : Held w.driver) :
    Held (exec (op.exit P) w).2.driver := by
  cases op with
  | arm request => exact h.armExit P
  | update request => exact h.sameLimits (keepsLimits_updateExit P request w).driver
  | disarm request => exact h.sameLimits (keepsLimits_disarmExit request w).driver
  | invalidClientCommand => exact h
  | clientDisconnected => exact h
  | watchdogFired => exact h.sameLimits (keepsLimits_watchdogFiredExit P w).driver

theorem Held.after (op : Op) {w : World} (h : Held w.driver) : Held (op.after P w).driver := by
  have hexit := h.exit P op
  rw [after_eq]
  generalize exec (op.exit P) w = result at hexit ⊢
  have hleave := hexit.sameLimits (keepsLimits_leave P result.1 result.2).driver
  exact hleave.sameLimits (keepsLimits_finish op _).driver

/-- Capable, and nothing captured yet. -/
def Found (d : Driver) : Prop := Capable d ∧ d.captured = false

/-- The driver of `init`: not supported yet, nothing captured. -/
def Unstarted (d : Driver) : Prop := d.supported = false ∧ d.captured = false

theorem Found.held {d : Driver} (h : Found d) : Held d :=
  ⟨fun _ => h.1, fun hcaptured => absurd hcaptured (by simp [h.2])⟩

theorem Unstarted.held {d : Driver} (h : Unstarted d) : Held d :=
  ⟨fun hsupported => absurd hsupported (by simp [h.1]),
    fun hcaptured => absurd hcaptured (by simp [h.2])⟩

theorem Found.sameLimits {d d' : Driver} (h : Found d) (hsame : SameLimits d d') : Found d' := by
  refine ⟨h.1.sameLimits hsame, Bool.eq_false_iff.mpr fun hcaptured => ?_⟩
  exact absurd (hsame.captured hcaptured) (by simp [h.2])

theorem Unstarted.sameLimits {d d' : Driver} (h : Unstarted d) (hsame : SameLimits d d') : Unstarted d' := by
  refine ⟨hsame.supported.trans h.1, Bool.eq_false_iff.mpr fun hcaptured => ?_⟩
  exact absurd (hsame.captured hcaptured) (by simp [h.2])

theorem triple_found {α : Type} {m : DriverM α} (h : KeepsLimits m) :
    Triple (fun w => Found w.driver) m fun _ w => Found w.driver :=
  fun w hw => hw.sameLimits (h w).driver

theorem triple_found_supported (supported : Bool) :
    Triple (fun w => Found w.driver) (assign fun d => { d with supported := supported })
      fun _ w => Found w.driver := by
  intro w hw
  exact ⟨⟨hw.1.powerExponent, hw.1.floorMW, hw.1.capabilityMaximumMW, hw.1.floor_le⟩, hw.2⟩

theorem initializeGuardLocked_found :
    Triple (fun w => Found w.driver) (initializeGuardLocked P) fun _ w => Found w.driver := by
  have hread := triple_found
    (keepsLimits_detection (K := Anything) (keeps_readPowerControlLocked P anything_of_read))
  refine hread.bind fun guard => (triple_found_supported _).bind fun _ => ?_
  refine Triple.ite (fun _ => ?_) fun _ => fun _ hw => hw
  exact (triple_found (keepsLimits_guard P true)).bind fun restored =>
    (triple_found_supported _).bind fun _ => fun _ hw => hw

/-- The registers are read, and the floor with them. -/
structure FloorRead (units : U64) (d : Driver) : Prop where
  idle : Unstarted d
  unitsRaw : d.unitsRaw = units
  powerExponent : d.powerExponent = unitExponent units
  floorMW : IsPower d.powerExponent d.floorMW ∧ d.floorMW ≠ 0 ∨ d.floorMW = 1000

/-- The maximum is a power, whether the power info has it or the limit of the time. -/
theorem capabilityMaximum_isPower {units : U64} {raw : U32} (hraw : raw.toNat ≤ 0x7fff) :
    Triple (fun w => FloorRead units w.driver)
      (capabilityMaximum P (raplRawToMW raw (unitExponent units)))
      fun maximum w => FloorRead units w.driver ∧ IsPower w.driver.powerExponent maximum := by
  refine Triple.ite (fun _ w hw => ⟨hw, raw, hraw, ?_⟩) fun _ w hw => ⟨hw, ?_⟩
  · exact congrArg (raplRawToMW raw) hw.powerExponent.symm
  · show IsPower w.driver.powerExponent (ite _ _ _)
    split
    · exact ⟨_, raplPl1Raw_le _, rfl⟩
    · exact ⟨_, raplPl2Raw_le _, rfl⟩

theorem initializeCapabilitiesLocked_held :
    Triple (fun w => Unstarted w.driver) (initializeCapabilitiesLocked P) fun _ w => Held w.driver := by
  have hidentity : Triple (fun w => Unstarted w.driver) (readCPUIdentity P) fun _ w => Unstarted w.driver :=
    fun _ hw => hw
  refine hidentity.bind fun identity => ?_
  obtain ⟨family, model, stepping⟩ := identity
  have hassign : Triple (fun w => Unstarted w.driver)
      (assign fun d => { d with cpuFamily := family, cpuModel := model, cpuStepping := stepping })
      fun _ w => Unstarted w.driver := fun _ hw => hw
  refine hassign.bind fun _ => Triple.ite (fun _ w hw => Unstarted.held hw) fun _ => ?_
  have hread : ∀ msr, Triple (fun w => Unstarted w.driver) (rdmsr64 P msr) fun _ w => Unstarted w.driver :=
    fun _ _ hw => hw
  refine (hread _).bind fun units => (hread _).bind fun powerInfo => ?_
  refine @Triple.bind _ _ _ _ _ (fun _ w => FloorRead units w.driver) _ _ ?_ fun _ => ?_
  · intro w hw
    refine ⟨hw, rfl, rfl, ?_⟩
    show (IsPower _ (ite _ _ _) ∧ ite _ _ _ ≠ _) ∨ ite _ _ _ = _
    split
    · exact .inr rfl
    · rename_i hfloor
      exact .inl ⟨⟨_, raplPl1Raw_le (powerInfo >>> (16 : ℕ)), rfl⟩, hfloor⟩
  refine (capabilityMaximum_isPower P (raplPl1Raw_le (powerInfo >>> (32 : ℕ)))).bind
    fun maximum => ?_
  -- the package is supported from here on, or it is not
  refine @Triple.bind _ _ _ _ _ (fun _ w => Unstarted w.driver ∨ Found w.driver) _ _ ?_ fun _ => ?_
  · rintro w ⟨hfloor, hmaximum⟩
    by_cases hle : w.driver.floorMW ≤ maximum
    · right
      exact ⟨⟨hfloor.powerExponent.trans (congrArg unitExponent hfloor.unitsRaw.symm),
        hfloor.floorMW, hmaximum, hle⟩, hfloor.idle.2⟩
    · left
      exact ⟨decide_eq_false fun h => hle h.2.2.2, hfloor.idle.2⟩
  have hdetection : KeepsLimits (initializeHWPLocked P) :=
    keepsLimits_detection (K := Anything) (keeps_initializeHWPLocked P anything_of_read)
  refine @Triple.bind _ _ _ _ _ (fun _ w => Unstarted w.driver ∨ Found w.driver) _ _ ?_ fun _ => ?_
  · intro w hw
    have hsame := (hdetection w).driver
    exact hw.imp (fun h => h.sameLimits hsame) fun h => h.sameLimits hsame
  intro w hw
  rw [exec_bind, exec_getDriver, exec_ite]
  split
  · rename_i hsupported
    have hfound := hw.resolve_left fun hidle => by simp [hidle.1] at hsupported
    exact (initializeGuardLocked_found P w hfound).held
  · exact hw.elim (fun h => h.held) fun h => h.held

/-- The start finds the package capable if it supports it. -/
theorem held_started : Held (started P).driver := by
  set w₀ : World := ⟨{ initialDriver with watchdog := some ⟨none⟩ }, []⟩ with hw₀
  have hheld : Held (exec (initializeCapabilitiesLocked P) w₀).2.driver :=
    initializeCapabilitiesLocked_held P w₀ ⟨rfl, rfl⟩
  have hschedule : KeepsLimits (doIf (exec (initializeCapabilitiesLocked P) w₀).1
      schedulePassiveGuardLocked) := by
    unfold doIf
    exact Keeps.ite keepsLimits_schedulePassiveGuardLocked (keeps_pure _)
  exact hheld.sameLimits (hschedule _).driver

/-- In every run a captured driver holds its limit. -/
theorem run_holdsLimit (ops : List Op) :
    let d := (run P ops (started P)).driver
    d.captured = true → HoldsLimit (unitExponent d.unitsRaw) d.capturedPackageLimit d := by
  have hheld : Held (run P ops (started P)).driver :=
    run_invariant (p := fun w => Held w.driver) P (fun op _ h => h.after P op) ops (held_started P)
  exact hheld.holdsLimit

end

end TurboMac.Kext
