import TurboMac.Kext.UserClient

/-! # What the HWP flags mean

Between calls an HWP override and its capture are in force exactly while the driver is
Armed, and a fail-safe request only outside Armed and over an HWP that TurboMac enabled.
-/

namespace TurboMac.Kext

open Program

/-- The flags of the HWP members that a client is told. -/
structure HWPFlags where
  captured : Bool
  overrideActive : Bool
  enabledByTurboMac : Bool
  failSafeActive : Bool

def HWP.flags (hwp : HWP) : HWPFlags :=
  ⟨hwp.captured, hwp.overrideActive, hwp.enabledByTurboMac, hwp.failSafeActive⟩

/-- The flags, with whether there is a capture of the package limit, and the state. -/
def Driver.flags (d : Driver) : HWPFlags × Bool × DriverState := (d.hwp.flags, d.captured, d.state)

/-- All of that is as it was. -/
def SameFlags (w w' : World) : Prop := w'.driver.flags = w.driver.flags

instance : IsPreorder World SameFlags where
  refl _ := rfl
  trans _ _ _ h h' := Eq.trans h' h

/-- No override has come into force, and a fail-safe request only over an HWP that
TurboMac enabled, which is never taken back. -/
structure Modest (w w' : World) : Prop where
  overrideActive : w'.driver.hwp.overrideActive = true → w.driver.hwp.overrideActive = true
  enabledByTurboMac : w.driver.hwp.enabledByTurboMac = true → w'.driver.hwp.enabledByTurboMac = true
  failSafeActive : w'.driver.hwp.failSafeActive = true →
    w.driver.hwp.failSafeActive = true ∨ w'.driver.hwp.enabledByTurboMac = true

instance : IsPreorder World Modest where
  refl _ := ⟨id, id, .inl⟩
  trans _ _ _ h h' := by
    refine ⟨h.overrideActive ∘ h'.overrideActive, h'.enabledByTurboMac ∘ h.enabledByTurboMac, ?_⟩
    intro hfailSafe
    rcases h'.failSafeActive hfailSafe with hbefore | henabled
    · exact (h.failSafeActive hbefore).imp id h'.enabledByTurboMac
    · exact .inr henabled

theorem SameFlags.hwp {w w' : World} (h : SameFlags w w') :
    w'.driver.hwp.flags = w.driver.hwp.flags := congrArg Prod.fst h

theorem SameFlags.driver {w w' : World} (h : SameFlags w w') :
    w'.driver.captured = w.driver.captured ∧ w'.driver.state = w.driver.state :=
  ⟨congrArg (·.2.1) h, congrArg (·.2.2) h⟩

theorem SameFlags.modest {w w' : World} (h : SameFlags w w') : Modest w w' := by
  have hoverride : w'.driver.hwp.overrideActive = _ := congrArg HWPFlags.overrideActive h.hwp
  have henabled : w'.driver.hwp.enabledByTurboMac = _ := congrArg HWPFlags.enabledByTurboMac h.hwp
  have hfailSafe : w'.driver.hwp.failSafeActive = _ := congrArg HWPFlags.failSafeActive h.hwp
  exact ⟨fun h => hoverride.symm.trans h, fun h => henabled.trans h,
    fun h => .inl (hfailSafe.symm.trans h)⟩

/-- The relation of `ensureHWPFailSafeLocked` once it has seen that TurboMac enabled HWP. -/
def StaysEnabled (w w' : World) : Prop :=
  w.driver.hwp.enabledByTurboMac = true → w'.driver.hwp.enabledByTurboMac = true ∧
    (w'.driver.hwp.overrideActive = true → w.driver.hwp.overrideActive = true)

instance : IsPreorder World StaysEnabled where
  refl _ h := ⟨h, id⟩
  trans _ _ _ h h' henabled :=
    ⟨(h' (h henabled).1).1, (h henabled).2 ∘ (h' (h henabled).1).2⟩

theorem SameFlags.staysEnabled {w w' : World} (h : SameFlags w w') : StaysEnabled w w' :=
  fun henabled => ⟨h.modest.enabledByTurboMac henabled, h.modest.overrideActive⟩

section

variable {α β : Type} {m : DriverM α}

/-- What keeps the driver keeps the flags. -/
theorem sameFlags_of_eq (h : Keeps (Frame Eq fun _ => True) m) : Keeps SameFlags m :=
  h.mono fun _ _ hw => congrArg Driver.flags hw.driver.symm

theorem modest_of_sameFlags (h : Keeps SameFlags m) : Keeps Modest m := h.mono fun _ _ hw => hw.modest

theorem staysEnabled_of_sameFlags (h : Keeps SameFlags m) : Keeps StaysEnabled m :=
  h.mono fun _ _ hw => hw.staysEnabled

theorem sameFlags_assign {f : Driver → Driver} {k : PUnit → DriverM β}
    (h : ∀ d, (f d).flags = d.flags) (hk : ∀ u, Keeps SameFlags (k u)) :
    Keeps SameFlags (assign f >>= k) :=
  Keeps.bind (fun w => h w.driver) hk

theorem sameFlags_assignHWP {f : HWP → HWP} {k : PUnit → DriverM β}
    (h : ∀ hwp, (f hwp).flags = hwp.flags) (hk : ∀ u, Keeps SameFlags (k u)) :
    Keeps SameFlags (assignHWP f >>= k) :=
  Keeps.bind (fun w => congrArg (·, w.driver.captured, w.driver.state) (h w.driver.hwp)) hk

theorem modest_assignHWP {f : HWP → HWP} {k : PUnit → DriverM β}
    (hoverride : ∀ hwp, (f hwp).overrideActive = true → hwp.overrideActive = true)
    (henabled : ∀ hwp, hwp.enabledByTurboMac = true → (f hwp).enabledByTurboMac = true)
    (hfailSafe : ∀ hwp, (f hwp).failSafeActive = hwp.failSafeActive) (hk : ∀ u, Keeps Modest (k u)) :
    Keeps Modest (assignHWP f >>= k) :=
  Keeps.bind (fun w => ⟨hoverride w.driver.hwp, henabled w.driver.hwp,
    fun h => .inl ((hfailSafe w.driver.hwp).symm.trans h)⟩) hk

end

theorem sameFlags_getDriver : Keeps SameFlags getDriver := fun _ => rfl

theorem sameFlags_getHWP : Keeps SameFlags getHWP := fun _ => rfl

theorem modest_getHWP : Keeps Modest getHWP := fun _ => ⟨id, id, .inl⟩

theorem modest_getDriver : Keeps Modest getDriver := fun _ => ⟨id, id, .inl⟩

section

variable (P : Platform)

private theorem read_true : ∀ e : Entry, e.event.IsRead → (fun _ : Entry => True) e :=
  fun _ _ => trivial

/-! ## What keeps the flags -/

theorem sameFlags_rdmsr64 (msr : U32) : Keeps SameFlags (rdmsr64 P msr) := fun _ => rfl

theorem sameFlags_wrmsr64 (msr : U32) (value : U64) : Keeps SameFlags (wrmsr64 msr value) := fun _ => rfl

theorem sameFlags_readHWPRequestsLocked (out : HWPRequests) :
    Keeps SameFlags (readHWPRequestsLocked P out) :=
  sameFlags_of_eq (keeps_readHWPRequestsLocked P read_true out)

theorem sameFlags_writeHWPRequestsLocked (values : CPU → U64) (present : CPU → Bool) :
    Keeps SameFlags (writeHWPRequestsLocked P values present) :=
  sameFlags_of_eq fun _ => frame_writeHWPRequestsLocked P fun _ => trivial

theorem sameFlags_writeHWPPackageRequestLocked (value : U64) :
    Keeps SameFlags (writeHWPPackageRequestLocked P value) :=
  sameFlags_of_eq fun _ => frame_writeHWPPackageRequestLocked P read_true trivial

theorem sameFlags_verifyLimitsLocked (expected : U64) : Keeps SameFlags (verifyLimitsLocked P expected) :=
  sameFlags_of_eq (keeps_verifyLimitsLocked P read_true expected)

theorem sameFlags_readPowerControlLocked : Keeps SameFlags (readPowerControlLocked P) := by
  have hrendezvous : Keeps SameFlags (rendezvousPowerControl P .read) := fun _ => rfl
  refine hrendezvous.bind fun _ => Keeps.ite (keeps_pure _) ?_
  exact sameFlags_assign (fun _ => rfl) fun _ => keeps_pure _

theorem sameFlags_setPowerControlGuardLocked (enabled : Bool) :
    Keeps SameFlags (setPowerControlGuardLocked P enabled) := by
  have hrendezvous : Keeps SameFlags
      (rendezvousPowerControl P (if enabled then .setGuard else .clearGuard)) := fun _ => rfl
  refine hrendezvous.bind fun _ => Keeps.ite (keeps_pure _) (Keeps.ite (keeps_pure _) ?_)
  exact sameFlags_assign (fun _ => rfl) fun _ => keeps_pure _

theorem sameFlags_ensurePassiveGuardLocked : Keeps SameFlags (ensurePassiveGuardLocked P) := by
  refine (sameFlags_readPowerControlLocked P).bind fun _ => Keeps.ite (keeps_pure _) ?_
  exact Keeps.ite (keeps_pure _) (sameFlags_setPowerControlGuardLocked P true)

theorem sameFlags_readHWPEnableStateLocked : Keeps SameFlags (readHWPEnableStateLocked P) := by
  have hrendezvous : Keeps SameFlags (rendezvousHWPEnable P) := fun _ => rfl
  refine sameFlags_getHWP.bind fun _ => Keeps.ite (keeps_pure _) (hrendezvous.bind fun _ => ?_)
  refine Keeps.ite (keeps_pure _) (sameFlags_assignHWP (fun _ => rfl) fun _ => ?_)
  exact Keeps.ite (keeps_pure _) (sameFlags_assign (fun _ => rfl) fun _ => keeps_pure _)

theorem sameFlags_initializeHWPLocked : Keeps SameFlags (initializeHWPLocked P) := by
  have hcpuid : ∀ leaf, Keeps SameFlags (cpuid P leaf) := fun _ _ => rfl
  refine (hcpuid 0).bind fun _ => Keeps.ite (keeps_pure _) ((hcpuid 6).bind fun _ => ?_)
  refine sameFlags_assignHWP (fun _ => rfl) fun _ => sameFlags_getHWP.bind fun _ => ?_
  refine Keeps.ite (keeps_pure _) ((sameFlags_readHWPEnableStateLocked P).bind fun _ => Keeps.ite ?_ ?_)
  · exact sameFlags_assignHWP (fun _ => rfl) fun _ => keeps_pure _
  refine sameFlags_assignHWP (fun _ => rfl) fun _ => Keeps.ite (keeps_pure _) ?_
  refine (sameFlags_rdmsr64 P _).bind fun _ => sameFlags_assignHWP (fun _ => rfl) fun _ => ?_
  refine Keeps.ite (keeps_pure _) (sameFlags_assignHWP (fun _ => rfl) fun _ => ?_)
  refine (sameFlags_readHWPRequestsLocked P _).bind fun _ => Keeps.ite (keeps_pure _) ?_
  exact sameFlags_assign (fun _ => rfl) fun _ => keeps_pure _

theorem sameFlags_verifyArmedStateLocked : Keeps SameFlags (verifyArmedStateLocked P) := by
  have hverify := sameFlags_of_eq (keeps_verifyHWPOverrideLocked P read_true)
  refine (sameFlags_readPowerControlLocked P).bind fun _ => Keeps.ite (keeps_pure _) ?_
  refine sameFlags_getDriver.bind fun _ => (sameFlags_verifyLimitsLocked P _).bind fun _ => ?_
  exact Keeps.ite (keeps_pure _) hverify

theorem sameFlags_installLimitsLocked (pl1MW pl2MW : U32) :
    Keeps SameFlags (installLimitsLocked P pl1MW pl2MW) := by
  refine (sameFlags_rdmsr64 P _).bind fun _ => sameFlags_getDriver.bind fun _ => ?_
  refine Keeps.ite (keeps_pure _) ((sameFlags_wrmsr64 _ _).bind fun _ => ?_)
  refine (sameFlags_verifyLimitsLocked P _).bind fun _ => Keeps.ite (keeps_pure _) ?_
  exact sameFlags_assign (fun _ => rfl) fun _ => keeps_pure _

/-! ## What captures, and what enables HWP -/

theorem copyCapturedRequests_flags (hwp : HWP) : (copyCapturedRequests hwp).2.flags = hwp.flags := by
  simp only [copyCapturedRequests]
  split <;> rfl

theorem modest_captureHWPStateLocked_finish (count : ℕ) :
    Keeps Modest (captureHWPStateLocked.finish count) := by
  intro w
  have hcopied : SameFlags w
      { w with driver := { w.driver with hwp := (copyCapturedRequests w.driver.hwp).2 } } :=
    congrArg (·, w.driver.captured, w.driver.state) (copyCapturedRequests_flags w.driver.hwp)
  have hcount : Keeps SameFlags (assign fun d => { d with logicalCPUCount := BitVec.ofNat 32 count }) :=
    fun _ => rfl
  refine trans_of Modest hcopied.modest (Keeps.ite (keeps_pure _) ?_ _)
  refine (modest_of_sameFlags hcount).bind fun _ => ?_
  exact modest_assignHWP (fun _ h => by cases h) (fun _ h => h) (fun _ => rfl) fun _ => keeps_pure _

theorem modest_captureHWPStateLocked : Keeps Modest (captureHWPStateLocked P) := by
  have hsame : ∀ {f : HWP → HWP} {β : Type} {k : PUnit → DriverM β},
      (∀ hwp, (f hwp).flags = hwp.flags) → (∀ u, Keeps Modest (k u)) → Keeps Modest (assignHWP f >>= k) := by
    intro f β k hf hk
    refine Keeps.bind (fun w => SameFlags.modest ?_) hk
    exact congrArg (·, w.driver.captured, w.driver.state) (hf w.driver.hwp)
  refine (modest_of_sameFlags (sameFlags_readHWPEnableStateLocked P)).bind fun _ => Keeps.ite ?_ ?_
  · exact hsame (fun _ => rfl) fun _ => keeps_pure _
  refine hsame (fun _ => rfl) fun _ => (modest_of_sameFlags (sameFlags_rdmsr64 P _)).bind fun _ => ?_
  refine hsame (fun _ => rfl) fun _ => Keeps.ite (keeps_pure _) (modest_getHWP.bind fun hwp => ?_)
  refine (modest_of_sameFlags (sameFlags_readHWPRequestsLocked P _)).bind fun _ => ?_
  refine hsame (fun _ => rfl) fun _ => Keeps.ite (keeps_pure _) (hsame (fun _ => rfl) fun _ => ?_)
  refine Keeps.ite ?_ (modest_captureHWPStateLocked_finish _)
  have hpackage := sameFlags_of_eq (keeps_readHWPPackageRequestLocked P read_true)
  refine (modest_of_sameFlags hpackage).bind fun packageRequest => ?_
  cases packageRequest with
  | none => exact keeps_pure _
  | some packageRequest => exact hsame (fun _ => rfl) fun _ => modest_captureHWPStateLocked_finish _

theorem modest_ensureHWPFailSafeLocked : Keeps Modest (ensureHWPFailSafeLocked P) := by
  intro w
  generalize hexec : exec (ensureHWPFailSafeLocked P) w = r
  unfold ensureHWPFailSafeLocked at hexec
  rw [exec_bind, exec_getHWP] at hexec
  rcases exec_ite_cases hexec with ⟨-, rfl⟩ | ⟨henabled, hexec⟩
  · exact refl_of Modest w
  have henabled : w.driver.hwp.enabledByTurboMac = true := by
    simp only [Bool.or_eq_true, not_or, Bool.not_eq_true', Bool.not_eq_false] at henabled
    exact henabled.1.1.1
  -- from here on every step leaves HWP as one that TurboMac enabled
  have hverify := sameFlags_of_eq (keeps_verifyHWPFailSafeLocked P read_true)
  have hcount : ∀ count, Keeps SameFlags (assign fun d => { d with logicalCPUCount := count }) :=
    fun _ _ => rfl
  have hkeeps : StaysEnabled w r.2 := by
    rcases r with ⟨ok, w'⟩
    refine Keeps.rel ?_ hexec
    refine Keeps.bind (fun _ => SameFlags.staysEnabled rfl) fun _ => ?_
    refine (staysEnabled_of_sameFlags (sameFlags_readHWPRequestsLocked P _)).bind fun _ => ?_
    refine Keeps.ite (keeps_pure _) ?_
    refine (staysEnabled_of_sameFlags (sameFlags_writeHWPRequestsLocked P _ _)).bind fun _ => ?_
    refine Keeps.ite (keeps_pure _) ((staysEnabled_of_sameFlags (hcount _)).bind fun _ => ?_)
    refine Keeps.bind (fun w henabled => ?_) fun _ => staysEnabled_of_sameFlags hverify
    exact ⟨henabled, fun hoverride => by cases hoverride⟩
  have hstays := hkeeps henabled
  exact ⟨hstays.2, fun _ => hstays.1, fun _ => .inr hstays.1⟩

theorem sameFlags_enableHWPPackageLocked : Keeps SameFlags (enableHWPPackageLocked P) := by
  refine sameFlags_getHWP.bind fun _ => Keeps.ite (keeps_pure _) ?_
  refine sameFlags_assignHWP (fun _ => rfl) fun _ => (sameFlags_rdmsr64 P _).bind fun _ => ?_
  refine sameFlags_assignHWP (fun _ => rfl) fun _ => Keeps.bind ?_ fun _ => ?_
  · exact Keeps.ite (sameFlags_wrmsr64 _ _) (keeps_pure _)
  refine (sameFlags_readHWPEnableStateLocked P).bind fun _ => Keeps.ite (keeps_pure _) ?_
  exact sameFlags_assignHWP (fun _ => rfl) fun _ => keeps_pure _

theorem modest_bootstrapHWPLocked : Keeps Modest (bootstrapHWPLocked P) := by
  have hlimits := fun expected => modest_of_sameFlags (sameFlags_verifyLimitsLocked P expected)
  have hguard := modest_of_sameFlags (sameFlags_readPowerControlLocked P)
  have henable := modest_of_sameFlags (sameFlags_readHWPEnableStateLocked P)
  refine modest_getDriver.bind fun _ => Keeps.ite (keeps_pure _) ((hlimits _).bind fun _ => ?_)
  refine Keeps.ite (keeps_pure _) (hguard.bind fun _ => Keeps.ite (keeps_pure _) ?_)
  refine henable.bind fun _ => Keeps.ite (keeps_pure _) ?_
  refine modest_assignHWP (fun _ h => h) (fun _ _ => rfl) (fun _ => rfl) fun _ => ?_
  refine (modest_of_sameFlags (sameFlags_enableHWPPackageLocked P)).bind fun _ => ?_
  refine Keeps.ite (keeps_pure _) ?_
  refine (modest_of_sameFlags (sameFlags_initializeHWPLocked P)).bind fun _ => ?_
  refine Keeps.ite (keeps_pure _) (modest_getHWP.bind fun _ => Keeps.ite (keeps_pure _) ?_)
  refine (modest_captureHWPStateLocked P).bind fun _ => Keeps.ite (keeps_pure _) ?_
  refine (modest_ensureHWPFailSafeLocked P).bind fun _ => Keeps.ite (keeps_pure _) ?_
  exact modest_getDriver.bind fun _ => hlimits _

theorem modest_armInstall (request : LimitRequest) (hwpWasEnabled : Bool) :
    Keeps Modest (armInstall P request hwpWasEnabled) := by
  have hinstall := fun pl1MW pl2MW => modest_of_sameFlags (sameFlags_installLimitsLocked P pl1MW pl2MW)
  have hvalidate := sameFlags_of_eq (keeps_validateRequestLocked P read_true (some request) true)
  refine modest_getDriver.bind fun _ => (modest_of_sameFlags hvalidate).bind fun _ => ?_
  refine Keeps.ite (keeps_pure _) ((hinstall _ _).bind fun _ => Keeps.ite (keeps_pure _) ?_)
  refine Keeps.ite (keeps_pure _) ((modest_bootstrapHWPLocked P).bind fun _ => ?_)
  exact Keeps.ite (keeps_pure _) (Keeps.ite (keeps_pure _) (hinstall _ _))

theorem modest_armCheck (request : LimitRequest) : Keeps Modest (armCheck P request) := by
  have hdrop : ∀ {β : Type} {k : PUnit → DriverM β}, (∀ u, Keeps Modest (k u)) →
      Keeps Modest (assignHWP (fun hwp =>
        { hwp with captured := false, capturedPresent := fun _ => false }) >>= k) := by
    intro β k hk
    exact modest_assignHWP (fun _ h => h) (fun _ h => h) (fun _ => rfl) hk
  refine (modest_of_sameFlags (sameFlags_rdmsr64 P _)).bind fun _ => ?_
  refine (modest_of_sameFlags (sameFlags_readPowerControlLocked P)).bind fun _ => ?_
  refine modest_getHWP.bind fun _ => Keeps.bind (Keeps.ite ?_ (keeps_pure _)) fun _ => ?_
  · exact (modest_of_sameFlags (sameFlags_initializeHWPLocked P)).bind fun _ => keeps_pure _
  refine modest_getHWP.bind fun _ => Keeps.ite (keeps_pure _) (Keeps.ite ?_ (keeps_pure _))
  refine (modest_captureHWPStateLocked P).bind fun _ => modest_getHWP.bind fun _ => ?_
  exact Keeps.ite (hdrop fun _ => keeps_pure _) (keeps_pure _)

/-! ## The override, and its end -/

variable {P} {w w' : World} {ok : Bool}

theorem applyHWPRequestsLocked_flags {mode : U32}
    (h : exec (applyHWPRequestsLocked P mode) w = (ok, w')) :
    ok = false ∧ SameFlags w w' ∨ w'.driver.hwp.flags =
      { w.driver.hwp.flags with overrideActive := true, failSafeActive := false } := by
  unfold applyHWPRequestsLocked at h
  rw [exec_bind, exec_getHWP, exec_bind] at h
  have hwrite := sameFlags_writeHWPRequestsLocked P w.driver.hwp.expectedRequests
    w.driver.hwp.capturedPresent w
  dsimp only at h
  generalize exec (writeHWPRequestsLocked P w.driver.hwp.expectedRequests
    w.driver.hwp.capturedPresent) w = r at h hwrite
  rcases r with ⟨written, w₁⟩
  dsimp only at h hwrite
  rcases exec_ite_cases h with ⟨-, h⟩ | ⟨-, h⟩
  · rcases Prod.mk.inj h with ⟨rfl, rfl⟩
    exact .inl ⟨rfl, hwrite⟩
  · right
    rw [exec_bind, exec_assignHWP] at h
    have hverify := (sameFlags_of_eq (keeps_verifyHWPOverrideLocked P read_true)).rel h
    refine Eq.trans hverify.hwp ?_
    exact congrArg (fun f : HWPFlags => { f with overrideActive := true, failSafeActive := false })
      hwrite.hwp

/-- An override comes into force over a capture; it has, where the call succeeds. -/
theorem applyHWPMaximumLocked_flags {mode : U32}
    (h : exec (applyHWPMaximumLocked P mode) w = (ok, w')) :
    ok = false ∧ SameFlags w w' ∨ w.driver.hwp.captured = true ∧ w'.driver.hwp.flags =
      { w.driver.hwp.flags with overrideActive := true, failSafeActive := false } := by
  unfold applyHWPMaximumLocked at h
  rw [exec_bind, exec_getHWP] at h
  rcases exec_ite_cases h with ⟨-, h⟩ | ⟨hcaptured, h⟩
  · rcases Prod.mk.inj h with ⟨rfl, rfl⟩
    exact .inl ⟨rfl, rfl⟩
  have hcaptured : w.driver.hwp.captured = true := by
    simp only [Bool.or_eq_true, not_or, Bool.not_eq_true', Bool.not_eq_false] at hcaptured
    exact hcaptured.1.1
  dsimp only at h
  rw [exec_bind, exec_assignHWP] at h
  rcases exec_ite_cases h with ⟨-, h⟩ | ⟨-, h⟩
  · -- the package request first
    rw [exec_bind] at h
    generalize hpackage : exec (writeHWPPackageRequestLocked P _) _ = r at h
    rcases r with ⟨written, w₁⟩
    have hwritten := (sameFlags_writeHWPPackageRequestLocked P _).rel hpackage
    have hsame : SameFlags w w₁ := hwritten
    rcases exec_ite_cases h with ⟨-, h⟩ | ⟨-, h⟩
    · rcases Prod.mk.inj h with ⟨rfl, rfl⟩
      exact .inl ⟨rfl, hsame⟩
    · rcases applyHWPRequestsLocked_flags h with ⟨hok, hflags⟩ | hflags
      · exact .inl ⟨hok, trans_of SameFlags hsame hflags⟩
      · refine .inr ⟨hcaptured, hflags.trans ?_⟩
        exact congrArg (fun f : HWPFlags =>
          { f with overrideActive := true, failSafeActive := false }) hsame.hwp
  · rcases applyHWPRequestsLocked_flags h with ⟨hok, hflags⟩ | hflags
    · exact .inl ⟨hok, hflags⟩
    · exact .inr ⟨hcaptured, hflags⟩

theorem restoreHWPRequestsLocked_flags {packageRestored : Bool}
    (h : exec (restoreHWPRequestsLocked P packageRestored) w = (ok, w')) :
    w'.driver.hwp.flags = { w.driver.hwp.flags with overrideActive := false } := by
  unfold restoreHWPRequestsLocked at h
  rw [exec_bind, exec_getHWP, exec_bind] at h
  dsimp only at h
  have hwrite := sameFlags_writeHWPRequestsLocked P w.driver.hwp.capturedRequests
    w.driver.hwp.capturedPresent w
  generalize exec (writeHWPRequestsLocked P w.driver.hwp.capturedRequests
    w.driver.hwp.capturedPresent) w = r at h hwrite
  rcases r with ⟨written, w₁⟩
  rcases Prod.mk.inj h with ⟨-, rfl⟩
  exact congrArg (fun f : HWPFlags => { f with overrideActive := false }) hwrite.hwp

/-- What a restore needs of the flags to establish the law. -/
structure HWPRestorable (w : World) : Prop where
  overrideActive : w.driver.hwp.overrideActive = true → w.driver.hwp.captured = true
  failSafeActive : w.driver.hwp.failSafeActive = true → w.driver.hwp.enabledByTurboMac = true
  idle : w.driver.captured = false → w.driver.hwp.captured = false

/-- A restore of HWP ends the override, whether it succeeds or not. -/
theorem restoreHWPLocked_flags
    (hoverride : w.driver.hwp.overrideActive = true → w.driver.hwp.captured = true)
    (hfailSafeActive : w.driver.hwp.failSafeActive = true → w.driver.hwp.enabledByTurboMac = true)
    (h : exec (restoreHWPLocked P) w = (ok, w')) :
    w'.driver.hwp.overrideActive = false ∧
      (w'.driver.hwp.failSafeActive = true → w'.driver.hwp.enabledByTurboMac = true) := by
  have hrequests : ∀ w₁ packageRestored, SameFlags w w₁ →
      exec (restoreHWPRequestsLocked P packageRestored) w₁ = (ok, w') →
      w'.driver.hwp.overrideActive = false ∧
        (w'.driver.hwp.failSafeActive = true → w'.driver.hwp.enabledByTurboMac = true) := by
    intro w₁ packageRestored hsame hexec
    have hflags := restoreHWPRequestsLocked_flags hexec
    rw [hsame.hwp] at hflags
    refine ⟨congrArg HWPFlags.overrideActive hflags, fun hfailSafe => ?_⟩
    have hbefore : w'.driver.hwp.failSafeActive = _ := congrArg HWPFlags.failSafeActive hflags
    have henabled : w'.driver.hwp.enabledByTurboMac = _ := congrArg HWPFlags.enabledByTurboMac hflags
    exact henabled.trans (hfailSafeActive (hbefore.symm.trans hfailSafe))
  unfold restoreHWPLocked at h
  rw [exec_bind, exec_getHWP] at h
  rcases exec_ite_cases h with ⟨henabled, h⟩ | ⟨-, h⟩
  · rw [exec_bind, exec_assignHWP] at h
    have hmodest := (modest_ensureHWPFailSafeLocked P).rel h
    have hover : ¬ w'.driver.hwp.overrideActive = true := fun hoverride => by
      cases hmodest.overrideActive hoverride
    exact ⟨Bool.eq_false_iff.2 hover, fun _ => hmodest.enabledByTurboMac henabled⟩
  rcases exec_ite_cases h with ⟨hcaptured, h⟩ | ⟨-, h⟩
  · rcases Prod.mk.inj h with ⟨-, rfl⟩
    refine ⟨Bool.eq_false_iff.2 fun hactive => ?_, hfailSafeActive⟩
    simp [hoverride hactive] at hcaptured
  rcases exec_ite_cases h with ⟨-, h⟩ | ⟨-, h⟩
  · rw [exec_bind] at h
    generalize hpackage : exec (writeHWPPackageRequestLocked P _) _ = r at h
    rcases r with ⟨written, w₁⟩
    exact hrequests w₁ written ((sameFlags_writeHWPPackageRequestLocked P _).rel hpackage) h
  · exact hrequests w true rfl h

/-! ## The law -/

/-- Between calls. -/
structure HWPLaw (w : World) : Prop where
  captured : w.driver.hwp.captured = true ↔ w.driver.state = .armed
  overrideActive : w.driver.hwp.overrideActive = true ↔ w.driver.state = .armed
  failSafeActive : w.driver.hwp.failSafeActive = true →
    w.driver.hwp.enabledByTurboMac = true ∧ w.driver.state ≠ .armed

theorem HWPLaw.restorable (hw : HWPLaw w) (hcaptured : w.driver.captured = true ↔ w.driver.state = .armed) :
    HWPRestorable w where
  overrideActive := fun h => hw.captured.2 (hw.overrideActive.1 h)
  failSafeActive := fun h => (hw.failSafeActive h).1
  idle := fun hnone => by
    rw [← Bool.not_eq_true, hw.captured, ← hcaptured, hnone]
    decide

/-- What keeps the flags keeps the law. -/
theorem HWPLaw.same (hw : HWPLaw w) (hflags : SameFlags w w') : HWPLaw w' := by
  have hcaptured : w'.driver.hwp.captured = _ := congrArg HWPFlags.captured hflags.hwp
  have hoverride : w'.driver.hwp.overrideActive = _ := congrArg HWPFlags.overrideActive hflags.hwp
  have henabled : w'.driver.hwp.enabledByTurboMac = _ := congrArg HWPFlags.enabledByTurboMac hflags.hwp
  have hfailSafe : w'.driver.hwp.failSafeActive = _ := congrArg HWPFlags.failSafeActive hflags.hwp
  constructor
  · rw [hcaptured, hflags.driver.2]
    exact hw.captured
  · rw [hoverride, hflags.driver.2]
    exact hw.overrideActive
  · rw [hfailSafe, henabled, hflags.driver.2]
    exact hw.failSafeActive

theorem HWPRestorable.same (hw : HWPRestorable w) (hflags : SameFlags w w') : HWPRestorable w' := by
  have hcaptured : w'.driver.hwp.captured = _ := congrArg HWPFlags.captured hflags.hwp
  have hoverride : w'.driver.hwp.overrideActive = _ := congrArg HWPFlags.overrideActive hflags.hwp
  have henabled : w'.driver.hwp.enabledByTurboMac = _ := congrArg HWPFlags.enabledByTurboMac hflags.hwp
  have hfailSafe : w'.driver.hwp.failSafeActive = _ := congrArg HWPFlags.failSafeActive hflags.hwp
  constructor
  · rw [hcaptured, hoverride]
    exact hw.overrideActive
  · rw [hfailSafe, henabled]
    exact hw.failSafeActive
  · rw [hcaptured, hflags.driver.1]
    exact hw.idle

/-- Outside Armed, with nothing captured, no step of kinds that are modest breaks the law. -/
theorem HWPLaw.modest (hcaptured : w'.driver.hwp.captured = false)
    (hoverride : w.driver.hwp.overrideActive = false)
    (hfailSafe : w.driver.hwp.failSafeActive = true → w.driver.hwp.enabledByTurboMac = true)
    (h : Modest w w') (hstate : w'.driver.state ≠ .armed) : HWPLaw w' := by
  refine ⟨by simp [hcaptured, hstate], ?_, fun hactive => ⟨?_, hstate⟩⟩
  · refine ⟨fun hactive => ?_, fun harmed => absurd harmed hstate⟩
    simp [h.overrideActive hactive] at hoverride
  · rcases h.failSafeActive hactive with hbefore | henabled
    · exact h.enabledByTurboMac (hfailSafe hbefore)
    · exact henabled

/-- `schedulePassiveGuardLocked` touches only the timer. -/
theorem hwp_schedulePassiveGuardLocked (w : World) :
    (exec schedulePassiveGuardLocked w).2.driver.hwp = w.driver.hwp := by
  unfold schedulePassiveGuardLocked
  rw [exec_bind, exec_getDriver, exec_doIf]
  split <;> rfl

/-- A restore establishes the law. -/
theorem restoreLocked_hwpLaw {reason : RestoreReason} (hw : HWPRestorable w)
    (h : exec (restoreLocked P reason) w = (ok, w')) : HWPLaw w' := by
  have hstate : w'.driver.state ≠ .armed := by
    rw [(restoreLocked_spec P h).2]
    split <;> decide
  have hfired : HWPRestorable w.fired := ⟨hw.overrideActive, hw.failSafeActive, hw.idle⟩
  rw [exec_restoreLocked] at h
  split at h
  · rename_i hcaptured
    -- nothing captured: guard and fail-safe request only
    unfold restorePassiveLocked at h
    rw [exec_bind, exec_getDriver, exec_bind] at h
    have hguard : SameFlags w.fired
        (exec (pure w.fired.driver.supported <&&> ensurePassiveGuardLocked P) w.fired).2 :=
      (keeps_pure _).andM (sameFlags_ensurePassiveGuardLocked P) w.fired
    have hguarding : Frame HWPDetection Guarding w.fired
        (exec (pure w.fired.driver.supported <&&> ensurePassiveGuardLocked P) w.fired).2 :=
      (keeps_pure _).andM (keeps_ensurePassiveGuardLocked P) w.fired
    dsimp only at h
    generalize exec (pure w.fired.driver.supported <&&> ensurePassiveGuardLocked P) w.fired = r
      at h hguard hguarding
    rcases r with ⟨guardRestored, w₁⟩
    dsimp only at h hguard hguarding
    rw [exec_bind] at h
    have hhwp : Modest w₁
        (exec (pure (!w.fired.driver.hwp.enabledByTurboMac) <||> ensureHWPFailSafeLocked P) w₁).2 :=
      (keeps_pure _).orM (modest_ensureHWPFailSafeLocked P) w₁
    have hdetect : Frame HWPDetection Guarding w₁
        (exec (pure (!w.fired.driver.hwp.enabledByTurboMac) <||> ensureHWPFailSafeLocked P) w₁).2 :=
      (keeps_pure _).orM (keeps_ensureHWPFailSafeLocked_guarding P) w₁
    generalize exec (pure (!w.fired.driver.hwp.enabledByTurboMac) <||> ensureHWPFailSafeLocked P) w₁ = r
      at h hhwp hdetect
    rcases r with ⟨hwpRestored, w₂⟩
    dsimp only at h hhwp hdetect
    rw [exec_bind, exec_assign, exec_bind] at h
    rcases Prod.mk.inj h with ⟨-, hw'⟩
    have hidle : w.driver.hwp.captured = false := hw.idle hcaptured
    have hhwp' : w'.driver.hwp = w₂.driver.hwp := by
      rw [← hw']
      exact hwp_schedulePassiveGuardLocked _
    have hmodest : Modest w.fired w' := by
      have hlast : Modest w.fired w₂ := trans_of Modest hguard.modest hhwp
      refine ⟨?_, ?_, ?_⟩
      all_goals rw [hhwp']
      · exact hlast.overrideActive
      · exact hlast.enabledByTurboMac
      · exact hlast.failSafeActive
    refine HWPLaw.modest ?_ ?_ hfired.failSafeActive hmodest hstate
    · rw [hhwp']
      exact hdetect.driver.captured.trans (hguarding.driver.captured.trans hidle)
    · refine Bool.eq_false_iff.2 fun hoverride => ?_
      exact absurd ((hfired.overrideActive hoverride).symm.trans hidle) (by decide)
  · -- a capture: its override ends with HWP restored or not
    unfold restoreCapturedLocked at h
    rw [exec_bind] at h
    have hguard := sameFlags_setPowerControlGuardLocked P true w.fired
    generalize exec (setPowerControlGuardLocked P true) w.fired = r at h hguard
    rcases r with ⟨guardRestored, w₁⟩
    dsimp only at h hguard
    have hcaptured : w₁.driver.hwp.captured = _ := congrArg HWPFlags.captured hguard.hwp
    have hover : w₁.driver.hwp.overrideActive = _ := congrArg HWPFlags.overrideActive hguard.hwp
    have henabled : w₁.driver.hwp.enabledByTurboMac = _ := congrArg HWPFlags.enabledByTurboMac hguard.hwp
    have hfailSafe : w₁.driver.hwp.failSafeActive = _ := congrArg HWPFlags.failSafeActive hguard.hwp
    rw [exec_bind] at h
    generalize hrestore : exec (restoreHWPLocked P) w₁ = r at h
    rcases r with ⟨hwpRestored, w₂⟩
    have hrestored : w₂.driver.hwp.overrideActive = false ∧
        (w₂.driver.hwp.failSafeActive = true → w₂.driver.hwp.enabledByTurboMac = true) := by
      refine restoreHWPLocked_flags ?_ ?_ hrestore
      · rw [hover, hcaptured]
        exact hfired.overrideActive
      · rw [hfailSafe, henabled]
        exact hfired.failSafeActive
    dsimp only at h
    rw [exec_bind] at h
    have hlimits : SameFlags w₂ (exec (restoreLimitsLocked P hwpRestored) w₂).2 :=
      sameFlags_of_eq (keeps_restoreLimitsLocked P read_true (fun _ _ => trivial) hwpRestored) w₂
    generalize exec (restoreLimitsLocked P hwpRestored) w₂ = r at h hlimits
    rcases r with ⟨limitsRestored, w₃⟩
    dsimp only at h hlimits
    rw [exec_bind, exec_assign, exec_bind] at h
    rcases Prod.mk.inj h with ⟨-, hw'⟩
    have hhwp' : w'.driver.hwp =
        { w₃.driver.hwp with captured := false, capturedPresent := fun _ => false } := by
      rw [← hw']
      exact hwp_schedulePassiveGuardLocked _
    have hover₃ : w₃.driver.hwp.overrideActive = w₂.driver.hwp.overrideActive :=
      congrArg HWPFlags.overrideActive hlimits.hwp
    have henabled₃ : w₃.driver.hwp.enabledByTurboMac = _ := congrArg HWPFlags.enabledByTurboMac hlimits.hwp
    have hfailSafe₃ : w₃.driver.hwp.failSafeActive = _ := congrArg HWPFlags.failSafeActive hlimits.hwp
    refine ⟨?_, ?_, ?_⟩
    all_goals rw [hhwp']
    · simp [hstate]
    · simp [hover₃, hrestored.1, hstate]
    · intro hactive
      exact ⟨henabled₃.trans (hrestored.2 (hfailSafe₃.symm.trans hactive)), hstate⟩

/-! ## The calls -/

theorem sameFlags_validateRequestLocked (request : Option LimitRequest) (isArm : Bool) :
    Keeps SameFlags (validateRequestLocked P request isArm) :=
  sameFlags_of_eq (keeps_validateRequestLocked P read_true request isArm)

theorem sameFlags_updateExit (request : Option LimitRequest) :
    Keeps SameFlags (updateExit P request) := by
  have hclock : Keeps SameFlags (readAbsoluteTime P) := fun _ => rfl
  refine sameFlags_getDriver.bind fun _ => Keeps.ite (keeps_pure _) ?_
  refine (sameFlags_validateRequestLocked request false).bind fun _ => Keeps.ite (keeps_pure _) ?_
  cases request with
  | none => exact keeps_pure _
  | some request =>
      refine Keeps.ite (keeps_pure _) ((sameFlags_verifyArmedStateLocked P).bind fun _ => ?_)
      refine Keeps.ite (keeps_pure _) ((sameFlags_validateRequestLocked _ false).bind fun _ => ?_)
      refine Keeps.ite (keeps_pure _) ((sameFlags_installLimitsLocked P _ _).bind fun _ => ?_)
      refine Keeps.ite (keeps_pure _) (sameFlags_assign (fun _ => rfl) fun _ => ?_)
      refine hclock.bind fun _ => sameFlags_assign (fun _ => rfl) fun _ => ?_
      exact Keeps.bind (fun _ => rfl) fun _ => keeps_pure _

theorem sameFlags_disarmExit (request : Option CommandRequest) :
    Keeps SameFlags (disarmExit request) := by
  refine sameFlags_getDriver.bind fun _ => ?_
  cases request with
  | none => exact keeps_pure _
  | some request => exact Keeps.ite (keeps_pure _) (sameFlags_assign (fun _ => rfl) fun _ => keeps_pure _)

/-- The flags after an `arm` from the capture on. -/
theorem armCaptured_hwpLaw {request : LimitRequest} {capture : ArmCapture} {exit : Exit}
    (hoverride : w.driver.hwp.overrideActive = false)
    (hfailSafe : w.driver.hwp.failSafeActive = true → w.driver.hwp.enabledByTurboMac = true)
    (h : exec (armCaptured P request capture) w = (exit, w')) :
    exit = armFailed ∧ HWPRestorable w' ∨ exit = .done .success ∧ HWPLaw w' := by
  rcases armCaptured_cases P h with ⟨installed, w₁, hinstall, hcases⟩
  have hmodest : Modest (capture.store w) w₁ :=
    (modest_armInstall P request capture.hwpWasEnabled).rel hinstall
  have hkeeps : Keeps (Frame SameCore fun _ => True) (armInstall P request capture.hwpWasEnabled) :=
    keeps_armInstall P (fun _ _ => trivial) (fun _ _ => trivial) _ _
  have hcaptured : w₁.driver.captured = true := (hkeeps.rel hinstall).driver.captured
  -- no override yet
  have hoverride₁ : ¬ w₁.driver.hwp.overrideActive = true := fun hactive =>
    absurd ((hmodest.overrideActive hactive).symm.trans hoverride) (by decide)
  have hfailSafe₁ : w₁.driver.hwp.failSafeActive = true → w₁.driver.hwp.enabledByTurboMac = true := by
    intro hactive
    rcases hmodest.failSafeActive hactive with hbefore | henabled
    · exact hmodest.enabledByTurboMac (hfailSafe hbefore)
    · exact henabled
  have hrestorable : HWPRestorable w₁ :=
    ⟨fun hactive => absurd hactive hoverride₁, hfailSafe₁, fun hnone => by simp [hcaptured] at hnone⟩
  rcases hcases with ⟨-, rfl, rfl⟩ | ⟨-, applied, w₂, happly, hcases⟩
  · exact .inl ⟨rfl, hrestorable⟩
  have hcaptured₂ : w₂.driver.captured = true :=
    ((keeps_applyHWPMaximumLocked_onHWP P request.hwpMode).rel happly).driver.sameCore.captured.trans
      hcaptured
  have happlied := applyHWPMaximumLocked_flags happly
  have hrestorable₂ : HWPRestorable w₂ := by
    rcases happlied with ⟨-, hsame⟩ | ⟨hhwp, hflags⟩
    · exact hrestorable.same hsame
    · have hhwp₂ : w₂.driver.hwp.captured = true := (congrArg HWPFlags.captured hflags).trans hhwp
      have hnone : w₂.driver.hwp.failSafeActive = false := congrArg HWPFlags.failSafeActive hflags
      refine ⟨fun _ => hhwp₂, fun hactive => ?_, fun hidle => by simp [hcaptured₂] at hidle⟩
      simp [hnone] at hactive
  rcases hcases with ⟨-, rfl, rfl⟩ | ⟨rfl, cleared, w₃, hclear, hcases⟩
  · exact .inl ⟨rfl, hrestorable₂⟩
  have hsame : SameFlags w₂ w₃ := (sameFlags_setPowerControlGuardLocked P false).rel hclear
  rcases hcases with ⟨-, rfl, rfl⟩ | ⟨-, rfl, rfl⟩
  · exact .inl ⟨rfl, hrestorable₂.same hsame⟩
  · -- armed: the override is in force
    rcases happlied with ⟨hfalse, -⟩ | ⟨hhwp, hflags⟩
    · cases hfalse
    have hflags₃ := hsame.hwp.trans hflags
    have hhwp₃ : w₃.driver.hwp.captured = true := (congrArg HWPFlags.captured hflags₃).trans hhwp
    have hover₃ : w₃.driver.hwp.overrideActive = true := congrArg HWPFlags.overrideActive hflags₃
    have hnone₃ : w₃.driver.hwp.failSafeActive = false := congrArg HWPFlags.failSafeActive hflags₃
    refine .inr ⟨rfl, ⟨fun _ => rfl, fun _ => hhwp₃⟩, ⟨fun _ => rfl, fun _ => hover₃⟩, fun hactive => ?_⟩
    exact absurd (hnone₃.symm.trans hactive) (by decide)

theorem armExit_hwpLaw {request : Option LimitRequest} {exit : Exit} (hw : HWPLaw w)
    (h : exec (armExit P request) w = (exit, w')) :
    (∃ code, exit = .done code) ∧ HWPLaw w' ∨ exit = armFailed ∧ HWPRestorable w' := by
  unfold armExit at h
  rw [exec_bind, exec_getDriver] at h
  rcases exec_ite_cases h with ⟨-, h⟩ | ⟨-, h⟩
  · rcases Prod.mk.inj h with ⟨rfl, rfl⟩
    exact .inl ⟨⟨_, rfl⟩, hw⟩
  rcases exec_ite_cases h with ⟨-, h⟩ | ⟨hbusy, h⟩
  · rcases Prod.mk.inj h with ⟨rfl, rfl⟩
    exact .inl ⟨⟨_, rfl⟩, hw⟩
  have hne : w.driver.state ≠ .armed := by
    simp only [Bool.or_eq_true, not_or, beq_iff_eq] at hbusy
    exact hbusy.2
  have hvalidate := sameFlags_validateRequestLocked (P := P) request true w
  rw [exec_bind] at h
  generalize exec (validateRequestLocked P request true) w = r at h hvalidate
  rcases r with ⟨valid, w₀⟩
  dsimp only at h hvalidate
  have hw₀ : HWPLaw w₀ := hw.same hvalidate
  have hne₀ : w₀.driver.state ≠ .armed := by
    rw [hvalidate.driver.2]
    exact hne
  rcases exec_ite_cases h with ⟨-, h⟩ | ⟨-, h⟩
  · rcases Prod.mk.inj h with ⟨rfl, rfl⟩
    exact .inl ⟨⟨_, rfl⟩, hw₀.same rfl⟩
  cases request with
  | none =>
      rcases Prod.mk.inj h with ⟨rfl, rfl⟩
      exact .inl ⟨⟨_, rfl⟩, hw₀.same rfl⟩
  | some request =>
      dsimp only at h
      rw [exec_bind] at h
      have hcaptured₀ : w₀.driver.hwp.captured = false :=
        Bool.eq_false_iff.2 fun hcaptured => hne₀ (hw₀.captured.1 hcaptured)
      have hoverride₀ : w₀.driver.hwp.overrideActive = false :=
        Bool.eq_false_iff.2 fun hactive => hne₀ (hw₀.overrideActive.1 hactive)
      have hfailSafe₀ := fun hactive => (hw₀.failSafeActive hactive).1
      -- the check may capture, but brings no override
      have hmodest := modest_armCheck P request w₀
      have hmembers := keeps_armCheck P request w₀
      have hnone := @armCheck_none P request w₀
      generalize exec (armCheck P request) w₀ = r at h hmodest hmembers hnone
      rcases r with ⟨capture, w₁⟩
      dsimp only at h hmodest hmembers
      cases capture with
      | none =>
          rcases Prod.mk.inj h with ⟨rfl, rfl⟩
          refine .inl ⟨⟨_, rfl⟩, HWPLaw.same ?_ (rfl : SameFlags w₁ _)⟩
          refine HWPLaw.modest (hnone rfl hcaptured₀) hoverride₀ hfailSafe₀ hmodest ?_
          rw [hmembers.driver.sameCore.state]
          exact hne₀
      | some capture =>
          have hoverride₁ : w₁.driver.hwp.overrideActive = false := Bool.eq_false_iff.2 fun hactive =>
            absurd ((hmodest.overrideActive hactive).symm.trans hoverride₀) (by decide)
          have hfailSafe₁ : w₁.driver.hwp.failSafeActive = true →
              w₁.driver.hwp.enabledByTurboMac = true := by
            intro hactive
            rcases hmodest.failSafeActive hactive with hbefore | henabled
            · exact hmodest.enabledByTurboMac (hfailSafe₀ hbefore)
            · exact henabled
          rcases armCaptured_hwpLaw hoverride₁ hfailSafe₁ h with hfailed | ⟨rfl, hlaw⟩
          · exact .inr hfailed
          · exact .inl ⟨⟨_, rfl⟩, hlaw⟩

/-- The watchdog, in a state in which a capture and Armed are the same. -/
theorem watchdogFiredExit_hwpLaw {exit : Exit} (hw : HWPLaw w)
    (hcaptured : w.driver.captured = true ↔ w.driver.state = .armed)
    (h : exec (watchdogFiredExit P) w = (exit, w')) :
    (∃ code, exit = .done code) ∧ HWPLaw w' ∨
      (∃ reason onRestored onFailed, exit = .restore reason onRestored onFailed) ∧ HWPRestorable w' := by
  have hfired : SameFlags w w.fired := rfl
  have hclock : Keeps SameFlags (readAbsoluteTime P) := fun _ => rfl
  unfold watchdogFiredExit at h
  rw [exec_bind] at h
  change exec _ w.fired = _ at h
  rw [exec_bind, exec_getDriver] at h
  rcases exec_ite_cases h with ⟨-, h⟩ | ⟨hidle, h⟩
  · rw [exec_bind] at h
    have hread := trans_of SameFlags hfired (hclock w.fired)
    generalize exec (readAbsoluteTime P) w.fired = r at h hread
    rcases r with ⟨now, w₁⟩
    dsimp only at h hread
    rw [exec_bind, exec_getDriver] at h
    rcases exec_ite_cases h with ⟨-, h⟩ | ⟨-, h⟩
    · rcases Prod.mk.inj h with ⟨rfl, rfl⟩
      exact .inr ⟨⟨_, _, _, rfl⟩, (hw.restorable hcaptured).same hread⟩
    have hverify := trans_of SameFlags hread (sameFlags_verifyArmedStateLocked P w₁)
    rw [exec_bind] at h
    generalize exec (verifyArmedStateLocked P) w₁ = r at h hverify
    rcases r with ⟨verified, w₂⟩
    dsimp only at h hverify
    rcases exec_ite_cases h with ⟨-, h⟩ | ⟨-, h⟩
    · rcases Prod.mk.inj h with ⟨rfl, rfl⟩
      exact .inr ⟨⟨_, _, _, rfl⟩, (hw.restorable hcaptured).same hverify⟩
    · rcases Prod.mk.inj h with ⟨rfl, rfl⟩
      exact .inl ⟨⟨_, rfl⟩, hw.same hverify⟩
  · have hne : w.driver.state ≠ .armed := by
      intro harmed
      have hboth : (w.driver.captured && w.driver.state == .armed) = true := by
        rw [hcaptured.2 harmed, harmed]
        rfl
      exact hidle hboth
    rcases exec_ite_cases h with ⟨-, h⟩ | ⟨-, h⟩
    · -- outside Armed: HWP may be found, or made fail-safe again
      have hhwp : Keeps Modest (watchdogPassive P) := by
        refine modest_getHWP.bind fun _ => Keeps.bind (Keeps.ite ?_ (keeps_pure _)) fun _ => ?_
        · exact (modest_of_sameFlags (sameFlags_initializeHWPLocked P)).bind fun _ => keeps_pure _
        refine (modest_of_sameFlags (sameFlags_ensurePassiveGuardLocked P)).bind fun _ => ?_
        refine modest_getHWP.bind fun _ => Keeps.bind ?_ fun _ => ?_
        · have hverify := sameFlags_of_eq (keeps_verifyHWPFailSafeLocked P read_true)
          exact (keeps_pure _).orM
            ((modest_of_sameFlags hverify).orM (modest_ensureHWPFailSafeLocked P))
        refine Keeps.bind (Keeps.ite (fun _ => ⟨id, id, .inl⟩) (keeps_pure _)) fun _ => ?_
        exact Keeps.bind (fun _ => ⟨id, id, .inl⟩) fun _ => keeps_pure _
      rcases watchdogPassive_cases P h with ⟨rfl, w₁, state, reason, hframe, hstate, rfl⟩
      have hcaptured₀ : w.fired.driver.hwp.captured = false :=
        Bool.eq_false_iff.2 fun hhwp => hne (hw.captured.1 hhwp)
      have hoverride₀ : w.fired.driver.hwp.overrideActive = false :=
        Bool.eq_false_iff.2 fun hactive => hne (hw.overrideActive.1 hactive)
      refine .inl ⟨⟨_, rfl⟩, ?_⟩
      refine HWPLaw.modest (hframe.driver.captured.trans hcaptured₀) hoverride₀
        (fun hactive => (hw.failSafeActive hactive).1) (hhwp.rel h) ?_
      rcases hstate with rfl | rfl
      · show w₁.driver.state ≠ .armed
        rw [hframe.driver.toHWPMembers.sameCore.state]
        exact hne
      · show DriverState.failsafe ≠ .armed
        decide
    · rcases Prod.mk.inj h with ⟨rfl, rfl⟩
      exact .inl ⟨⟨_, rfl⟩, hw.same hfired⟩

theorem exit_hwpLaw (op : Op) {exit : Exit} (hw : HWPLaw w)
    (hcaptured : w.driver.captured = true ↔ w.driver.state = .armed)
    (h : exec (op.exit P) w = (exit, w')) :
    (∃ code, exit = .done code) ∧ HWPLaw w' ∨
      (∃ reason onRestored onFailed, exit = .restore reason onRestored onFailed) ∧ HWPRestorable w' := by
  have hrestorable := hw.restorable hcaptured
  cases op with
  | arm request =>
      rcases armExit_hwpLaw hw h with hdone | ⟨rfl, hfailed⟩
      · exact .inl hdone
      · exact .inr ⟨⟨_, _, _, rfl⟩, hfailed⟩
  | update request =>
      have hsame : SameFlags w w' := (sameFlags_updateExit (P := P) request).rel h
      cases exit with
      | done code => exact .inl ⟨⟨_, rfl⟩, hw.same hsame⟩
      | restore => exact .inr ⟨⟨_, _, _, rfl⟩, hrestorable.same hsame⟩
  | disarm request =>
      have hsame : SameFlags w w' := (sameFlags_disarmExit request).rel h
      cases exit with
      | done code => exact .inl ⟨⟨_, rfl⟩, hw.same hsame⟩
      | restore => exact .inr ⟨⟨_, _, _, rfl⟩, hrestorable.same hsame⟩
  | invalidClientCommand | clientDisconnected =>
      rcases Prod.mk.inj h with ⟨rfl, rfl⟩
      exact .inr ⟨⟨_, _, _, rfl⟩, hrestorable⟩
  | watchdogFired => exact watchdogFiredExit_hwpLaw hw hcaptured h

theorem after_hwpLaw (op : Op) (hw : HWPLaw w)
    (hcaptured : w.driver.captured = true ↔ w.driver.state = .armed) : HWPLaw (op.after P w) := by
  have hfinish : ∀ w', HWPLaw w' → HWPLaw (exec op.finish w').2 := by
    intro w' hw'
    rw [exec_finish]
    exact hw'.same rfl
  rw [after_eq]
  apply hfinish
  generalize hexit : exec (op.exit P) w = r
  rcases r with ⟨exit, w'⟩
  rcases exit_hwpLaw op hw hcaptured hexit with ⟨⟨code, rfl⟩, hw'⟩ |
    ⟨⟨reason, onRestored, onFailed, rfl⟩, hw'⟩
  · exact hw'
  · rw [exec_leave_restore]
    generalize hrestore : exec (restoreLocked P reason) w' = r
    rcases r with ⟨restored, w''⟩
    exact restoreLocked_hwpLaw hw' hrestore

/-! ## What a client is told -/

theorem sameFlags_detectHWPLocked : Keeps SameFlags (detectHWPLocked P) := by
  refine sameFlags_getDriver.bind fun _ => Keeps.ite ?_ (keeps_pure _)
  exact (sameFlags_initializeHWPLocked P).bind fun _ => keeps_pure _

theorem sameFlags_currentPackageRequest : Keeps SameFlags (currentPackageRequest P) := by
  refine sameFlags_getHWP.bind fun _ => Keeps.ite ?_ (keeps_pure _)
  exact (sameFlags_of_eq (keeps_readHWPPackageRequestLocked P read_true)).bind fun _ => keeps_pure _

theorem sameFlags_rdmsrIfSupported (msr : U32) : Keeps SameFlags (rdmsrIfSupported P msr) :=
  sameFlags_getDriver.bind fun _ => Keeps.ite (sameFlags_rdmsr64 P _) (keeps_pure _)

theorem sameFlags_readPowerControlIfSupported : Keeps SameFlags (readPowerControlIfSupported P) :=
  sameFlags_getDriver.bind fun _ => Keeps.ite (sameFlags_readPowerControlLocked P) (keeps_pure _)

/-- The methods that only read keep the flags. -/
theorem Method.sameFlags (method : Method) :
    (∃ op : Op, op.sequence.isSome = true ∧ (exec (method.call P) w).2 = op.after P w) ∨
      SameFlags w (exec (method.call P) w).2 := by
  have hclock : Keeps SameFlags (readAbsoluteTime P) := fun _ => rfl
  cases method with
  | arm request => exact .inl ⟨.arm (some request), rfl, rfl⟩
  | update request => exact .inl ⟨.update (some request), rfl, rfl⟩
  | disarm request => exact .inl ⟨.disarm (some request), rfl, rfl⟩
  | getCapabilities =>
      refine .inr (Keeps.bind (Keeps.bind ?_ fun _ => keeps_pure _) (fun _ => keeps_pure _) w)
      refine sameFlags_detectHWPLocked.bind fun _ => sameFlags_getDriver.bind fun _ => ?_
      refine (sameFlags_rdmsrIfSupported _).bind fun _ => ?_
      refine sameFlags_readPowerControlIfSupported.bind fun _ => sameFlags_getDriver.bind fun _ => ?_
      exact sameFlags_currentPackageRequest.bind fun _ => keeps_pure _
  | readTelemetry =>
      refine .inr (Keeps.bind ?_ (fun _ => keeps_pure _) w)
      refine sameFlags_getDriver.bind fun _ => Keeps.ite (keeps_pure _) (hclock.bind fun _ => ?_)
      exact (sameFlags_rdmsr64 P _).bind fun _ => (sameFlags_rdmsr64 P _).bind fun _ => keeps_pure _
  | getStatus =>
      refine .inr (Keeps.bind (Keeps.bind ?_ fun _ => keeps_pure _) (fun _ => keeps_pure _) w)
      refine sameFlags_getDriver.bind fun _ => (sameFlags_rdmsrIfSupported _).bind fun _ => ?_
      refine Keeps.bind (sameFlags_readPowerControlIfSupported.bind fun _ => keeps_pure _) fun _ => ?_
      exact sameFlags_getDriver.bind fun _ => keeps_pure _
  | getHWPStatus =>
      refine .inr (Keeps.bind (Keeps.bind ?_ fun _ => keeps_pure _) (fun _ => keeps_pure _) w)
      refine sameFlags_detectHWPLocked.bind fun _ => sameFlags_getDriver.bind fun _ => ?_
      refine sameFlags_currentPackageRequest.bind fun _ => Keeps.bind ?_ fun _ => keeps_pure _
      refine sameFlags_getHWP.bind fun _ => Keeps.ite (keeps_pure _) ?_
      exact (sameFlags_readHWPRequestsLocked P _).bind fun _ => keeps_pure _

/-- A bit of some flags. -/
theorem getLsbD_flagsOf (flags : List (Bool × ℕ)) {i : ℕ} (hi : i < 32) :
    (flagsOf flags).getLsbD i = flags.any fun flag => flag.1 && decide (i = flag.2) := by
  have hfold : ∀ word : U32, (flags.foldl (fun word flag =>
      if flag.1 then word ||| BitVec.twoPow 32 flag.2 else word) word).getLsbD i =
        (word.getLsbD i || flags.any fun flag => flag.1 && decide (i = flag.2)) := by
    induction flags with
    | nil => intro word; simp
    | cons flag flags ih =>
        intro word
        rw [List.foldl_cons, ih, List.any_cons]
        cases flag.1 with
        | false => simp
        | true => simp [hi, Bool.or_assoc]
  unfold flagsOf
  rw [hfold]
  simp

/-- The reply of `copyHWPStatus`, and the driver it is about. -/
theorem copyHWPStatus_reply (w : World) :
    ∃ d readback, SameFlags w ⟨d, w.log⟩ ∧
      let reply := (exec (copyHWPStatus P) w).1
      reply.flags.getLsbD statusOverrideActive = d.hwp.overrideActive ∧
      reply.flags.getLsbD statusCaptureValid = d.hwp.captured ∧
      reply.flags.getLsbD statusEnabledByTurboMac = d.hwp.enabledByTurboMac ∧
      reply.flags.getLsbD statusFailsafeRequestActive = readback.any (failSafeReadback d) ∧
      reply.failsafeRequestRaw = d.hwp.failSafeRequest ∧ reply.cpus = hwpEntry d.hwp readback := by
  have hdetect := sameFlags_detectHWPLocked (P := P) w
  unfold copyHWPStatus
  rw [exec_bind]
  generalize exec (detectHWPLocked P) w = r at hdetect
  rcases r with ⟨_, w₁⟩
  dsimp only at hdetect ⊢
  rw [exec_bind, exec_getDriver]
  dsimp only
  rw [exec_bind]
  generalize exec (currentPackageRequest P) w₁ = r
  rcases r with ⟨packageRequest, w₂⟩
  dsimp only
  rw [exec_bind]
  generalize exec (hwpReadback P) w₂ = r
  rcases r with ⟨readback, w₃⟩
  refine ⟨w₁.driver, readback, hdetect, ?_⟩
  simp only [exec_pure]
  refine ⟨?_, ?_, ?_, ?_, trivial, trivial⟩
  all_goals rw [getLsbD_flagsOf _ (by decide)]
  all_goals simp [statusSupported, statusEnabled, statusFlexibleRequestFields,
    statusPackageControlSupported, statusMaximumRestricted, statusOverrideActive, statusCaptureValid,
    statusReadbackValid, statusEnabledByTurboMac, statusNativeRestoreRequiresReboot,
    statusFailsafeRequestActive]

/-- An entry that is marked as modified is one of an override in force. -/
theorem overrideActive_of_modified {hwp : HWP} {readback : Option HWPRequests} {index : CPU}
    (h : (hwpEntry hwp readback index).flags.getLsbD entryModified = true) :
    hwp.overrideActive = true := by
  unfold hwpEntry at h
  simp only at h
  rw [getLsbD_flagsOf _ (by decide)] at h
  simp [entryPresent, entryPackageControl, entryMaximumFromLocalRequest, entryModified] at h
  exact h.1.1

/-- The request of a CPU that is marked as present is the one that was read. -/
theorem present_of_entry {hwp : HWP} {readback : Option HWPRequests} {index : CPU}
    (h : (hwpEntry hwp readback index).flags.getLsbD entryPresent = true) :
    ∃ current, readback = some current ∧ current.present index = true ∧
      (hwpEntry hwp readback index).currentRequestRaw = current.values index := by
  unfold hwpEntry at h
  simp only at h
  rw [getLsbD_flagsOf _ (by decide)] at h
  cases readback with
  | none => simp [entryPresent, entryPackageControl, entryMaximumFromLocalRequest, entryModified] at h
  | some current =>
      refine ⟨current, rfl, ?_⟩
      cases hpresent : current.present index with
      | false =>
          simp [entryPresent, entryPackageControl, entryMaximumFromLocalRequest, entryModified,
            Option.filter, hpresent] at h
      | true => exact ⟨rfl, by simp [hwpEntry, Option.filter, hpresent]⟩

end

namespace Clients

variable (P : Platform)

theorem hwpLaw_started : HWPLaw (started P) := by
  have hstart : SameFlags ⟨initialDriver, []⟩ (started P) := by
    refine keeps_startLocked P (R := SameFlags) ?_ (fun _ _ => rfl) (sameFlags_readPowerControlLocked P)
      (sameFlags_setPowerControlGuardLocked P true) (sameFlags_initializeHWPLocked P) _
    intro w d hd
    rw [StartsAs] at hd
    show d.flags = w.driver.flags
    rw [hd]
    rfl
  refine HWPLaw.same ⟨?_, ?_, ?_⟩ hstart
  all_goals decide

theorem step_hwpLaw {s s' : Clients} {x : ClientStep} (hguarded : Guarded s.world)
    (hs : HWPLaw s.world) (h : step P s x = some s') : HWPLaw s'.world := by
  have hop : ∀ op : Op, HWPLaw (op.after P s.world) := fun op => after_hwpLaw op hs hguarded.captured_iff
  cases x with
  | newUserClient handler type privileged =>
      simp only [step] at h
      split at h
      · cases h
        exact hs
      · cases h
        exact hs.same rfl
  | start client started =>
      simp only [step] at h
      split at h
      · cases h
      split at h
      · cases h
        exact hs
      · cases h
        exact hs.same rfl
  | externalMethod client selector arguments =>
      simp only [step] at h
      split at h
      all_goals cases h
      all_goals exact hs
  | callDriver index =>
      simp only [step] at h
      split at h
      · rename_i client call hcall
        cases h
        cases call with
        | rejecting => exact hop .invalidClientCommand
        | calling method =>
            have hmethod : HWPLaw (exec (method.call P) s.world).2 := by
              rcases method.sameFlags (P := P) (w := s.world) with ⟨op, -, hafter⟩ | hsame
              · rw [hafter]
                exact hop op
              · exact hs.same hsame
            unfold callDriver
            dsimp only
            split
            · exact hmethod
            · exact hmethod
      · cases h
  | checkClosed client =>
      simp only [step] at h
      split at h
      all_goals cases h
      all_goals exact hs
  | setClosed client =>
      simp only [step] at h
      split at h
      · cases h
      split at h
      all_goals cases h
      all_goals exact hs
  | clientDisconnected client =>
      simp only [step] at h
      split at h
      · cases h
      · cases h
        exact hop .clientDisconnected
  | watchdogFired =>
      cases h
      exact hop .watchdogFired

/-- What any client is told of HWP, at any time of any run: an override and a capture are
active exactly while the driver is Armed, and an entry is modified only then; a
fail-safe request is active only outside Armed, over an HWP that TurboMac enabled,
and it is the request of every CPU that is present. -/
theorem hwp_status_truthful (hsupported : (started P).driver.supported = true)
    (steps : List ClientStep) (s : Clients) (hrun : run P steps = some s) :
    let reply := (exec (copyHWPStatus P) s.world).1
    (reply.flags.getLsbD statusOverrideActive = true ↔ s.world.driver.state = .armed) ∧
      (reply.flags.getLsbD statusCaptureValid = true ↔ s.world.driver.state = .armed) ∧
      (∀ index, (reply.cpus index).flags.getLsbD entryModified = true →
        s.world.driver.state = .armed) ∧
      (reply.flags.getLsbD statusFailsafeRequestActive = true →
        reply.flags.getLsbD statusEnabledByTurboMac = true ∧ s.world.driver.state ≠ .armed ∧
        ∀ index, (reply.cpus index).flags.getLsbD entryPresent = true →
          (reply.cpus index).currentRequestRaw = reply.failsafeRequestRaw) := by
  intro reply
  have hs : Law P s ∧ HWPLaw s.world := by
    have hstep : ∀ s x s', Law P s ∧ HWPLaw s.world → step P s x = some s' →
        Law P s' ∧ HWPLaw s'.world :=
      fun s x s' hs h => ⟨step_law P hs.1 h, step_hwpLaw P hs.1.guarded hs.2 h⟩
    refine Interleaving.run_invariant hstep ⟨?_, hwpLaw_started P⟩ steps hrun
    exact @run_law P hsupported [] _ rfl
  rcases copyHWPStatus_reply (P := P) s.world with
    ⟨d, readback, hsame, hoverride, hcapture, henabled, hfailSafe, hrequest, hcpus⟩
  have hlaw : HWPLaw ⟨d, s.world.log⟩ := hs.2.same hsame
  have hstate : d.state = s.world.driver.state := hsame.driver.2
  have hlawOverride : d.hwp.overrideActive = true ↔ s.world.driver.state = .armed := by
    rw [← hstate]
    exact hlaw.overrideActive
  refine ⟨?_, ?_, ?_, ?_⟩
  · rw [hoverride]
    exact hlawOverride
  · rw [hcapture, ← hstate]
    exact hlaw.captured
  · intro index hmodified
    rw [hcpus] at hmodified
    exact hlawOverride.1 (overrideActive_of_modified hmodified)
  · intro hactive
    rw [hfailSafe] at hactive
    cases hreadback : readback with
    | none => simp [hreadback] at hactive
    | some current =>
        rw [hreadback, Option.any_some, failSafeReadback, Bool.and_eq_true, Bool.and_eq_true,
          List.all_eq_true] at hactive
        rcases hactive with ⟨⟨hactive, -⟩, hall⟩
        refine ⟨henabled.trans (hlaw.failSafeActive hactive).1, ?_, ?_⟩
        · rw [← hstate]
          exact (hlaw.failSafeActive hactive).2
        · intro index hentry
          rw [hcpus] at hentry ⊢
          rcases present_of_entry hentry with ⟨found, hfound, hpresent, hraw⟩
          obtain rfl : current = found := Option.some.inj (hreadback.symm.trans hfound)
          rw [hraw, hrequest]
          have hmem : index ∈ cpusPresent current.present := by simp [cpusPresent, hpresent]
          exact eq_of_beq (hall index hmem)

theorem hwp_status_truthful_arming :
    let P := machine firmwareLimit fun _ => false
    ∃ s, run P armingSteps = some s ∧
      ((exec (copyHWPStatus P) s.world).1.flags.getLsbD statusOverrideActive = true ↔
        s.world.driver.state = .armed) := by
  intro P
  have hsome : (run P armingSteps).isSome = true := by decide +kernel
  rcases Option.isSome_iff_exists.1 hsome with ⟨s, hrun⟩
  exact ⟨s, hrun, (hwp_status_truthful P (by decide +kernel) armingSteps s hrun).1⟩

end Clients

end TurboMac.Kext
