import TurboMac.Kext.ArmTrace
import TurboMac.Kext.Run

/-! # The order of `arm`

Each stage of `arm` extends a trail that obeys the rule; a stage that fails
leaves HWP in a state whose restore raises nothing.
-/

namespace TurboMac.Kext

open Program

/-- A restore of this HWP state raises nothing: TurboMac has enabled HWP, so that
it goes to the fail-safe request, or the captured requests are restricted. -/
def RestoreSafe (hwp : HWP) : Prop :=
  hwp.enabledByTurboMac = false → hwp.captured = true →
    ∀ index, hwp.capturedPresent index = true →
      hwpEffectiveMaximum (hwp.capturedRequests index) hwp.capturedPackageRequest
        hwp.flexibleRequestFields < hwpHighest hwp.capabilitiesRaw

theorem restoreSafe_of_restricted {hwp : HWP} (h : hwpMaximumRestricted hwp = true) :
    RestoreSafe hwp := by
  intro _ _ index hpresent
  simp only [hwpMaximumRestricted, Bool.and_eq_true, List.all_eq_true, decide_eq_true_eq] at h
  have hmem : index ∈ cpusPresent hwp.capturedPresent :=
    List.mem_filter.2 ⟨List.mem_finRange index, hpresent⟩
  exact (h.1.2 index hmem).2

/-- An HWP access that does not enable HWP. -/
abbrev HWPAccess : Entry → Prop := fun e => e.event.IsHWP ∧ ¬ e.event.IsEnable

theorem Entry.Restrained.hwpAccess {e : Entry} (h : e.Restrained) : HWPAccess e := ⟨h.1, h.2.1⟩

section

variable {P : Platform} {r : LimitRequest} {base : List Entry} {w w' : World} {s : Seen}

/-! ## Limits -/

/-- What `installLimitsLocked` may change of the driver. -/
def LimitMembers (d d' : Driver) : Prop :=
  d' = { d with
    expectedPackageLimit := d'.expectedPackageLimit
    appliedPL1MW := d'.appliedPL1MW
    appliedPL2MW := d'.appliedPL2MW }

theorem Trail.install (h : Trail r base w s) {pl1MW pl2MW : U32} {ok : Bool}
    (hexec : exec (installLimitsLocked P pl1MW pl2MW) w = (ok, w')) :
    ∃ s', Trail r base w' s' ∧ LimitMembers w.driver w'.driver ∧
      (ok = true → s'.InForce w'.driver pl1MW pl2MW) := by
  rcases installLimitsLocked_cases P pl1MW pl2MW w hexec with ⟨rfl, current, rfl⟩ |
    ⟨current, requested, readback, hinstalled⟩
  · exact ⟨_, h.logged (.rdmsr msrPackagePowerLimit current) (rule_of_read trivial), rfl, by simp⟩
  have hread := h.logged (.rdmsr msrPackagePowerLimit current) (rule_of_read trivial)
  have hwrite := hread.logged (.wrmsr msrPackagePowerLimit requested)
    (rule_of_limit requested w.driver)
  have hreadback := hwrite.logged (.rdmsr msrPackagePowerLimit readback) (rule_of_read trivial)
  refine ⟨_, hreadback.congr hinstalled.log, hinstalled.driver, fun hok => ?_⟩
  have hexponent : w'.driver.powerExponent = w.driver.powerExponent := by
    rw [hinstalled.driver]
  refine ⟨?_, current, ?_⟩
  · simp [Seen.next, ← hinstalled.ok_eq, hok]
  · rw [hexponent, ← hinstalled.requested_eq]
    rfl

/-! ## The bootstrap of HWP -/

theorem Trail.bootstrap (h : Trail r base w s) {limitMW : U32}
    (hforce : s.InForce w.driver limitMW limitMW)
    (hle : limitMW.toNat ≤ max hwpBootstrapLimitMW.toNat w.driver.floorMW.toNat)
    (hidle : w.driver.hwp.captured = false) {ok : Bool}
    (hexec : exec (bootstrapHWPLocked P) w = (ok, w')) :
    ∃ s', s.Le s' ∧ Trail r base w' s' ∧ HWPMembers w.driver w'.driver ∧
      RestoreSafe w'.driver.hwp := by
  have hK : ∀ e : Entry, e.event.IsRead → Reads e := fun _ he => he
  have hunsafe : ∀ {w₁ : World}, HWPDetection w.driver w₁.driver → RestoreSafe w₁.driver.hwp := by
    intro w₁ hdriver _ hcaptured
    exact absurd (hdriver.captured.trans hidle) (by simp [hcaptured])
  unfold bootstrapHWPLocked at hexec
  rw [exec_bind, exec_getDriver] at hexec
  rcases exec_ite_cases hexec with ⟨-, hexec⟩ | ⟨-, hexec⟩
  · obtain ⟨-, rfl⟩ := Prod.mk.inj hexec
    exact ⟨s, .refl s, h, refl_of _ w.driver, hunsafe (refl_of _ w.driver)⟩
  rw [exec_bind] at hexec
  -- the limits are read back first: nothing is written
  have hlimits : Frame HWPDetection Reads w
      (exec (verifyLimitsLocked P w.driver.expectedPackageLimit) w).2 :=
    keeps_verifyLimitsLocked P hK _ w
  generalize exec (verifyLimitsLocked P w.driver.expectedPackageLimit) w = x at hexec hlimits
  obtain ⟨verified, w₁⟩ := x
  dsimp only at hexec hlimits
  obtain ⟨s₁, hle₁, h₁⟩ := h.reads hlimits
  rcases exec_ite_cases hexec with ⟨-, hexec⟩ | ⟨-, hexec⟩
  · obtain ⟨-, rfl⟩ := Prod.mk.inj hexec
    exact ⟨s₁, hle₁, h₁, hlimits.driver.toHWPMembers, hunsafe hlimits.driver⟩
  rw [exec_bind] at hexec
  have hguard := trans_of _ hlimits (keeps_readPowerControlLocked P hK w₁)
  generalize hread : exec (readPowerControlLocked P) w₁ = x at hexec hguard
  obtain ⟨guard, w₂⟩ := x
  dsimp only at hexec hguard
  obtain ⟨cpus, hlog, hon⟩ := readPowerControlLocked_spec P hread
  -- the report of the guard is one event
  have h₂ : Trail r base w₂ (s₁.next (.powerControl .read cpus)) :=
    (h₁.logged (.powerControl .read cpus) (rule_of_read rfl)).congr hlog
  have hle₂ : s.Le (s₁.next (.powerControl .read cpus)) := hle₁.trans (Seen.le_next s₁ rfl)
  rcases exec_ite_cases hexec with ⟨-, hexec⟩ | ⟨hreported, hexec⟩
  · obtain ⟨-, rfl⟩ := Prod.mk.inj hexec
    exact ⟨_, hle₂, h₂, hguard.driver.toHWPMembers, hunsafe hguard.driver⟩
  simp only [Bool.or_eq_true, not_or, Bool.not_eq_true', Bool.not_eq_false] at hreported
  have hguardOn : (s₁.next (.powerControl .read cpus)).guardOn = true := by
    simp [Seen.next, hon hreported.1 hreported.2]
  rw [exec_bind] at hexec
  -- whether HWP is enabled is only read
  have henable := keeps_readHWPEnableStateLocked P hK w₂
  have hstate := trans_of _ hguard henable
  generalize exec (readHWPEnableStateLocked P) w₂ = x at hexec henable hstate
  obtain ⟨⟨valid, allEnabled⟩, w₃⟩ := x
  dsimp only at hexec henable hstate
  obtain ⟨s₃, hle₃, h₃⟩ := h₂.reads henable
  rcases exec_ite_cases hexec with ⟨-, hexec⟩ | ⟨-, hexec⟩
  · obtain ⟨-, rfl⟩ := Prod.mk.inj hexec
    exact ⟨s₃, hle₂.trans hle₃, h₃, hstate.driver.toHWPMembers, hunsafe hstate.driver⟩
  -- from here on TurboMac has enabled HWP
  have hboot : Frame HWPMembers (fun e => e.Restrained ∨ e.event.IsEnable) w₃
        (exec (bootstrapEnableHWPLocked P) w₃).2 ∧
      (exec (bootstrapEnableHWPLocked P) w₃).2.driver.hwp.enabledByTurboMac = true :=
    frame_bootstrapEnableHWPLocked P (fun _ he => .inl he) (fun _ he => .inr he) w₃
  rw [hexec] at hboot
  obtain ⟨hframe, henabled⟩ := hboot
  have hhwp : ∀ e : Entry, e.Restrained ∨ e.event.IsEnable → e.event.IsHWP := by
    rintro e (he | he)
    · exact he.1
    · exact Event.IsEnable.onHWP he
  have hrule : ∀ s' e, s₃.Le s' → HWPMembers w₃.driver e.driver →
      (e.Restrained ∨ e.event.IsEnable) → Rule r s' e := by
    -- a restrained write is allowed anywhere; the enabling needs the guard and the limit
    rintro s' e hs' hd (he | he)
    · exact rule_of_restrained he
    · have hdriver := trans_of HWPMembers hstate.driver.toHWPMembers hd
      have hfloor : e.driver.floorMW = w.driver.floorMW := by rw [hdriver.eq]
      have hexponent : e.driver.powerExponent = w.driver.powerExponent := by rw [hdriver.eq]
      refine rule_of_enable he (hs'.guardOn (hle₃.guardOn hguardOn)) ?_
        (hforce.mono ((hle₂.trans hle₃).trans hs') hexponent)
      rw [hfloor]
      exact hle
  obtain ⟨s₄, hle₄, h₄⟩ := h₃.extend hframe hhwp hrule
  refine ⟨s₄, (hle₂.trans hle₃).trans hle₄, h₄,
    trans_of _ hstate.driver.toHWPMembers hframe.driver, ?_⟩
  intro hdisabled
  exact absurd henabled (by simp [hdisabled])

/-! ## The limits of `arm` -/

theorem bootstrapLimitMW_le (d : Driver) (request : LimitRequest) :
    (bootstrapLimitMW d request false).toNat ≤
      max hwpBootstrapLimitMW.toNat d.floorMW.toNat := by
  set conservative : U32 :=
    if hwpBootstrapLimitMW < d.floorMW then d.floorMW else hwpBootstrapLimitMW with hdef
  have hle : conservative.toNat ≤ max hwpBootstrapLimitMW.toNat d.floorMW.toNat := by
    rw [hdef]
    split
    · exact le_max_right _ _
    · exact le_max_left _ _
  show (if conservative < request.pl1MW then conservative else request.pl1MW).toNat ≤ _
  by_cases hlt : conservative < request.pl1MW
  · rw [if_pos hlt]
    exact hle
  · rw [if_neg hlt]
    rw [BitVec.not_lt, BitVec.le_def] at hlt
    exact hlt.trans hle

/-- The chain of `arm` leaves the requested limits in force, or a safe HWP state. -/
theorem Trail.armInstall (h : Trail r base w s) {hwpWasEnabled : Bool}
    (hrestricted : hwpWasEnabled = true → RestoreSafe w.driver.hwp)
    (hidle : hwpWasEnabled = false → w.driver.hwp.captured = false) {ok : Bool}
    (hexec : exec (armInstall P r hwpWasEnabled) w = (ok, w')) :
    ∃ s', Trail r base w' s' ∧ (ok = true → s'.InForce w'.driver r.pl1MW r.pl2MW) ∧
      (ok = false → RestoreSafe w'.driver.hwp) := by
  have hK : ∀ e : Entry, e.event.IsRead → Reads e := fun _ he => he
  have hsafe : RestoreSafe w.driver.hwp := by
    cases hwpWasEnabled with
    | true => exact hrestricted rfl
    | false =>
        intro _ hcaptured
        exact absurd (hidle rfl) (by simp [hcaptured])
  unfold Kext.armInstall at hexec
  rw [exec_bind, exec_getDriver, exec_bind] at hexec
  dsimp only at hexec
  set limitMW := bootstrapLimitMW w.driver r hwpWasEnabled with hlimitMW
  -- the request is validated once more
  have hvalidate : Frame Eq Reads w (exec (validateRequestLocked P (some r) true) w).2 :=
    keeps_validateRequestLocked P hK _ _ w
  generalize exec (validateRequestLocked P (some r) true) w = x at hexec hvalidate
  obtain ⟨valid, w₁⟩ := x
  dsimp only at hexec hvalidate
  obtain ⟨s₁, -, h₁⟩ := h.reads hvalidate
  have hdriver₁ : w₁.driver = w.driver := hvalidate.driver.symm
  rcases exec_ite_cases hexec with ⟨-, hexec⟩ | ⟨-, hexec⟩
  · obtain ⟨rfl, rfl⟩ := Prod.mk.inj hexec
    exact ⟨s₁, h₁, by simp, fun _ => hdriver₁ ▸ hsafe⟩
  rw [exec_bind] at hexec
  -- the limits come before HWP is enabled
  generalize hinstall : exec (installLimitsLocked P limitMW
    (if hwpWasEnabled then r.pl2MW else limitMW)) w₁ = x at hexec
  obtain ⟨installed, w₂⟩ := x
  dsimp only at hexec
  obtain ⟨s₂, h₂, hmembers, hforce⟩ := h₁.install hinstall
  have hhwp₂ : w₂.driver.hwp = w.driver.hwp := by rw [hmembers, hdriver₁]
  rcases exec_ite_cases hexec with ⟨-, hexec⟩ | ⟨hinstalled, hexec⟩
  · obtain ⟨rfl, rfl⟩ := Prod.mk.inj hexec
    exact ⟨s₂, h₂, by simp, fun _ => hhwp₂ ▸ hsafe⟩
  have hforce₂ := hforce (by simpa using hinstalled)
  rcases exec_ite_cases hexec with ⟨henabled, hexec⟩ | ⟨hdisabled, hexec⟩
  · obtain ⟨rfl, rfl⟩ := Prod.mk.inj hexec
    refine ⟨s₂, h₂, fun _ => ?_, by simp⟩
    simp only [henabled, if_true, hlimitMW, bootstrapLimitMW] at hforce₂
    exact hforce₂
  · -- HWP was off: it is enabled under the bootstrap limit
    rw [Bool.not_eq_true] at hdisabled
    subst hdisabled
    simp only [Bool.false_eq_true, if_false] at hforce₂
    have hle : limitMW.toNat ≤ max hwpBootstrapLimitMW.toNat w₂.driver.floorMW.toNat := by
      have hfloor : w₂.driver.floorMW = w.driver.floorMW := by rw [hmembers, hdriver₁]
      rw [hfloor]
      exact bootstrapLimitMW_le w.driver r
    rw [exec_bind] at hexec
    generalize hboot : exec (bootstrapHWPLocked P) w₂ = x at hexec
    obtain ⟨booted, w₃⟩ := x
    dsimp only at hexec
    obtain ⟨s₃, hle₃, h₃, hmembers₃, hsafe₃⟩ :=
      h₂.bootstrap hforce₂ hle (by rw [hhwp₂]; exact hidle rfl) hboot
    rcases exec_ite_cases hexec with ⟨-, hexec⟩ | ⟨-, hexec⟩
    · obtain ⟨rfl, rfl⟩ := Prod.mk.inj hexec
      exact ⟨s₃, h₃, by simp, fun _ => hsafe₃⟩
    rcases exec_ite_cases hexec with ⟨hsame, hexec⟩ | ⟨-, hexec⟩
    · obtain ⟨rfl, rfl⟩ := Prod.mk.inj hexec
      refine ⟨s₃, h₃, fun _ => ?_, by simp⟩
      have hforce₃ : s₃.InForce w₃.driver limitMW limitMW :=
        hforce₂.mono hle₃ (by rw [hmembers₃.eq])
      -- the request is the bootstrap limit, which is in force already
      rw [← hsame.1, ← hsame.2]
      exact hforce₃
    · obtain ⟨s₄, h₄, hmembers₄, hforce₄⟩ := h₃.install hexec
      refine ⟨s₄, h₄, hforce₄, fun _ => ?_⟩
      rw [hmembers₄]
      exact hsafe₃

end

end TurboMac.Kext
