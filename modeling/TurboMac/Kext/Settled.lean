import TurboMac.Kext.Copies

/-! # What no call changes

`start` sets the identity of the CPU and its bounds for good. The reservation of the
client is for `newUserClient` and `clientDisconnected`, and the last sequence only goes
up, to the sequence of a request that has been taken.
-/

namespace TurboMac.Kext

open Program

/-- The members that `initializeCapabilitiesLocked` sets once. -/
structure Identity where
  supported : Bool
  powerExponent : U32
  energyExponent : U32
  floorMW : U32
  capabilityMaximumMW : U32
  thermalSpecMW : U32
  cpuFamily : U32
  cpuModel : U32
  cpuStepping : U32
  unitsRaw : U64
  powerInfoRaw : U64

def Driver.identity (d : Driver) : Identity :=
  ⟨d.supported, d.powerExponent, d.energyExponent, d.floorMW, d.capabilityMaximumMW,
    d.thermalSpecMW, d.cpuFamily, d.cpuModel, d.cpuStepping, d.unitsRaw, d.powerInfoRaw⟩

/-- What the functions below the calls leave alone. -/
structure Settled where
  identity : Identity
  clientReserved : Bool
  lastSequence : U64

def Driver.settled (d : Driver) : Settled := ⟨d.identity, d.clientReserved, d.lastSequence⟩

/-- The settled members are as they were. -/
def Settles (w w' : World) : Prop := w'.driver.settled = w.driver.settled

instance : IsPreorder World Settles where
  refl _ := rfl
  trans _ _ _ h h' := Eq.trans h' h

theorem HWPMembers.settled {d d' : Driver} (h : HWPMembers d d') : d'.settled = d.settled := by
  rw [h.eq]
  rfl

theorem settles_of_hwpMembers {α : Type} {K : Entry → Prop} {m : DriverM α}
    (h : Keeps (Frame HWPMembers K) m) : Keeps Settles m :=
  h.mono fun _ _ hw => hw.driver.settled

theorem settles_of_hwpDetection {α : Type} {K : Entry → Prop} {m : DriverM α}
    (h : Keeps (Frame HWPDetection K) m) : Keeps Settles m :=
  settles_of_hwpMembers (keeps_hwpMembers h)

theorem settles_assign {f : Driver → Driver} {α : Type} {m : PUnit → DriverM α}
    (h : ∀ d, (f d).settled = d.settled) (hm : ∀ u, Keeps Settles (m u)) :
    Keeps Settles (assign f >>= m) :=
  Keeps.bind (fun w => h w.driver) hm

theorem keeps_getDriver_settles : Keeps Settles getDriver := fun _ => rfl

theorem settles_setTimeoutMS (timeout : U32) : Keeps Settles (setTimeoutMS timeout) := fun _ => rfl

theorem settles_schedulePassiveGuardLocked : Keeps Settles schedulePassiveGuardLocked :=
  keeps_getDriver_settles.bind fun _ => Keeps.ite (settles_setTimeoutMS _) (keeps_pure _)

section

variable (P : Platform)

/-! ## Below the calls -/

theorem settles_installLimitsLocked (pl1MW pl2MW : U32) :
    Keeps Settles (installLimitsLocked P pl1MW pl2MW) := by
  intro w
  generalize hexec : exec (installLimitsLocked P pl1MW pl2MW) w = r
  rcases r with ⟨ok, w'⟩
  rcases installLimitsLocked_cases P pl1MW pl2MW w hexec with
    ⟨-, current, rfl⟩ | ⟨_, _, _, hinstalled⟩
  · rfl
  · show w'.driver.settled = w.driver.settled
    rw [hinstalled.driver]
    rfl

theorem settles_validateRequestLocked (request : Option LimitRequest) (isArm : Bool) :
    Keeps Settles (validateRequestLocked P request isArm) :=
  (keeps_validateRequestLocked P (fun _ he => he) request isArm : Keeps (Frame Eq Reads) _).mono
    fun _ _ h => congrArg Driver.settled h.driver.symm

theorem settles_armInstall (request : LimitRequest) (hwpWasEnabled : Bool) :
    Keeps Settles (armInstall P request hwpWasEnabled) := by
  have hinstall := settles_installLimitsLocked P
  have hbootstrap : Keeps Settles (bootstrapHWPLocked P) :=
    settles_of_hwpMembers (keeps_bootstrapHWPLocked P (fun e he => he.onHWP) fun e he => he.onHWP)
  refine keeps_getDriver_settles.bind fun _ => (settles_validateRequestLocked P (some request) true).bind fun _ => ?_
  refine Keeps.ite (keeps_pure _) ((hinstall _ _).bind fun _ => ?_)
  refine Keeps.ite (keeps_pure _) (Keeps.ite (keeps_pure _) (hbootstrap.bind fun _ => ?_))
  exact Keeps.ite (keeps_pure _) (Keeps.ite (keeps_pure _) (hinstall _ _))

theorem settles_restoreLocked (reason : RestoreReason) : Keeps Settles (restoreLocked P reason) := by
  have hread : ∀ e : Entry, e.event.IsRead → True := fun _ _ => trivial
  have hguard : ∀ enabled, Keeps Settles (setPowerControlGuardLocked P enabled) := by
    intro enabled
    have hkeeps := keeps_setPowerControlGuardLocked P (K := fun _ => True) enabled fun _ _ => trivial
    exact settles_of_hwpDetection hkeeps
  have hlimits : ∀ restored, Keeps Settles (restoreLimitsLocked P restored) := by
    intro restored
    have hkeeps := @keeps_restoreLimitsLocked P HWPMembers _ (fun _ => True) hread
      (fun _ _ => trivial) restored
    exact settles_of_hwpMembers hkeeps
  have hpassive : Keeps Settles (restorePassiveLocked P reason) := by
    refine keeps_getDriver_settles.bind fun _ => ?_
    have hensure := settles_of_hwpDetection (keeps_ensurePassiveGuardLocked P)
    refine ((keeps_pure _).andM hensure).bind fun _ => ?_
    have hfailSafe := settles_of_hwpDetection (keeps_ensureHWPFailSafeLocked_guarding P)
    refine ((keeps_pure _).orM hfailSafe).bind fun _ => ?_
    refine settles_assign (fun _ => rfl) fun _ => ?_
    exact settles_schedulePassiveGuardLocked.bind fun _ => keeps_pure _
  have hcaptured : Keeps Settles (restoreCapturedLocked P reason) := by
    refine (hguard true).bind fun _ => ?_
    refine (settles_of_hwpMembers (keeps_restoreHWPLocked_onHWP P)).bind fun _ => ?_
    refine (hlimits _).bind fun _ => settles_assign (fun _ => rfl) fun _ => ?_
    exact settles_schedulePassiveGuardLocked.bind fun _ => keeps_pure _
  refine settles_assign (fun _ => rfl) fun _ => keeps_getDriver_settles.bind fun _ => ?_
  exact Keeps.ite hpassive hcaptured

/-! ## The calls -/

/-- The sequence of the request, if the call has one. -/
def Op.sequence : Op → Option U64
  | .arm request | .update request => request.map (·.sequence)
  | .disarm request => request.map (·.sequence)
  | .invalidClientCommand | .clientDisconnected | .watchdogFired => none

/-- The call will not return success, however its restore goes. -/
def Exit.refuses : Exit → Bool
  | .done code => code != .success
  | .restore _ onRestored onFailed => onRestored != .success && onFailed != .success

/-- The settled members are as they were, and a request was refused; or it was taken, and
its sequence is higher than that of any before it. -/
def Takes (sequence : Option U64) (refused : Prop) (w w' : World) : Prop :=
  Settles w w' ∧ (sequence.isSome = true → refused) ∨
    ∃ taken ∈ sequence, w.driver.lastSequence < taken ∧
      w'.driver.settled = { w.driver.settled with lastSequence := taken }

theorem Takes.after {sequence : Option U64} {refused refused' : Prop} {w w' w'' : World}
    (h : Takes sequence refused w w') (hrefused : refused → refused') (h' : Settles w' w'') :
    Takes sequence refused' w w'' := by
  rcases h with ⟨hsettles, hr⟩ | ⟨taken, hmem, hlt, htaken⟩
  · exact .inl ⟨trans_of Settles hsettles h', fun hsome => hrefused (hr hsome)⟩
  · exact .inr ⟨taken, hmem, hlt, Eq.trans h' htaken⟩

/-- A request that is valid is newer than the last. -/
theorem lt_of_validateLimitRequest {request : LimitRequest} {last : U64}
    {floorMW ceilingPL1MW ceilingPL2MW timeoutMS : U32}
    (h : validateLimitRequest (some request) last floorMW ceilingPL1MW ceilingPL2MW timeoutMS = true) :
    last < request.sequence := by
  unfold validateLimitRequest at h
  exact (of_decide_eq_true h).2.2.2.2.1

theorem lt_of_validateRequestLocked {request : LimitRequest} {isArm : Bool} {w w' : World}
    (h : exec (validateRequestLocked P (some request) isArm) w = (true, w')) :
    w.driver.lastSequence < request.sequence := by
  unfold validateRequestLocked at h
  rw [exec_bind, exec_getDriver] at h
  rcases exec_ite_cases h with ⟨-, h⟩ | ⟨-, h⟩
  · exact lt_of_validateLimitRequest (Prod.mk.inj h).1
  · exact lt_of_validateLimitRequest (Prod.mk.inj h).1

theorem armInstall_newer {request : LimitRequest} {hwpWasEnabled : Bool} {w w' : World}
    (h : exec (armInstall P request hwpWasEnabled) w = (true, w')) :
    w.driver.lastSequence < request.sequence := by
  unfold armInstall at h
  rw [exec_bind, exec_getDriver, exec_bind] at h
  generalize hvalidate : exec (validateRequestLocked P (some request) true) w = r at h
  rcases r with ⟨valid, w₁⟩
  rcases exec_ite_cases h with ⟨-, h⟩ | ⟨hvalid, -⟩
  · cases (Prod.mk.inj h).1
  · have htrue : valid = true := by simpa using hvalid
    rw [htrue] at hvalidate
    exact lt_of_validateRequestLocked P hvalidate

theorem armCaptured_takes {request : LimitRequest} {capture : ArmCapture} {w w' : World}
    {exit : Exit} (h : exec (armCaptured P request capture) w = (exit, w')) :
    Takes (some request.sequence) (exit.refuses = true) w w' := by
  have hguard := settles_of_hwpDetection
    (keeps_setPowerControlGuardLocked P (K := fun _ => True) false fun _ _ => trivial)
  have happly := settles_of_hwpMembers (keeps_applyHWPMaximumLocked_onHWP P request.hwpMode)
  rcases armCaptured_cases P h with ⟨installed, w₁, hinstall, hcases⟩
  have hstored : Settles w (capture.store w) := rfl
  have h₁ := trans_of Settles hstored
    ((settles_armInstall P request capture.hwpWasEnabled).rel hinstall)
  rcases hcases with ⟨-, rfl, rfl⟩ | ⟨rfl, applied, w₂, happlied, hcases⟩
  · exact .inl ⟨h₁, fun _ => rfl⟩
  have h₂ : Settles w w₂ := trans_of Settles h₁ (happly.rel happlied)
  rcases hcases with ⟨-, rfl, rfl⟩ | ⟨-, cleared, w₃, hclear, hcases⟩
  · exact .inl ⟨h₂, fun _ => rfl⟩
  have h₃ : Settles w w₃ := trans_of Settles h₂ (hguard.rel hclear)
  rcases hcases with ⟨-, rfl, rfl⟩ | ⟨-, rfl, rfl⟩
  · exact .inl ⟨h₃, fun _ => rfl⟩
  · -- armed: the sequence was checked with the limits
    have hnewer : (capture.store w).driver.lastSequence < request.sequence := armInstall_newer P hinstall
    refine .inr ⟨request.sequence, rfl, hnewer, ?_⟩
    exact congrArg (fun s : Settled => { s with lastSequence := request.sequence }) h₃

theorem Refused.settles {w w' : World} {code : IOReturn} (h : Refused w code w') : Settles w w' := by
  rcases h.driver with ⟨d, hd, hdriver⟩
  show w'.driver.settled = w.driver.settled
  rw [hdriver, ← hd.settled]
  rfl

theorem updateValidated_takes {request : LimitRequest} {w w' : World} {exit : Exit}
    (hnewer : w.driver.lastSequence < request.sequence)
    (h : exec (updateValidated P request) w = (exit, w')) : Takes (some request.sequence) (exit.refuses = true) w w' := by
  have hread : ∀ e : Entry, e.event.IsRead → True := fun _ _ => trivial
  unfold updateValidated at h
  rcases exec_ite_cases h with ⟨-, h⟩ | ⟨-, h⟩
  · rcases Prod.mk.inj h with ⟨rfl, rfl⟩
    exact .inl ⟨rfl, fun _ => rfl⟩
  have hverify : Settles w (exec (verifyArmedStateLocked P) w).2 :=
    settles_of_hwpDetection (keeps_verifyArmedStateLocked P hread) w
  rw [exec_bind] at h
  generalize exec (verifyArmedStateLocked P) w = r at h hverify
  rcases r with ⟨verified, w₁⟩
  dsimp only at h hverify
  rcases exec_ite_cases h with ⟨-, h⟩ | ⟨-, h⟩
  · rcases Prod.mk.inj h with ⟨rfl, rfl⟩
    exact .inl ⟨hverify, fun _ => rfl⟩
  have hvalidate : Settles w (exec (validateRequestLocked P (some request) false) w₁).2 :=
    trans_of Settles hverify (settles_validateRequestLocked P (some request) false w₁)
  rw [exec_bind] at h
  generalize exec (validateRequestLocked P (some request) false) w₁ = r at h hvalidate
  rcases r with ⟨valid, w₂⟩
  dsimp only at h hvalidate
  rcases exec_ite_cases h with ⟨-, h⟩ | ⟨-, h⟩
  · rcases Prod.mk.inj h with ⟨rfl, rfl⟩
    exact .inl ⟨hvalidate, fun _ => rfl⟩
  have hinstall : Settles w (exec (installLimitsLocked P request.pl1MW request.pl2MW) w₂).2 :=
    trans_of Settles hvalidate (settles_installLimitsLocked P request.pl1MW request.pl2MW w₂)
  rw [exec_bind] at h
  generalize exec (installLimitsLocked P request.pl1MW request.pl2MW) w₂ = r at h hinstall
  rcases r with ⟨installed, w₃⟩
  dsimp only at h hinstall
  rcases exec_ite_cases h with ⟨-, h⟩ | ⟨-, h⟩
  · rcases Prod.mk.inj h with ⟨rfl, rfl⟩
    exact .inl ⟨hinstall, fun _ => rfl⟩
  · rcases Prod.mk.inj h with ⟨-, rfl⟩
    refine .inr ⟨request.sequence, rfl, hnewer, ?_⟩
    exact congrArg (fun s : Settled => { s with lastSequence := request.sequence }) hinstall

theorem updateExit_takes {request : Option LimitRequest} {w w' : World} {exit : Exit}
    (h : exec (updateExit P request) w = (exit, w')) :
    Takes (request.map (·.sequence)) (exit.refuses = true) w w' := by
  have hread : ∀ e : Entry, e.event.IsRead → True := fun _ _ => trivial
  unfold updateExit at h
  rw [exec_bind, exec_getDriver] at h
  rcases exec_ite_cases h with ⟨-, h⟩ | ⟨-, h⟩
  · rcases Prod.mk.inj h with ⟨rfl, rfl⟩
    exact .inl ⟨rfl, fun _ => rfl⟩
  have hvalidate : w.driver = (exec (validateRequestLocked P request false) w).2.driver :=
    (keeps_validateRequestLocked P hread request false w : Frame Eq (fun _ => True) w _).driver
  rw [exec_bind] at h
  generalize hvalid : exec (validateRequestLocked P request false) w = r at h hvalidate
  rcases r with ⟨valid, w₁⟩
  dsimp only at h hvalidate
  have hsettles : Settles w w₁ := congrArg Driver.settled hvalidate.symm
  rcases exec_ite_cases h with ⟨-, h⟩ | ⟨htrue, h⟩
  · rcases Prod.mk.inj h with ⟨rfl, rfl⟩
    exact .inl ⟨hsettles, fun _ => rfl⟩
  cases request with
  | none =>
      rcases Prod.mk.inj h with ⟨rfl, rfl⟩
      exact .inl ⟨hsettles, fun _ => rfl⟩
  | some request =>
      obtain rfl : valid = true := by simpa using htrue
      have hnewer := lt_of_validateRequestLocked P hvalid
      have hnewer₁ : w₁.driver.lastSequence < request.sequence := hvalidate ▸ hnewer
      rcases updateValidated_takes P hnewer₁ h with ⟨hafter, hrefused⟩ | ⟨taken, hmem, -, htaken⟩
      · exact .inl ⟨trans_of Settles hsettles hafter, hrefused⟩
      · rcases hmem with ⟨⟩
        refine .inr ⟨request.sequence, rfl, hnewer, ?_⟩
        rw [htaken, hvalidate]

theorem disarmExit_takes {request : Option CommandRequest} {w w' : World} {exit : Exit}
    (h : exec (disarmExit request) w = (exit, w')) : Takes (request.map (·.sequence)) (exit.refuses = true) w w' := by
  unfold disarmExit at h
  rw [exec_bind, exec_getDriver] at h
  cases request with
  | none =>
      rcases Prod.mk.inj h with ⟨rfl, rfl⟩
      exact .inl ⟨rfl, fun _ => rfl⟩
  | some request =>
      rcases exec_ite_cases h with ⟨-, h⟩ | ⟨hvalid, h⟩
      · rcases Prod.mk.inj h with ⟨rfl, rfl⟩
        exact .inl ⟨rfl, fun _ => rfl⟩
      · rcases Prod.mk.inj h with ⟨-, rfl⟩
        have hnewer : ¬ request.sequence ≤ w.driver.lastSequence := fun hle => hvalid (.inr (.inr hle))
        exact .inr ⟨request.sequence, rfl, BitVec.not_le.1 hnewer, rfl⟩

theorem settles_watchdogFiredExit : Keeps Settles (watchdogFiredExit P) := by
  have hread : ∀ e : Entry, e.event.IsRead → True := fun _ _ => trivial
  have hpassive : Keeps Settles (watchdogPassive P) := by
    intro w
    generalize hexec : exec (watchdogPassive P) w = r
    rcases r with ⟨exit, w'⟩
    rcases watchdogPassive_cases P hexec with ⟨-, w₁, _, _, hframe, -, rfl⟩
    exact hframe.driver.toHWPMembers.settled
  have hclock : Keeps (Frame HWPMembers fun _ => True) (readAbsoluteTime P) :=
    keeps_readAbsoluteTime P hread
  refine settles_assign (fun _ => rfl) fun _ => keeps_getDriver_settles.bind fun _ => Keeps.ite ?_ ?_
  · refine (settles_of_hwpMembers hclock).bind fun _ => keeps_getDriver_settles.bind fun _ => ?_
    refine Keeps.ite (keeps_pure _) ?_
    refine (settles_of_hwpDetection (keeps_verifyArmedStateLocked P hread)).bind fun _ => ?_
    exact Keeps.ite (keeps_pure _) ((settles_setTimeoutMS _).bind fun _ => keeps_pure _)
  · exact Keeps.ite hpassive (keeps_pure _)

theorem exit_takes (op : Op) {w w' : World} {exit : Exit} (h : exec (op.exit P) w = (exit, w')) :
    Takes op.sequence (exit.refuses = true) w w' := by
  cases op with
  | arm request =>
      rcases armExit_cases P request w with ⟨code, w₁, hexec, hrefused⟩ |
        ⟨r, capture, w₀, w₁, rfl, -, -, -, hframe₀, hframe₁, -, hexec⟩
      · change exec (armExit P request) w = _ at h
        rw [hexec] at h
        rcases Prod.mk.inj h with ⟨rfl, rfl⟩
        exact .inl ⟨hrefused.settles, fun _ => by simpa [Exit.refuses] using hrefused.code.1⟩
      · change exec (armExit P (some r)) w = _ at h
        rw [hexec] at h
        have hchecked : w₁.driver.settled = w.driver.settled :=
          hframe₁.driver.settled.trans (congrArg Driver.settled hframe₀.driver.symm)
        rcases armCaptured_takes P h with ⟨hafter, hrefused⟩ | ⟨taken, hmem, hnewer, htaken⟩
        · exact .inl ⟨Eq.trans hafter hchecked, hrefused⟩
        · refine .inr ⟨taken, hmem, ?_, ?_⟩
          · rwa [← show w₁.driver.lastSequence = w.driver.lastSequence from
              congrArg Settled.lastSequence hchecked]
          · rw [htaken, hchecked]
  | update request => exact updateExit_takes P h
  | disarm request => exact disarmExit_takes h
  | invalidClientCommand | clientDisconnected =>
      rcases Prod.mk.inj h with ⟨-, rfl⟩
      exact .inl ⟨rfl, fun hsome => by cases hsome⟩
  | watchdogFired => exact .inl ⟨(settles_watchdogFiredExit P).rel h, fun hsome => by cases hsome⟩

/-- The reservation after a call. -/
def Op.reservation (op : Op) (clientReserved : Bool) : Bool :=
  match op with
  | .clientDisconnected => false
  | _ => clientReserved

/-- A call refuses its request, or takes its sequence; it keeps the identity, and
releases the client if that has disconnected. -/
theorem after_settled (op : Op) (w : World) :
    ((op.after P w).driver.settled =
        { w.driver.settled with clientReserved := op.reservation w.driver.clientReserved } ∧
      (op.sequence.isSome = true → (exec (op.call P) w).1 ≠ .success)) ∨
    ∃ taken ∈ op.sequence, w.driver.lastSequence < taken ∧
      (op.after P w).driver.settled = { w.driver.settled with lastSequence := taken } := by
  generalize hexit : exec (op.exit P) w = r
  rcases r with ⟨exit, w'⟩
  have hcode : (exec (op.call P) w).1 = (exec (leave P exit) w').1 := by
    show (exec (leave P (exec (op.exit P) w).1) (exec (op.exit P) w).2).1 = _
    rw [hexit]
  have hrefuses : exit.refuses = true → (exec (op.call P) w).1 ≠ .success := by
    intro hrefuses
    rw [hcode]
    cases exit with
    | done code =>
        show code ≠ .success
        simpa [Exit.refuses] using hrefuses
    | restore reason onRestored onFailed =>
        simp only [Exit.refuses, Bool.and_eq_true, bne_iff_ne, ne_eq] at hrefuses
        show (if _ then onRestored else onFailed) ≠ _
        split
        · exact hrefuses.1
        · exact hrefuses.2
  have hleave : Settles w' (exec (leave P exit) w').2 := by
    cases exit with
    | done code => rfl
    | restore reason onRestored onFailed =>
        rw [exec_leave_restore]
        exact settles_restoreLocked P reason w'
  have hleft := (exit_takes P op hexit).after hrefuses hleave
  rw [after_eq, hexit]
  dsimp only
  cases op with
  | clientDisconnected =>
      rcases hleft with ⟨hsettles, -⟩ | ⟨taken, hmem, -⟩
      · refine .inl ⟨?_, fun hsome => by cases hsome⟩
        exact congrArg (fun s : Settled => { s with clientReserved := false }) hsettles
      · cases hmem
  | arm | update | disarm | invalidClientCommand | watchdogFired => exact hleft

/-! ## `start` -/

/-- What only `start` assigns. -/
def StartsAs (d d' : Driver) : Prop :=
  d' = { d with
    watchdog := d'.watchdog
    supported := d'.supported
    powerExponent := d'.powerExponent
    energyExponent := d'.energyExponent
    floorMW := d'.floorMW
    capabilityMaximumMW := d'.capabilityMaximumMW
    thermalSpecMW := d'.thermalSpecMW
    cpuFamily := d'.cpuFamily
    cpuModel := d'.cpuModel
    cpuStepping := d'.cpuStepping
    unitsRaw := d'.unitsRaw
    powerInfoRaw := d'.powerInfoRaw }

/-- `start` keeps what the functions it calls and its own assignments keep. -/
theorem keeps_startLocked {R : World → World → Prop} [IsPreorder World R]
    (hassign : ∀ w d, StartsAs w.driver d → R w { w with driver := d })
    (hlogged : ∀ (w : World) e, R w (w.logged e)) (hguard : Keeps R (readPowerControlLocked P))
    (hset : Keeps R (setPowerControlGuardLocked P true)) (hhwp : Keeps R (initializeHWPLocked P)) :
    Keeps R (startLocked P) := by
  have hassigned : ∀ {f : Driver → Driver} {α : Type} {m : PUnit → DriverM α},
      (∀ d, StartsAs d (f d)) → (∀ u, Keeps R (m u)) → Keeps R (assign f >>= m) := by
    intro f α m hf hm
    exact Keeps.bind (fun w => hassign w _ (hf w.driver)) hm
  have hdriver : Keeps R getDriver := fun w => refl_of R w
  have hrdmsr : ∀ msr, Keeps R (rdmsr64 P msr) := fun _ w => hlogged w _
  have hidentity : Keeps R (readCPUIdentity P) := fun w => hlogged w _
  have hmaximum : ∀ maximum, Keeps R (capabilityMaximum P maximum) := fun maximum =>
    Keeps.ite (keeps_pure _) ((hrdmsr _).bind fun _ => hdriver.bind fun _ => keeps_pure _)
  have hinitializeGuard : Keeps R (initializeGuardLocked P) := by
    refine hguard.bind fun _ => hassigned (fun _ => rfl) fun _ => Keeps.ite ?_ (keeps_pure _)
    exact hset.bind fun _ => hassigned (fun _ => rfl) fun _ => keeps_pure _
  have hinitialize : Keeps R (initializeCapabilitiesLocked P) := by
    refine hidentity.bind fun identity => ?_
    rcases identity with ⟨family, model, stepping⟩
    refine hassigned (fun _ => rfl) fun _ => Keeps.ite (keeps_pure _) ?_
    refine (hrdmsr _).bind fun units => (hrdmsr _).bind fun powerInfo => ?_
    refine hassigned (fun _ => rfl) fun _ => (hmaximum _).bind fun maximum => ?_
    refine hassigned (fun _ => rfl) fun _ => (hhwp.bind fun _ => keeps_pure _).bind fun _ => ?_
    exact hdriver.bind fun _ => Keeps.ite hinitializeGuard (keeps_pure _)
  refine hassigned (fun _ => rfl) fun _ => hinitialize.bind fun _ => ?_
  refine Keeps.ite (hdriver.bind fun _ => Keeps.ite ?_ (keeps_pure _)) (keeps_pure _)
  exact fun w => hassign w _ rfl

/-- No client has been there yet, and no request. -/
def Untouched (w w' : World) : Prop :=
  w'.driver.clientReserved = w.driver.clientReserved ∧ w'.driver.lastSequence = w.driver.lastSequence

instance : IsPreorder World Untouched where
  refl _ := ⟨rfl, rfl⟩
  trans _ _ _ h h' := ⟨h'.1.trans h.1, h'.2.trans h.2⟩

theorem untouched_of_hwpDetection {α : Type} {m : DriverM α}
    (h : Keeps (Frame HWPDetection fun _ => True) m) : Keeps Untouched m :=
  (settles_of_hwpDetection h).mono fun _ _ hw =>
    ⟨congrArg Settled.clientReserved hw, congrArg Settled.lastSequence hw⟩

theorem untouched_startLocked : Keeps Untouched (startLocked P) := by
  have hread : ∀ e : Entry, e.event.IsRead → True := fun _ _ => trivial
  refine keeps_startLocked P (R := Untouched) ?_ ?_ ?_ ?_ ?_
  · intro w d hd
    rw [StartsAs] at hd
    exact ⟨by rw [hd], by rw [hd]⟩
  · exact fun _ _ => ⟨rfl, rfl⟩
  · exact untouched_of_hwpDetection (keeps_readPowerControlLocked P hread)
  · exact untouched_of_hwpDetection
      (keeps_setPowerControlGuardLocked P (K := fun _ => True) true fun _ _ => trivial)
  · exact untouched_of_hwpDetection (keeps_initializeHWPLocked P hread)

theorem started_untouched :
    (started P).driver.clientReserved = false ∧ (started P).driver.lastSequence = 0 :=
  untouched_startLocked P ⟨initialDriver, []⟩

/-! ## The copies -/

theorem keeps_detectHWPLocked : Keeps (Frame HWPDetection Reads) (detectHWPLocked P) := by
  refine keeps_getDriver.bind fun _ => Keeps.ite ?_ (keeps_pure _)
  exact (keeps_initializeHWPLocked P fun _ he => he).bind fun _ => keeps_pure _

theorem keeps_currentPackageRequest : Keeps (Frame HWPDetection Reads) (currentPackageRequest P) := by
  refine keeps_getHWP.bind fun _ => Keeps.ite ?_ (keeps_pure _)
  exact (keeps_readHWPPackageRequestLocked P fun _ he => he).bind fun _ => keeps_pure _

theorem keeps_rdmsrIfSupported (msr : U32) :
    Keeps (Frame HWPDetection Reads) (rdmsrIfSupported P msr) :=
  keeps_getDriver.bind fun _ => Keeps.ite (keeps_rdmsr64 P (fun _ he => he) _) (keeps_pure _)

theorem keeps_readPowerControlIfSupported :
    Keeps (Frame HWPDetection Reads) (readPowerControlIfSupported P) := by
  refine keeps_getDriver.bind fun _ => Keeps.ite ?_ (keeps_pure _)
  exact keeps_readPowerControlLocked P fun _ he => he

theorem keeps_hwpReadback : Keeps (Frame HWPDetection Reads) (hwpReadback P) := by
  refine keeps_getHWP.bind fun _ => Keeps.ite (keeps_pure _) ?_
  exact (keeps_readHWPRequestsLocked P (fun _ he => he) _).bind fun _ => keeps_pure _

theorem keeps_copyCapabilities : Keeps (Frame HWPDetection Reads) (copyCapabilities P) := by
  refine (keeps_detectHWPLocked P).bind fun _ => keeps_getDriver.bind fun d => ?_
  refine (keeps_rdmsrIfSupported P _).bind fun _ => ?_
  refine (keeps_readPowerControlIfSupported P).bind fun _ => keeps_getDriver.bind fun _ => ?_
  exact (keeps_currentPackageRequest P).bind fun _ => keeps_pure _

theorem keeps_copyTelemetry : Keeps (Frame HWPDetection Reads) (copyTelemetry P) := by
  refine keeps_getDriver.bind fun d => Keeps.ite (keeps_pure _) ?_
  refine (keeps_readAbsoluteTime P fun _ he => he).bind fun _ => ?_
  refine (keeps_rdmsr64 P (fun _ he => he) _).bind fun _ => ?_
  exact (keeps_rdmsr64 P (fun _ he => he) _).bind fun _ => keeps_pure _

theorem keeps_copyStatus : Keeps (Frame HWPDetection Reads) (copyStatus P) := by
  refine keeps_getDriver.bind fun d => (keeps_rdmsrIfSupported P _).bind fun _ => Keeps.bind ?_ fun _ => ?_
  · exact (keeps_readPowerControlIfSupported P).bind fun _ => keeps_pure _
  · exact keeps_getDriver.bind fun _ => keeps_pure _

theorem keeps_copyHWPStatus : Keeps (Frame HWPDetection Reads) (copyHWPStatus P) := by
  refine (keeps_detectHWPLocked P).bind fun _ => keeps_getDriver.bind fun d => ?_
  refine (keeps_currentPackageRequest P).bind fun _ => ?_
  exact (keeps_hwpReadback P).bind fun _ => keeps_pure _

end

end TurboMac.Kext
