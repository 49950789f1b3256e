import TurboMac.Daemon.Daemon
import TurboMac.Daemon.Readiness

/-! # When `tick` disarms

What the daemon's log says of its samples, and what it says of them when `tick`
takes the governor down.
-/

namespace TurboMac.Daemon

/-! ## The log -/

/-- The time of the newest accepted SMC sample. -/
def newestSMC : List Event → Option ℚ
  | [] => none
  | .smcSample time true :: _ => some time
  | _ :: log => newestSMC log

/-- The time of the newest accepted package-power sample. -/
def newestPackage : List Event → Option ℚ
  | [] => none
  | .packageSample time :: _ => some time
  | _ :: log => newestPackage log

/-- How many SMC samples in a row have been invalid. -/
def smcMisses : List Event → ℕ
  | [] => 0
  | .smcSample _ true :: _ => 0
  | .smcSample _ false :: log => smcMisses log + 1
  | _ :: log => smcMisses log

def Event.isDisarm : Event → Bool
  | .governorDisarmed _ => true
  | _ => false

/-- How often the governor has been disarmed. -/
def disarms (log : List Event) : ℕ := log.countP Event.isDisarm

/-- Three invalid SMC samples in a row, or a newest sample over two seconds old. -/
def Cause (now : ℚ) (log : List Event) : Prop :=
  3 ≤ smcMisses log ∨ (∃ t ∈ newestSMC log, 2 < now - t) ∨ ∃ t ∈ newestPackage log, 2 < now - t

/-- No cause, but the newest SMC sample is over one second old. -/
def InputGap (now : ℚ) (log : List Event) : Prop :=
  smcMisses log < 3 ∧ (∃ t ∈ newestSMC log, 1 < now - t ∧ now - t ≤ 2) ∧
    ∃ t ∈ newestPackage log, now - t ≤ 2

/-! ## What the daemon keeps -/

/-- The policy has every sample of the log since its reset, and while the governor
is armed it has one of each source. -/
structure Watched (clock : ℚ) (d : TurboMacDaemon) : Prop where
  nonneg : 0 ≤ clock
  tracking : Tracking clock d.policy.evidence
  smc : d.policy.lastSMCTime ≠ unset → newestSMC d.log = some d.policy.lastSMCTime
  package : d.policy.lastPackageTime ≠ unset → newestPackage d.log = some d.policy.lastPackageTime
  armed : d.armed = true → d.policy.lastSMCTime ≠ unset ∧ d.policy.lastPackageTime ≠ unset
  failures : d.smcFailures.toNat ≤ smcMisses d.log

/-- Nothing is sampled, and nothing armed or disarmed. -/
structure Quiet (d d' : TurboMacDaemon) : Prop where
  evidence : d'.policy.evidence = d.policy.evidence
  armed : d'.armed = true → d.armed = true
  failures : d'.smcFailures = d.smcFailures
  newestSMC : newestSMC d'.log = newestSMC d.log
  newestPackage : newestPackage d'.log = newestPackage d.log
  smcMisses : smcMisses d'.log = smcMisses d.log
  disarms : disarms d'.log = disarms d.log

instance : IsPreorder TurboMacDaemon Quiet where
  refl _ := ⟨rfl, id, rfl, rfl, rfl, rfl, rfl⟩
  trans _ _ _ h h' :=
    ⟨h'.evidence.trans h.evidence, fun ha => h.armed (h'.armed ha), h'.failures.trans h.failures,
      h'.newestSMC.trans h.newestSMC, h'.newestPackage.trans h.newestPackage,
      h'.smcMisses.trans h.smcMisses, h'.disarms.trans h.disarms⟩

section

variable {exp : ℚ → ℚ} {d d' : TurboMacDaemon} {clock now : ℚ}

theorem Watched.quiet (hw : Watched clock d) (h : Quiet d d') : Watched clock d' := by
  have hsmc : d'.policy.lastSMCTime = d.policy.lastSMCTime :=
    congrArg Evidence.lastSMCTime h.evidence
  have hpackage : d'.policy.lastPackageTime = d.policy.lastPackageTime :=
    congrArg Evidence.lastPackageTime h.evidence
  refine ⟨hw.nonneg, h.evidence ▸ hw.tracking, ?_, ?_, ?_, ?_⟩
  · rw [hsmc, h.newestSMC]
    exact hw.smc
  · rw [hpackage, h.newestPackage]
    exact hw.package
  · rw [hsmc, hpackage]
    exact fun harmed => hw.armed (h.armed harmed)
  · rw [h.failures, h.smcMisses]
    exact hw.failures

theorem Watched.wait (hw : Watched clock d) (hclock : clock ≤ now) : Watched now d := by
  refine ⟨hw.nonneg.trans hclock, ⟨?_, ?_, ?_, hw.tracking.bounded⟩, hw.smc, hw.package, hw.armed,
    hw.failures⟩
  · exact hw.tracking.input.wait hclock
  · exact hw.tracking.package.wait hclock
  · exact hw.tracking.capacity.wait hclock

/-- The policy evaluates in between. -/
theorem Watched.evaluate (hw : Watched clock d) (hclock : clock ≤ now) :
    Watched now { d with policy := d.policy.evaluate exp now } := by
  obtain ⟨htracking, hsmc, hpackage⟩ :=
    GovernorPolicy.tracking_evaluate exp hw.tracking hclock (hw.nonneg.trans hclock)
  refine ⟨hw.nonneg.trans hclock, htracking, ?_, ?_, ?_, hw.failures⟩
  · dsimp only
    rw [hsmc]
    exact hw.smc
  · dsimp only
    rw [hpackage]
    exact hw.package
  · dsimp only
    rw [hsmc, hpackage]
    exact hw.armed

/-! ## Samples -/

theorem quiet_raplAccepted (d : TurboMacDaemon) (now : ℚ) (driverState : Kext.U32) :
    Quiet d (d.raplAccepted now driverState) := by
  unfold TurboMacDaemon.raplAccepted
  dsimp only
  split
  · exact ⟨rfl, fun h => absurd h (by simp), rfl, rfl, rfl, rfl, rfl⟩
  · exact ⟨rfl, id, rfl, rfl, rfl, rfl, rfl⟩

/-- An accepted package power is the newest. -/
theorem Watched.packageSample (hw : Watched clock d) (hclock : clock ≤ now) {watts : ℚ}
    {policy : GovernorPolicy} (hexec : d.policy.updatePackagePower now watts = some policy) :
    Watched now { d with policy := policy, log := .packageSample now :: d.log } := by
  obtain ⟨htracking, hpackage, hsmc⟩ :=
    GovernorPolicy.tracking_updatePackagePower hw.tracking hclock hexec
  refine ⟨hw.nonneg.trans hclock, htracking, ?_, fun _ => congrArg some hpackage.symm, ?_, hw.failures⟩
  · dsimp only
    rw [hsmc]
    exact hw.smc
  · intro harmed
    refine ⟨?_, ?_⟩
    · dsimp only
      rw [hsmc]
      exact (hw.armed harmed).1
    · dsimp only
      rw [hpackage]
      exact ne_unset (hw.nonneg.trans hclock)

/-- A sample may fail, set a baseline, or be accepted. -/
theorem Watched.sampleRAPL (hw : Watched clock d) (hclock : clock ≤ now)
    (telemetry : Option Telemetry) :
    Watched now (d.sampleRAPL now telemetry).2 ∧
      disarms (d.sampleRAPL now telemetry).2.log = disarms d.log := by
  unfold TurboMacDaemon.sampleRAPL
  dsimp only
  split
  · -- the telemetry cannot be read
    have hquiet : Quiet d { d with
        raplErrorSerial := d.raplErrorSerial + 1
        log := .raplInvalid :: d.log } := ⟨rfl, id, rfl, rfl, rfl, rfl, rfl⟩
    exact ⟨(hw.wait hclock).quiet hquiet, hquiet.disarms⟩
  rename_i current _
  generalize d.energyTracker.sample (current.packageEnergyRaw.setWidth 32)
    d.capabilities.raplEnergyExponent now = x
  obtain ⟨result, tracker⟩ := x
  dsimp only
  have haccepted : ∀ d', Quiet d' (d'.raplAccepted now current.driverState) := fun d' =>
    quiet_raplAccepted d' now current.driverState
  cases hpolicy : d.packagePolicy now result with
  | none =>
      -- the sample is invalid, or the policy refuses it
      have hquiet : Quiet d { d with
          energyTracker := tracker
          telemetry := current
          raplSuccesses := 0
          raplErrorSerial := d.raplErrorSerial + 1
          nextRAPLTime := now + raplFallbackInterval
          log := .raplInvalid :: d.log } := ⟨rfl, id, rfl, rfl, rfl, rfl, rfl⟩
      exact ⟨(hw.wait hclock).quiet hquiet, hquiet.disarms⟩
  | some policy =>
      cases result with
      | invalid => exact absurd hpolicy (by simp [TurboMacDaemon.packagePolicy])
      | baseline =>
          obtain rfl := Option.some.inj hpolicy
          have hquiet : Quiet d { d with energyTracker := tracker, telemetry := current } :=
            ⟨rfl, id, rfl, rfl, rfl, rfl, rfl⟩
          have h := trans_of _ hquiet (haccepted _)
          exact ⟨(hw.wait hclock).quiet h, h.disarms⟩
      | valid watts =>
          -- a valid sample is the only one that reaches the policy
          have hsample := hw.packageSample hclock hpolicy
          set d₁ : TurboMacDaemon := { d with
            policy := policy
            log := .packageSample now :: d.log } with hd₁
          have hquiet : Quiet d₁ { d₁ with energyTracker := tracker, telemetry := current } :=
            ⟨rfl, id, rfl, rfl, rfl, rfl, rfl⟩
          have h := trans_of _ hquiet (haccepted _)
          exact ⟨hsample.quiet h, h.disarms⟩

/-- A sample is accepted, or one more has been invalid. -/
theorem Watched.sampleSMC (hw : Watched clock d) (hclock : clock ≤ now) (initial : Bool)
    (reading : SMCReading) :
    Watched now (d.sampleSMC now initial reading).2 ∧
      disarms (d.sampleSMC now initial reading).2.log = disarms d.log := by
  unfold TurboMacDaemon.sampleSMC
  dsimp only
  split
  · refine ⟨?_, rfl⟩
    have hwait := hw.wait hclock
    refine ⟨hwait.nonneg, hwait.tracking, hwait.smc, hwait.package, hwait.armed, ?_⟩
    -- the counter may wrap, but never runs ahead of the log
    have hle := BitVec.toNat_add d.smcFailures 1
    have hmod := Nat.mod_le (d.smcFailures.toNat + (1 : Kext.U32).toNat) (2 ^ 32)
    have hmisses := hw.failures
    show (d.smcFailures + 1).toNat ≤ smcMisses d.log + 1
    have hone : (1 : Kext.U32).toNat = 1 := rfl
    omega
  · rename_i pdtr acpw policy hsample
    obtain ⟨values, -, hsample⟩ := Option.bind_eq_some_iff.1 hsample
    obtain ⟨policy', hexec, hsample⟩ := Option.bind_eq_some_iff.1 hsample
    obtain ⟨-, hsample⟩ := Prod.mk.inj (Option.some.inj hsample)
    obtain ⟨-, rfl⟩ := Prod.mk.inj hsample
    obtain ⟨htracking, hsmc, hpackage⟩ := GovernorPolicy.tracking_updateSMC hw.tracking hclock hexec
    refine ⟨⟨hw.nonneg.trans hclock, htracking, fun _ => congrArg some hsmc.symm, ?_, ?_, ?_⟩, rfl⟩
    · dsimp only
      rw [hpackage]
      exact hw.package
    · intro harmed
      refine ⟨?_, ?_⟩
      · dsimp only
        rw [hsmc]
        exact ne_unset (hw.nonneg.trans hclock)
      · dsimp only
        rw [hpackage]
        exact (hw.armed harmed).2
    · exact Nat.zero_le _

theorem Watched.sampleTelemetry (hw : Watched clock d) {input : TickInput}
    (hclock : clock ≤ input.now) :
    Watched input.now (d.sampleTelemetry input) ∧
      disarms (d.sampleTelemetry input).log = disarms d.log := by
  have hrapl : ∃ d₁, d₁ = (if d.nextRAPLTime ≤ input.now then
        (d.sampleRAPL input.now input.telemetry).2 else d) ∧
      Watched input.now d₁ ∧ disarms d₁.log = disarms d.log := by
    refine ⟨_, rfl, ?_⟩
    split
    · exact hw.sampleRAPL hclock input.telemetry
    · exact ⟨hw.wait hclock, rfl⟩
  obtain ⟨d₁, hd₁, hw₁, hdisarms⟩ := hrapl
  unfold TurboMacDaemon.sampleTelemetry
  rw [← hd₁]
  dsimp only
  split
  · have hsmc := hw₁.sampleSMC (le_refl input.now) false input.smc
    exact ⟨hsmc.1, hsmc.2.trans hdisarms⟩
  · exact ⟨hw₁, hdisarms⟩

/-! ## Control -/

theorem quiet_command (d : TurboMacDaemon) {e : Event} (success : Bool)
    (he : Quiet d (d.write e)) : Quiet d (d.command e success).2 := by
  unfold TurboMacDaemon.command
  split
  · exact he
  · exact refl_of Quiet d

theorem quiet_applyPolicy (d : TurboMacDaemon) (snapshot : PolicySnapshot) (now : ℚ)
    (success : Bool) : Quiet d (d.applyPolicy snapshot now success).2 := by
  unfold TurboMacDaemon.applyPolicy
  dsimp only
  split
  · exact refl_of Quiet d
  · have hcommand := quiet_command d success
      (⟨rfl, id, rfl, rfl, rfl, rfl, rfl⟩ : Quiet d (d.write
        (.driverUpdate (wattsToMW snapshot.pl1W) (wattsToMW snapshot.pl2W))))
    split
    · exact hcommand
    · exact ⟨hcommand.evidence, hcommand.armed, hcommand.failures, hcommand.newestSMC,
        hcommand.newestPackage, hcommand.smcMisses, hcommand.disarms⟩

/-- A disarm resets the policy. -/
theorem Watched.disarmGovernor (hw : Watched clock d) (reason : String) (success : Bool) :
    Watched clock (d.disarmGovernor reason success).2 ∧
      disarms (d.disarmGovernor reason success).2.log = disarms d.log + 1 := by
  have hdriver : Quiet d (if d.driverOpen then d.command .driverDisarm success else (true, d)).2 := by
    split
    · exact quiet_command d success ⟨rfl, id, rfl, rfl, rfl, rfl, rfl⟩
    · exact refl_of Quiet d
  unfold TurboMacDaemon.disarmGovernor
  generalize (if d.driverOpen then d.command .driverDisarm success else (true, d)) = x at hdriver ⊢
  obtain ⟨success, d₁⟩ := x
  dsimp only at hdriver ⊢
  have hw₁ := hw.quiet hdriver
  refine ⟨⟨hw₁.nonneg, tracking_reset _ clock, ?_, ?_, ?_, hw₁.failures⟩, ?_⟩
  · intro h
    exact absurd rfl h
  · intro h
    exact absurd rfl h
  · intro h
    exact absurd h (by simp [TurboMacDaemon.write, TurboMacDaemon.configurePolicy])
  · rw [← hdriver.disarms]
    exact List.countP_cons_of_pos rfl

/-- Past its evaluation `armGovernor` arms only if the policy is ready. -/
theorem Watched.armEvaluated (hw : Watched clock d)
    (hready : d.policy.snapshot.ready = true →
      d.policy.lastSMCTime ≠ unset ∧ d.policy.lastPackageTime ≠ unset)
    (reason : String) (answers : ArmAnswers) :
    Watched clock (d.armEvaluated reason answers).2 ∧
      disarms (d.armEvaluated reason answers).2.log = disarms d.log := by
  unfold TurboMacDaemon.armEvaluated
  dsimp only
  split
  · exact ⟨hw, rfl⟩
  rename_i hpermitted
  simp only [Bool.or_eq_true, not_or, Bool.not_eq_true', Bool.not_eq_false] at hpermitted
  have hsources := hready hpermitted.1.1.1.2
  split
  · exact ⟨hw, rfl⟩
  rename_i hwpMode _
  have hcommand : Quiet d (d.command (.driverArm (wattsToMW d.policy.snapshot.pl1W)
      (wattsToMW d.policy.snapshot.pl2W) hwpMode) answers.arm).2 :=
    quiet_command d answers.arm ⟨rfl, id, rfl, rfl, rfl, rfl, rfl⟩
  generalize d.command (.driverArm (wattsToMW d.policy.snapshot.pl1W)
    (wattsToMW d.policy.snapshot.pl2W) hwpMode) answers.arm = x at hcommand ⊢
  obtain ⟨success, d₁⟩ := x
  dsimp only at hcommand ⊢
  have hw₁ := hw.quiet hcommand
  split
  · exact ⟨hw₁, hcommand.disarms⟩
  split
  · have hdisarm : Quiet d₁ (d₁.command .driverDisarm answers.disarm).2 :=
      quiet_command d₁ answers.disarm ⟨rfl, id, rfl, rfl, rfl, rfl, rfl⟩
    exact ⟨hw₁.quiet hdisarm, hdisarm.disarms.trans hcommand.disarms⟩
  · refine ⟨⟨hw₁.nonneg, hw₁.tracking, hw₁.smc, hw₁.package, fun _ => ?_, hw₁.failures⟩,
      hcommand.disarms⟩
    have hsmc : d₁.policy.lastSMCTime = d.policy.lastSMCTime :=
      congrArg Evidence.lastSMCTime hcommand.evidence
    have hpackage : d₁.policy.lastPackageTime = d.policy.lastPackageTime :=
      congrArg Evidence.lastPackageTime hcommand.evidence
    exact ⟨fun h => hsources.1 (hsmc.symm.trans h), fun h => hsources.2 (hpackage.symm.trans h)⟩

/-- A ready policy has a sample of each source. -/
theorem Watched.armGovernor (hw : Watched clock d) {answers : ArmAnswers}
    (hclock : clock ≤ answers.now) (reason : String) :
    Watched answers.now (d.armGovernor exp reason answers).2 ∧
      disarms (d.armGovernor exp reason answers).2.log = disarms d.log := by
  refine (hw.evaluate hclock).armEvaluated ?_ reason answers
  intro hready
  have hnow := hw.nonneg.trans hclock
  obtain ⟨⟨hsmc, -⟩, hpackage, -⟩ :=
    (GovernorPolicy.evaluate_ready_iff exp hw.tracking hclock hnow).1 hready
  obtain ⟨-, hsmc', hpackage'⟩ := GovernorPolicy.tracking_evaluate exp hw.tracking hclock hnow
  exact ⟨fun h => hsmc (hsmc'.symm.trans h), fun h => hpackage (hpackage'.symm.trans h)⟩

/-- Past the evaluation `tick` disarms an armed governor after three invalid
samples, or if the policy is not ready, and not otherwise. -/
theorem Watched.control (hw : Watched now d) {input : TickInput} (hinput : now ≤ input.arm.now)
    (applyControl allowAutoArm : Bool) :
    Watched input.arm.now (d.control exp applyControl allowAutoArm input) ∧
      (disarms d.log < disarms (d.control exp applyControl allowAutoArm input).log ↔
        d.armed = true ∧ (3 ≤ d.smcFailures ∨ d.policy.snapshot.ready = false)) := by
  -- what does not disarm leaves the count
  have hcount : ∀ log, ¬ (d.armed = true ∧ (3 ≤ d.smcFailures ∨ d.policy.snapshot.ready = false)) →
      disarms log = disarms d.log → (disarms d.log < disarms log ↔
        d.armed = true ∧ (3 ≤ d.smcFailures ∨ d.policy.snapshot.ready = false)) := by
    intro log hstays hlog
    refine iff_of_false ?_ hstays
    rw [hlog]
    exact Nat.lt_irrefl _
  unfold TurboMacDaemon.control
  dsimp only
  by_cases harmed : d.armed = true
  · rw [if_pos harmed]
    by_cases hdisarm : (decide (3 ≤ d.smcFailures) || !d.policy.snapshot.ready) = true
    · rw [if_pos hdisarm]
      obtain ⟨hw', hdisarms⟩ := hw.disarmGovernor (if 3 ≤ d.smcFailures then
        "three invalid SMC samples" else "telemetry stale over two seconds") input.disarm
      refine ⟨hw'.wait hinput, iff_of_true ?_ ⟨harmed, by simpa using hdisarm⟩⟩
      rw [hdisarms]
      exact Nat.lt_succ_self _
    · rw [if_neg hdisarm]
      have hstays : ¬ (d.armed = true ∧ (3 ≤ d.smcFailures ∨ d.policy.snapshot.ready = false)) := by
        rintro ⟨-, h⟩
        exact hdisarm (by simpa using h)
      have happly := quiet_applyPolicy d d.policy.snapshot input.now input.update
      generalize d.applyPolicy d.policy.snapshot input.now input.update = x at happly ⊢
      obtain ⟨applied, d₁⟩ := x
      dsimp only at happly ⊢
      split
      · split
        · -- the control fails: the driver is closed, not disarmed
          have hclosed : Quiet d₁ { d₁ with
              driverOpen := false
              armed := false
              stopRequested := true
              log := .controlFailure :: d₁.log } :=
            ⟨rfl, fun h => absurd h (by simp), rfl, rfl, rfl, rfl, rfl⟩
          have h := trans_of _ happly hclosed
          exact ⟨(hw.quiet h).wait hinput, hcount _ hstays h.disarms⟩
        · exact ⟨(hw.quiet happly).wait hinput, hcount _ hstays happly.disarms⟩
      · exact ⟨hw.wait hinput, hcount _ hstays rfl⟩
  · rw [if_neg harmed]
    have hstays : ¬ (d.armed = true ∧ (3 ≤ d.smcFailures ∨ d.policy.snapshot.ready = false)) :=
      fun h => harmed h.1
    split
    · obtain ⟨hw', hdisarms⟩ := @Watched.armGovernor exp d now hw input.arm hinput "auto-arm"
      generalize d.armGovernor exp "auto-arm" input.arm = x at hw' hdisarms ⊢
      obtain ⟨success, d₁⟩ := x
      dsimp only at hw' hdisarms ⊢
      split
      · have hrefused : Quiet d₁ { d₁ with
            validTelemetrySince := input.now
            log := .autoArmRefused :: d₁.log } := ⟨rfl, id, rfl, rfl, rfl, rfl, rfl⟩
        exact ⟨hw'.quiet hrefused, hcount _ hstays (hrefused.disarms.trans hdisarms)⟩
      · exact ⟨hw', hcount _ hstays hdisarms⟩
    · exact ⟨hw.wait hinput, hcount _ hstays rfl⟩

/-! ## Runs -/

theorem Watched.tick (hw : Watched clock d) {input : TickInput} (hclock : clock ≤ input.now)
    (hinput : input.now ≤ input.arm.now) (applyControl allowAutoArm : Bool) :
    Watched input.arm.now (d.tick exp applyControl allowAutoArm input) := by
  have hsampled := (hw.sampleTelemetry hclock).1
  have hevaluated : Watched input.now ((d.sampleTelemetry input).evaluate exp input.now) := by
    have h := @Watched.evaluate exp _ input.now input.now hsampled (le_refl _)
    exact ⟨h.nonneg, h.tracking, h.smc, h.package, h.armed, h.failures⟩
  exact (hevaluated.control hinput applyControl allowAutoArm).1

/-- Every call keeps the daemon watched. -/
theorem Op.watched (exp : ℚ → ℚ) (op : Op) {rest : List ℚ} (hw : Watched clock d)
    (htimes : (clock :: (op.times ++ rest)).Pairwise (· ≤ ·)) :
    ∃ clock', Watched clock' (op.after exp d) ∧ (clock' :: rest).Pairwise (· ≤ ·) := by
  cases op with
  | tick applyControl allowAutoArm input =>
      obtain ⟨hclock, htimes⟩ := List.pairwise_cons.1 htimes
      obtain ⟨hinput, htimes⟩ := List.pairwise_cons.1 htimes
      exact ⟨input.arm.now, hw.tick (hclock _ List.mem_cons_self) (hinput _ List.mem_cons_self) _ _,
        htimes⟩
  | armGovernor reason answers =>
      obtain ⟨hclock, htimes⟩ := List.pairwise_cons.1 htimes
      exact ⟨answers.now, (hw.armGovernor (hclock _ List.mem_cons_self) reason).1, htimes⟩
  | disarmGovernor reason success => exact ⟨clock, (hw.disarmGovernor reason success).1, htimes⟩
  | evaluate now =>
      obtain ⟨hclock, htimes⟩ := List.pairwise_cons.1 htimes
      exact ⟨now, hw.evaluate (hclock _ List.mem_cons_self), htimes⟩
  | supervise active =>
      exact ⟨clock, hw.quiet ⟨rfl, id, rfl, rfl, rfl, rfl, rfl⟩, htimes⟩
  | telemetryValid since =>
      exact ⟨clock, hw.quiet ⟨rfl, id, rfl, rfl, rfl, rfl, rfl⟩, htimes⟩

theorem watched_run (exp : ℚ → ℚ) (ops : List Op) {rest : List ℚ} (hw : Watched clock d)
    (htimes : (clock :: (ops.flatMap Op.times ++ rest)).Pairwise (· ≤ ·)) :
    ∃ clock', Watched clock' (run exp ops d) ∧ (clock' :: rest).Pairwise (· ≤ ·) := by
  induction ops generalizing d clock with
  | nil => exact ⟨clock, hw, htimes⟩
  | cons op ops ih =>
      rw [List.flatMap_cons, List.append_assoc] at htimes
      obtain ⟨clock', hw', htimes'⟩ := op.watched exp hw htimes
      exact ih hw' htimes'

/-- A fresh policy has seen nothing. -/
theorem watched_initialized {capabilities : Capabilities} {profile : Option CalibrationProfile}
    {reading : SMCReading} (hnow : 0 ≤ now)
    (h : TurboMacDaemon.initialized capabilities profile now reading = some d) : Watched now d := by
  have hopened : Watched 0 (TurboMacDaemon.opened capabilities) := by
    refine ⟨le_refl 0, tracking_reset _ 0, fun hne => absurd rfl hne, fun hne => absurd rfl hne,
      fun harmed => absurd harmed (by simp [TurboMacDaemon.opened]), Nat.zero_le _⟩
  obtain ⟨hsampled, -⟩ := hopened.sampleSMC hnow true reading
  have harmed : ((TurboMacDaemon.opened capabilities).sampleSMC now true reading).2.armed = false := by
    unfold TurboMacDaemon.sampleSMC
    dsimp only
    split <;> rfl
  unfold TurboMacDaemon.initialized at h
  generalize (TurboMacDaemon.opened capabilities).sampleSMC now true reading = x
    at h hsampled harmed
  obtain ⟨success, d₁⟩ := x
  dsimp only at h hsampled harmed
  split at h
  · exact absurd h (by simp)
  obtain rfl := Option.some.inj h
  refine ⟨hsampled.nonneg, tracking_reset _ now, fun hne => absurd rfl hne,
    fun hne => absurd rfl hne, ?_, hsampled.failures⟩
  intro h
  exact absurd h (by simp [TurboMacDaemon.configurePolicy, harmed])

/-- The samples that `tick` sees when it decides. -/
theorem Watched.cause_iff (hw : Watched now d)
    (hdisarm : d.armed = true ∧ (3 ≤ d.smcFailures ∨
      (d.policy.evaluate exp now).snapshot.ready = false)) :
    Cause now d.log ↔ ¬ InputGap now d.log := by
  obtain ⟨harmed, hreason⟩ := hdisarm
  obtain ⟨hsmc, hpackage⟩ := hw.armed harmed
  have hnewest := hw.smc hsmc
  have hnewestPackage := hw.package hpackage
  have hready := GovernorPolicy.evaluate_ready_iff exp hw.tracking (le_refl now) hw.nonneg
  simp only [Cause, InputGap, hnewest, hnewestPackage, Option.mem_def, Option.some.injEq,
    exists_eq_left']
  constructor
  · rintro (hmisses | hold | hold) ⟨hfew, ⟨-, hage⟩, hagePackage⟩
    · exact absurd hmisses (not_le.2 hfew)
    · exact absurd hold (not_lt.2 hage)
    · exact absurd hold (not_lt.2 hagePackage)
  · intro hgap
    by_contra hcause
    simp only [not_or, not_le, not_lt] at hcause
    obtain ⟨hfew, hage, hagePackage⟩ := hcause
    refine hgap ⟨hfew, ⟨?_, hage⟩, hagePackage⟩
    -- fewer than three misses: the policy was not ready, so that the input is old
    rcases hreason with hthree | hstale
    · have hle : 3 ≤ d.smcFailures.toNat := hthree
      have hmisses := hw.failures
      omega
    · by_contra hyoung
      rw [not_lt] at hyoung
      have hfresh := hready.2 ⟨⟨hsmc, hyoung⟩, hpackage, hagePackage⟩
      exact absurd hfresh (by simp [hstale])

/-- One `tick` of a run. -/
theorem tick_disarms_iff (exp : ℚ → ℚ) {capabilities : Capabilities}
    {profile : Option CalibrationProfile} {start : ℚ} {reading : SMCReading} {d₀ : TurboMacDaemon}
    (hstart : 0 ≤ start)
    (hinit : TurboMacDaemon.initialized capabilities profile start reading = some d₀)
    (ops : List Op) (applyControl allowAutoArm : Bool) (input : TickInput)
    (htimes : (start :: (ops.flatMap Op.times ++ [input.now, input.arm.now])).Pairwise (· ≤ ·)) :
    let d := run exp ops d₀
    let sampled := d.sampleTelemetry input
    (disarms d.log < disarms (d.tick exp applyControl allowAutoArm input).log →
        Cause input.now sampled.log) ↔
      ¬ (sampled.armed = true ∧ InputGap input.now sampled.log) := by
  intro d sampled
  obtain ⟨clock, hw, hlast⟩ := watched_run exp ops (watched_initialized hstart hinit) htimes
  obtain ⟨hclock, hlast⟩ := List.pairwise_cons.1 hlast
  have hnow : clock ≤ input.now := hclock _ List.mem_cons_self
  have hinput : input.now ≤ input.arm.now := (List.pairwise_cons.1 hlast).1 _ List.mem_cons_self
  obtain ⟨hsampled, hdisarms⟩ := hw.sampleTelemetry hnow
  have hevaluated : Watched input.now (sampled.evaluate exp input.now) := by
    have h := @Watched.evaluate exp sampled input.now input.now hsampled (le_refl _)
    exact ⟨h.nonneg, h.tracking, h.smc, h.package, h.armed, h.failures⟩
  -- `control` disarms after three failures, or when the policy is not ready
  have hcontrol : disarms d.log < disarms (d.tick exp applyControl allowAutoArm input).log ↔
      sampled.armed = true ∧ (3 ≤ sampled.smcFailures ∨
        (sampled.policy.evaluate exp input.now).snapshot.ready = false) := by
    have h := (@Watched.control exp _ input.now hevaluated input hinput applyControl allowAutoArm).2
    have hlog : disarms (sampled.evaluate exp input.now).log = disarms d.log := hdisarms
    rw [hlog] at h
    exact h
  rw [hcontrol]
  by_cases hdisarm : sampled.armed = true ∧ (3 ≤ sampled.smcFailures ∨
      (sampled.policy.evaluate exp input.now).snapshot.ready = false)
  · have hcause := @Watched.cause_iff exp sampled input.now hsampled hdisarm
    constructor
    · rintro h ⟨-, hgap⟩
      exact hcause.1 (h hdisarm) hgap
    · intro h _
      exact hcause.2 fun hgap => h ⟨hdisarm.1, hgap⟩
  · -- it stays armed, so the policy is ready and there is no gap
    refine iff_of_true (fun h => absurd h hdisarm) ?_
    rintro ⟨harmed, -, ⟨t, ht, hold, -⟩, -⟩
    apply hdisarm
    refine ⟨harmed, .inr ?_⟩
    obtain ⟨hsmc, -⟩ := hsampled.armed harmed
    rw [hsampled.smc hsmc] at ht
    obtain rfl := Option.some.inj ht
    rw [Bool.eq_false_iff]
    intro hready
    have h := (GovernorPolicy.evaluate_ready_iff exp hsampled.tracking (le_refl _)
      hsampled.nonneg).1 hready
    exact absurd hold (not_lt.2 h.1.2)

/-- In every run, `tick` disarms the governor for cause exactly if it does not find
it armed with the newest SMC sample between one and two seconds old, and no cause.
For the policy alone: with both its newest samples at most two seconds old it is
ready exactly if that of AppleSMC is at most one second old. -/
theorem disarm_for_cause_iff (exp : ℚ → ℚ) :
    (∀ (capabilities : Capabilities) (profile : Option CalibrationProfile) (start : ℚ)
        (reading : SMCReading) (d₀ : TurboMacDaemon), 0 ≤ start →
      TurboMacDaemon.initialized capabilities profile start reading = some d₀ →
      ∀ (ops : List Op) (applyControl allowAutoArm : Bool) (input : TickInput),
      (start :: (ops.flatMap Op.times ++ [input.now, input.arm.now])).Pairwise (· ≤ ·) →
      let d := run exp ops d₀
      let sampled := d.sampleTelemetry input
      (disarms d.log < disarms (d.tick exp applyControl allowAutoArm input).log →
          Cause input.now sampled.log) ↔
        ¬ (sampled.armed = true ∧ InputGap input.now sampled.log)) ∧
    ∀ (config : PolicyConfig) (calls : List PolicyCall) (now : ℚ),
      (0 :: (calls.map PolicyCall.time ++ [now])).Pairwise (· ≤ ·) →
      let fed := feed exp calls ⟨.reset config, none, none⟩
      ∀ t₁ ∈ fed.smc, ∀ t₂ ∈ fed.package, now - t₁ ≤ 2 → now - t₂ ≤ 2 →
        ((fed.policy.evaluate exp now).snapshot.ready = true ↔ now - t₁ ≤ 1) := by
  constructor
  · intro capabilities profile start reading d₀ hstart hinit ops applyControl allowAutoArm input
      htimes
    exact tick_disarms_iff exp hstart hinit ops applyControl allowAutoArm input htimes
  · intro config calls now htimes fed t₁ ht₁ t₂ ht₂ _ hpackage
    exact ready_after_feed exp config calls htimes ht₁ ht₂ hpackage

end

/-! ## A run -/

/-- A limit of 45 W and 60 W, in eighths of a watt. -/
def sampleCapabilities : Capabilities := ⟨capabilityBidirProchotEnabled, 3, 14, 5000, 100000, 0x004281e000dc8168⟩

def sampleProfile : CalibrationProfile where
  calibratedCapacityW := 80
  raplFloorW := 5
  raplCeilingPL1W := 45
  raplCeilingPL2W := 55
  calibrationPointCount := 1
  validationPassed := true
  autoArm := true
  calibratedAt := 1
  validatedAt := 2

/-- 30 W of 80 W. -/
def sampleReading : SMCReading := ⟨some ⟨30, 0⟩, some ⟨80, 0⟩⟩

/-- Everything `armGovernor` asks for, with its request applied. -/
def sampleAnswers (now : ℚ) : ArmAnswers where
  now := now
  capabilities := some sampleCapabilities
  passiveHWP := some ⟨3, 1600, 0x93, 0⟩
  arm := true
  status := some ⟨1, 23288, 23288⟩
  armedHWP := some ⟨3, 1600, 0xe3, 1⟩
  disarm := true

/-- A tick at a package power of 10 W. -/
def sampleTick (now : ℚ) (driverState : Kext.U32) (smc : SMCReading) : TickInput where
  now := now
  telemetry := some ⟨3, 64, BitVec.ofInt 64 ⌊now * 163840⌋, 23288, 23288, driverState⟩
  smc := smc
  update := true
  disarm := true
  arm := sampleAnswers now

/-- Ten seconds of valid telemetry, at the end of which the governor arms itself,
and one sample that AppleSMC does not answer. -/
def sampleRun : List Op :=
  [1, 2, 4, 6, 8, 10, 12].map (fun now => .tick true true (sampleTick now 0 sampleReading)) ++
    [.tick true true (sampleTick (49 / 4) 1 ⟨none, none⟩)]

/-- The daemon of these samples, at 0 s. -/
def sampleStart : TurboMacDaemon :=
  (TurboMacDaemon.initialized sampleCapabilities (some sampleProfile) 0 sampleReading).getD
    (.opened sampleCapabilities)

theorem initialized_sampleStart : TurboMacDaemon.initialized sampleCapabilities
    (some sampleProfile) 0 sampleReading = some sampleStart := by
  have hsome : (TurboMacDaemon.initialized sampleCapabilities (some sampleProfile) 0
      sampleReading).isSome = true := by decide +kernel
  obtain ⟨d, hd⟩ := Option.isSome_iff_exists.1 hsome
  rw [sampleStart, hd, Option.getD_some]

/-- The tick that follows `sampleRun`, at 13.1 s. -/
def lateTick : TickInput := sampleTick (131 / 10) 1 sampleReading

theorem sampleRun_times :
    ((0 : ℚ) :: (sampleRun.flatMap Op.times ++ [lateTick.now, lateTick.arm.now])).Pairwise
      (· ≤ ·) := by
  decide +kernel

/-- The tick at 13.1 s disarms, though the SMC sample of 12 s is 1.1 s old and only
the one of 12.25 s was invalid. -/
theorem disarm_without_cause :
    TurboMacDaemon.initialized sampleCapabilities (some sampleProfile) 0 sampleReading =
        some sampleStart ∧
      ((0 : ℚ) :: (sampleRun.flatMap Op.times ++ [lateTick.now, lateTick.arm.now])).Pairwise
        (· ≤ ·) ∧
      let d := run sampleExp sampleRun sampleStart
      disarms d.log < disarms (d.tick sampleExp true true lateTick).log ∧
        ¬ Cause lateTick.now (d.sampleTelemetry lateTick).log := by
  refine ⟨initialized_sampleStart, sampleRun_times, by decide +kernel, ?_⟩
  have hsmc : newestSMC ((run sampleExp sampleRun sampleStart).sampleTelemetry lateTick).log =
      some 12 := by decide +kernel
  have hpackage : newestPackage
      ((run sampleExp sampleRun sampleStart).sampleTelemetry lateTick).log =
      some (131 / 10) := by decide +kernel
  have hmisses : smcMisses ((run sampleExp sampleRun sampleStart).sampleTelemetry lateTick).log =
      1 := by decide +kernel
  simp only [Cause, hsmc, hpackage, hmisses, Option.mem_def, Option.some.injEq, exists_eq_left']
  decide +kernel

theorem disarm_for_cause_iff_sampleRun :
    let d := run sampleExp sampleRun sampleStart
    let sampled := d.sampleTelemetry lateTick
    ((disarms d.log < disarms (d.tick sampleExp true true lateTick).log →
        Cause lateTick.now sampled.log) ↔
      ¬ (sampled.armed = true ∧ InputGap lateTick.now sampled.log)) ∧
    ((((feed sampleExp [.updateSMC 0 30 80, .updatePackagePower 0 10]
        ⟨.reset {}, none, none⟩).policy.evaluate sampleExp (3 / 2)).snapshot.ready = true) ↔
      (3 / 2 : ℚ) - 0 ≤ 1) := by
  constructor
  · exact (disarm_for_cause_iff sampleExp).1 sampleCapabilities (some sampleProfile) 0 sampleReading
      sampleStart (le_refl 0) initialized_sampleStart sampleRun true true lateTick sampleRun_times
  · exact (disarm_for_cause_iff sampleExp).2 {} [.updateSMC 0 30 80, .updatePackagePower 0 10] (3 / 2)
      (by decide +kernel) 0 (by decide +kernel) 0 (by decide +kernel) (by decide +kernel)
      (by decide +kernel)

end TurboMac.Daemon
