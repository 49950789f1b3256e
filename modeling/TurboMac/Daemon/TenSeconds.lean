import TurboMac.Daemon.Disarm
import TurboMac.Daemon.Gate

/-! # Ten good seconds before an arm

`validTelemetrySince`, wherever it is written, is vouched for by a tick of the log
that found the telemetry valid and that nothing has broken since.
-/

namespace TurboMac.Daemon

open Trace

/-- Ends a time of valid telemetry: a tick that finds it invalid, a reset of the policy,
a disarm, or a driver that has left its armed state. -/
def Event.breaks : Event → Bool
  | .ticked _ ready smcFailures => !ready || smcFailures != 0
  | .policyReset | .governorDisarmed _ | .driverRestoredGuard => true
  | _ => false

/-- A tick by `since` that finds the telemetry valid. -/
def Event.validBy (since : ℚ) : Event → Bool
  | .ticked time ready smcFailures => ready && smcFailures == 0 && decide (time ≤ since)
  | _ => false

/-- A tick by `since` found the telemetry valid, and nothing has ended that since. -/
def Vouched (since : ℚ) (log : List Event) : Prop :=
  Since (fun e => e.validBy since = true) (fun e => e.breaks = false) log

/-- What the daemon keeps. -/
structure Gated (clock : ℚ) (d : TurboMacDaemon) : Prop where
  nonneg : 0 ≤ clock
  tracking : Tracking clock d.policy.evidence
  vouched : 0 ≤ d.validTelemetrySince → Vouched d.validTelemetrySince d.log

/-- Nothing is logged that ends a time of valid telemetry. -/
structure Steady (d d' : TurboMacDaemon) : Prop where
  log : ∃ events, d'.log = events ++ d.log ∧ ∀ e ∈ events, e.breaks = false
  since : d'.validTelemetrySince = d.validTelemetrySince
  armed : d'.armed = true → d.armed = true

theorem Steady.none {d d' : TurboMacDaemon} (hlog : d'.log = d.log)
    (hsince : d'.validTelemetrySince = d.validTelemetrySince)
    (harmed : d'.armed = true → d.armed = true) : Steady d d' :=
  ⟨⟨[], hlog, by simp⟩, hsince, harmed⟩

theorem Steady.event {d d' : TurboMacDaemon} {e : Event} (hlog : d'.log = e :: d.log)
    (he : e.breaks = false) (hsince : d'.validTelemetrySince = d.validTelemetrySince)
    (harmed : d'.armed = true → d.armed = true) : Steady d d' := by
  refine ⟨⟨[e], hlog, ?_⟩, hsince, harmed⟩
  intro e' he'
  rw [List.mem_singleton.1 he']
  exact he

instance : IsPreorder TurboMacDaemon Steady where
  refl d := .none rfl rfl id
  trans d d' d'' h h' := by
    rcases h.log with ⟨events, hlog, hevents⟩
    rcases h'.log with ⟨events', hlog', hevents'⟩
    refine ⟨⟨events' ++ events, ?_, ?_⟩, h'.since.trans h.since, fun ha => h.armed (h'.armed ha)⟩
    · rw [hlog', hlog, List.append_assoc]
    · intro e he
      rcases List.mem_append.1 he with he | he
      · exact hevents' e he
      · exact hevents e he

/-- Or the driver of an armed governor has left its armed state. -/
structure Kept (d d' : TurboMacDaemon) : Prop where
  steady : Steady d d' ∨ d'.validTelemetrySince = -1 ∧ d.armed = true
  armed : d'.armed = true → d.armed = true

section

variable {exp : ℚ → ℚ} {d d' d'' : TurboMacDaemon} {clock now since : ℚ}

theorem Steady.kept (h : Steady d d') : Kept d d' := ⟨.inl h, h.armed⟩

theorem Kept.trans (h : Kept d d') (h' : Kept d' d'') : Kept d d'' := by
  refine ⟨?_, fun ha => h.armed (h'.armed ha)⟩
  rcases h'.steady with hsteady' | hleft
  · rcases h.steady with hsteady | hleft
    · exact .inl (trans_of Steady hsteady hsteady')
    · exact .inr ⟨hsteady'.since.trans hleft.1, hleft.2⟩
  · exact .inr ⟨hleft.1, h.armed hleft.2⟩

theorem Kept.of_disarmed (h : Kept d d') (harmed : d.armed = false) : Steady d d' := by
  rcases h.steady with hsteady | hleft
  · exact hsteady
  · rw [harmed] at hleft
    exact absurd hleft.2 (by simp)

theorem Vouched.steady (hv : Vouched since d.log) (h : Steady d d') : Vouched since d'.log := by
  rcases h.log with ⟨events, hlog, hevents⟩
  rw [hlog]
  exact hv.append hevents

theorem Vouched.later {since' : ℚ} {log : List Event} (h : Vouched since log) (hle : since ≤ since') :
    Vouched since' log := by
  apply h.mono
  intro e he
  unfold Event.validBy at he ⊢
  split at he
  · simp only [Bool.and_eq_true, decide_eq_true_eq] at he ⊢
    exact ⟨he.1, he.2.trans hle⟩
  · cases he

theorem vouched_ticked {log : List Event} (h : now ≤ since) :
    Vouched since (.ticked now true 0 :: log) := by
  apply Since.here
  simpa [Event.validBy] using h

theorem Tracking.wait {e : Evidence} (h : Tracking clock e) (hclock : clock ≤ now) : Tracking now e :=
  ⟨h.input.wait hclock, h.package.wait hclock, h.capacity.wait hclock, h.bounded⟩

/-- A reset of `validTelemetrySince` needs no one to vouch. -/
theorem Gated.unvouched (hnonneg : 0 ≤ clock) (htracking : Tracking clock d.policy.evidence)
    (hsince : d.validTelemetrySince = -1) : Gated clock d := by
  refine ⟨hnonneg, htracking, ?_⟩
  intro hpos
  rw [hsince] at hpos
  exact absurd hpos (by norm_num)

theorem Gated.kept (hg : Gated clock d) (h : Kept d d') (hclock : clock ≤ now)
    (htracking : Tracking now d'.policy.evidence) : Gated now d' := by
  rcases h.steady with hsteady | ⟨hsince, _⟩
  · refine ⟨hg.nonneg.trans hclock, htracking, ?_⟩
    rw [hsteady.since]
    intro hpos
    exact (hg.vouched hpos).steady hsteady
  · exact .unvouched (hg.nonneg.trans hclock) htracking hsince

/-! ## Samples -/

theorem kept_raplAccepted (d : TurboMacDaemon) (now : ℚ) (driverState : Kext.U32) :
    Kept d (d.raplAccepted now driverState) := by
  unfold TurboMacDaemon.raplAccepted
  dsimp only
  split
  · rename_i hleft
    rw [Bool.and_eq_true] at hleft
    refine ⟨.inr ⟨rfl, hleft.1⟩, ?_⟩
    intro harmed
    exact absurd harmed (by simp)
  · exact Steady.kept (.none rfl rfl id)

theorem evidence_raplAccepted (d : TurboMacDaemon) (now : ℚ) (driverState : Kext.U32) :
    (d.raplAccepted now driverState).policy.evidence = d.policy.evidence := by
  unfold TurboMacDaemon.raplAccepted
  dsimp only
  split <;> rfl

theorem kept_sampleRAPL (htracking : Tracking clock d.policy.evidence) (hclock : clock ≤ now)
    (telemetry : Option Telemetry) : Kept d (d.sampleRAPL now telemetry).2 ∧
      Tracking now (d.sampleRAPL now telemetry).2.policy.evidence := by
  unfold TurboMacDaemon.sampleRAPL
  dsimp only
  split
  · exact ⟨Steady.kept (.event rfl rfl rfl id), htracking.wait hclock⟩
  rename_i current _
  generalize d.energyTracker.sample (current.packageEnergyRaw.setWidth 32)
    d.capabilities.raplEnergyExponent now = x
  rcases x with ⟨result, tracker⟩
  dsimp only
  cases hpolicy : d.packagePolicy now result with
  | none => exact ⟨Steady.kept (.event rfl rfl rfl id), htracking.wait hclock⟩
  | some policy =>
      dsimp only
      rw [evidence_raplAccepted]
      cases result with
      | invalid => cases hpolicy
      | baseline =>
          cases hpolicy
          refine ⟨?_, htracking.wait hclock⟩
          refine Kept.trans ?_ (kept_raplAccepted _ _ _)
          exact Steady.kept (.none rfl rfl id)
      | valid watts =>
          refine ⟨?_, (GovernorPolicy.tracking_updatePackagePower htracking hclock hpolicy).1⟩
          refine Kept.trans ?_ (kept_raplAccepted _ _ _)
          exact Steady.kept (.event rfl rfl rfl id)

theorem steady_sampleSMC (htracking : Tracking clock d.policy.evidence) (hclock : clock ≤ now)
    (initial : Bool) (reading : SMCReading) : Steady d (d.sampleSMC now initial reading).2 ∧
      Tracking now (d.sampleSMC now initial reading).2.policy.evidence := by
  unfold TurboMacDaemon.sampleSMC
  dsimp only
  split
  · exact ⟨.event rfl rfl rfl id, htracking.wait hclock⟩
  · rename_i pdtr acpw policy hsample
    rcases Option.bind_eq_some_iff.1 hsample with ⟨values, _, hsample⟩
    rcases Option.bind_eq_some_iff.1 hsample with ⟨policy', hexec, hsample⟩
    cases hsample
    exact ⟨.event rfl rfl rfl id, (GovernorPolicy.tracking_updateSMC htracking hclock hexec).1⟩

theorem kept_sampleTelemetry (htracking : Tracking clock d.policy.evidence) {input : TickInput}
    (hclock : clock ≤ input.now) : Kept d (d.sampleTelemetry input) ∧
      Tracking input.now (d.sampleTelemetry input).policy.evidence := by
  have hrapl : ∃ d₁, d₁ = (if d.nextRAPLTime ≤ input.now then
        (d.sampleRAPL input.now input.telemetry).2 else d) ∧
      Kept d d₁ ∧ Tracking input.now d₁.policy.evidence := by
    refine ⟨_, rfl, ?_⟩
    split
    · exact kept_sampleRAPL htracking hclock input.telemetry
    · exact ⟨Steady.kept (refl_of Steady d), htracking.wait hclock⟩
  rcases hrapl with ⟨d₁, hd₁, hkept, htracking₁⟩
  unfold TurboMacDaemon.sampleTelemetry
  rw [← hd₁]
  dsimp only
  split
  · have hsmc := steady_sampleSMC htracking₁ (le_refl input.now) false input.smc
    exact ⟨hkept.trans hsmc.1.kept, hsmc.2⟩
  · exact ⟨hkept, htracking₁⟩

/-! ## The evaluation of `tick` -/

/-- A tick that finds the telemetry valid vouches for itself, or carries on. -/
theorem Gated.evaluate (hg : Gated now d) : Gated now (d.evaluate exp now) := by
  have htracking := (GovernorPolicy.tracking_evaluate exp hg.tracking (le_refl now) hg.nonneg).1
  refine ⟨hg.nonneg, htracking, ?_⟩
  unfold TurboMacDaemon.evaluate
  dsimp only
  cases hvalid : (d.policy.evaluate exp now).snapshot.ready && d.smcFailures == 0 with
  | false =>
      rw [if_neg (by simp)]
      intro hpos
      exact absurd hpos (by norm_num)
  | true =>
      rw [Bool.and_eq_true, beq_iff_eq] at hvalid
      rw [if_pos rfl, hvalid.1, hvalid.2]
      intro _
      split
      · exact vouched_ticked (le_refl now)
      · rename_i hstarted
        exact (hg.vouched (not_lt.1 hstarted)).cons rfl

/-- Where a tick leaves the telemetry valid, it has found it so. -/
theorem vouched_now (hsince : 0 ≤ (d.evaluate exp now).validTelemetrySince) :
    Vouched now (d.evaluate exp now).log := by
  unfold TurboMacDaemon.evaluate at hsince ⊢
  dsimp only at hsince ⊢
  split at hsince
  · rename_i hvalid
    rw [Bool.and_eq_true, beq_iff_eq] at hvalid
    rw [hvalid.1, hvalid.2]
    exact vouched_ticked (le_refl now)
  · exact absurd hsince (by norm_num)

/-! ## Control -/

theorem steady_command (d : TurboMacDaemon) {e : Event} (he : e.breaks = false) (success : Bool) :
    Steady d (d.command e success).2 := by
  unfold TurboMacDaemon.command
  split
  · exact .event rfl he rfl id
  · exact refl_of Steady d

theorem policy_command (d : TurboMacDaemon) (e : Event) (success : Bool) :
    (d.command e success).2.policy = d.policy := by
  unfold TurboMacDaemon.command
  split <;> rfl

theorem steady_applyPolicy (d : TurboMacDaemon) (snapshot : PolicySnapshot) (now : ℚ) (success : Bool) :
    Steady d (d.applyPolicy snapshot now success).2 ∧
      (d.applyPolicy snapshot now success).2.policy = d.policy := by
  unfold TurboMacDaemon.applyPolicy
  dsimp only
  split
  · exact ⟨refl_of Steady d, rfl⟩
  have hcommand := @steady_command d (.driverUpdate (wattsToMW snapshot.pl1W) (wattsToMW snapshot.pl2W))
    rfl success
  have hpolicy := policy_command d (.driverUpdate (wattsToMW snapshot.pl1W) (wattsToMW snapshot.pl2W))
    success
  split
  · exact ⟨hcommand, hpolicy⟩
  · refine ⟨trans_of Steady hcommand ?_, hpolicy⟩
    exact .none rfl rfl id

theorem disarmGovernor_spec (d : TurboMacDaemon) (reason : String) (success : Bool) (clock : ℚ) :
    (d.disarmGovernor reason success).2.validTelemetrySince = -1 ∧
      (d.disarmGovernor reason success).2.armed = false ∧
      Tracking clock (d.disarmGovernor reason success).2.policy.evidence := by
  unfold TurboMacDaemon.disarmGovernor
  exact ⟨rfl, rfl, tracking_reset _ clock⟩

/-- An attempt to arm logs nothing that ends a time of valid telemetry, and succeeds only
after ten seconds of it. -/
structure Attempt (d : TurboMacDaemon) (now : ℚ) (result : Bool × TurboMacDaemon) : Prop where
  log : ∃ events, result.2.log = events ++ d.log ∧ ∀ e ∈ events, e.breaks = false
  since : result.2.validTelemetrySince = d.validTelemetrySince
  refused : result.1 = false → result.2.armed = d.armed
  armed : result.1 = true → 0 ≤ d.validTelemetrySince ∧
    autoArmTelemetrySeconds ≤ now - d.validTelemetrySince

theorem Attempt.nothing (d : TurboMacDaemon) (now : ℚ) : Attempt d now (false, d) := by
  constructor
  · exact ⟨[], rfl, by simp⟩
  · rfl
  · intro _
    rfl
  · intro h
    cases h

theorem armed_command (d : TurboMacDaemon) (e : Event) (success : Bool) :
    (d.command e success).2.armed = d.armed := by
  unfold TurboMacDaemon.command
  split <;> rfl

theorem attempt_armEvaluated (d : TurboMacDaemon) (reason : String) (answers : ArmAnswers) :
    Attempt d answers.now (d.armEvaluated reason answers) ∧
      (d.armEvaluated reason answers).2.policy = d.policy := by
  unfold TurboMacDaemon.armEvaluated
  dsimp only
  split
  · exact ⟨.nothing d _, rfl⟩
  rename_i hpermitted
  simp only [Bool.or_eq_true, decide_eq_true_eq, not_or, not_lt] at hpermitted
  rcases hpermitted with ⟨⟨⟨_, hstarted⟩, hlong⟩, _⟩
  split
  · exact ⟨.nothing d _, rfl⟩
  rename_i hwpMode _
  generalize harm : Event.driverArm (wattsToMW d.policy.snapshot.pl1W)
    (wattsToMW d.policy.snapshot.pl2W) hwpMode = arm
  have hcommand := @steady_command d arm (by rw [← harm]; rfl) answers.arm
  have hpolicy := policy_command d arm answers.arm
  have harmed := armed_command d arm answers.arm
  generalize d.command arm answers.arm = x at hcommand hpolicy harmed ⊢
  rcases x with ⟨success, d₁⟩
  dsimp only at hcommand hpolicy harmed ⊢
  split
  · exact ⟨⟨hcommand.log, hcommand.since, fun _ => harmed, by simp⟩, hpolicy⟩
  split
  · -- the readback is wrong, and the driver is told to disarm
    have hdisarm := trans_of Steady hcommand (@steady_command d₁ .driverDisarm rfl answers.disarm)
    refine ⟨⟨hdisarm.log, hdisarm.since, ?_, by simp⟩, (policy_command d₁ _ _).trans hpolicy⟩
    intro _
    exact (armed_command d₁ _ _).trans harmed
  · refine ⟨⟨?_, hcommand.since, by simp, fun _ => ⟨hstarted, hlong⟩⟩, hpolicy⟩
    rcases hcommand.log with ⟨events, hlog, hevents⟩
    refine ⟨.governorArmed reason :: events, congrArg (List.cons _) hlog, ?_⟩
    intro e he
    rcases List.mem_cons.1 he with rfl | he
    · rfl
    · exact hevents e he

theorem attempt_armGovernor (d : TurboMacDaemon) (reason : String) (answers : ArmAnswers) :
    Attempt d answers.now (d.armGovernor exp reason answers) ∧
      (d.armGovernor exp reason answers).2.policy = d.policy.evaluate exp answers.now := by
  have h := attempt_armEvaluated { d with policy := d.policy.evaluate exp answers.now } reason answers
  exact ⟨⟨h.1.log, h.1.since, h.1.refused, h.1.armed⟩, h.2⟩

theorem Attempt.vouched {result : Bool × TurboMacDaemon} (h : Attempt d now result)
    (hv : Vouched since d.log) : Vouched since result.2.log := by
  rcases h.log with ⟨events, hlog, hevents⟩
  rw [hlog]
  exact hv.append hevents

/-- An arm that succeeds does so ten seconds after a tick that nothing has broken since. -/
theorem Attempt.tenSeconds {result : Bool × TurboMacDaemon} (h : Attempt d now result)
    (hg : Gated clock d) (hsuccess : result.1 = true) :
    Vouched (now - autoArmTelemetrySeconds) d.log := by
  rcases h.armed hsuccess with ⟨hstarted, hlong⟩
  apply (hg.vouched hstarted).later
  linarith

theorem Gated.armGovernor (hg : Gated clock d) {answers : ArmAnswers} (hclock : clock ≤ answers.now)
    (reason : String) : Gated answers.now (d.armGovernor exp reason answers).2 := by
  have hattempt := @attempt_armGovernor exp d reason answers
  have hnow := hg.nonneg.trans hclock
  refine ⟨hnow, ?_, ?_⟩
  · rw [hattempt.2]
    exact (GovernorPolicy.tracking_evaluate exp hg.tracking hclock hnow).1
  · rw [hattempt.1.since]
    intro hpos
    exact hattempt.1.vouched (hg.vouched hpos)

theorem Gated.disarmGovernor (hg : Gated clock d) (reason : String) (success : Bool) :
    Gated clock (d.disarmGovernor reason success).2 := by
  have h := disarmGovernor_spec d reason success clock
  exact .unvouched hg.nonneg h.2.2 h.1

theorem Gated.wait (hg : Gated clock d) (hclock : clock ≤ now) : Gated now d :=
  ⟨hg.nonneg.trans hclock, hg.tracking.wait hclock, hg.vouched⟩

/-- Every branch of `tick`, past the evaluation. -/
theorem Gated.control (hg : Gated now d) (hnow : 0 ≤ d.validTelemetrySince → Vouched now d.log)
    {input : TickInput} (hinput : input.now = now) (harm : now ≤ input.arm.now)
    (applyControl allowAutoArm : Bool) :
    Gated input.arm.now (d.control exp applyControl allowAutoArm input) := by
  unfold TurboMacDaemon.control
  dsimp only
  split
  · split
    · exact (hg.disarmGovernor _ _).wait harm
    · split
      · have happly := steady_applyPolicy d d.policy.snapshot input.now input.update
        have htracking : Tracking input.arm.now
            (d.applyPolicy d.policy.snapshot input.now input.update).2.policy.evidence := by
          rw [happly.2]
          exact hg.tracking.wait harm
        split
        · refine hg.kept (Steady.kept (trans_of Steady happly.1 ?_)) harm htracking
          exact .event rfl rfl rfl (fun h => by cases h)
        · exact hg.kept happly.1.kept harm htracking
      · exact hg.wait harm
  · split
    · rename_i hauto
      have hattempt := @attempt_armGovernor exp d "auto-arm" input.arm
      have hgated := @Gated.armGovernor exp _ _ hg _ harm "auto-arm"
      split
      · -- refused: the ten seconds start again with this tick
        refine ⟨hgated.nonneg, hgated.tracking, ?_⟩
        intro _
        have hstarted : 0 ≤ d.validTelemetrySince := by
          unfold TurboMacDaemon.autoArms at hauto
          simp only [Bool.and_eq_true, decide_eq_true_eq] at hauto
          exact hauto.2.1
        have hvouched := hattempt.1.vouched (hnow hstarted)
        rw [← hinput] at hvouched
        exact hvouched.cons rfl
      · exact hgated
    · exact hg.wait harm

theorem Gated.sampled (hg : Gated clock d) {input : TickInput} (hclock : clock ≤ input.now) :
    Gated input.now ((d.sampleTelemetry input).evaluate exp input.now) := by
  have hsample := kept_sampleTelemetry hg.tracking hclock
  exact (hg.kept hsample.1 hclock hsample.2).evaluate

theorem Gated.tick (hg : Gated clock d) {input : TickInput} (hclock : clock ≤ input.now)
    (harm : input.now ≤ input.arm.now) (applyControl allowAutoArm : Bool) :
    Gated input.arm.now (d.tick exp applyControl allowAutoArm input) := by
  unfold TurboMacDaemon.tick
  exact (hg.sampled hclock).control vouched_now rfl harm applyControl allowAutoArm

/-! ## The gate -/

/-- What is ready now has been ready since the newest samples. -/
theorem ready_of_later (htracking : Tracking clock d.policy.evidence) (hclock : clock ≤ now)
    (hnonneg : 0 ≤ clock) {later : ℚ} (hlater : now ≤ later)
    (hready : ((d.policy.evaluate exp now).evaluate exp later).snapshot.ready = true) :
    (d.policy.evaluate exp now).snapshot.ready = true := by
  have hnow := hnonneg.trans hclock
  rcases GovernorPolicy.tracking_evaluate exp htracking hclock hnow with ⟨htracking', hsmc, hpackage⟩
  rw [GovernorPolicy.evaluate_ready_iff exp htracking' hlater (hnow.trans hlater), hsmc, hpackage]
    at hready
  rw [GovernorPolicy.evaluate_ready_iff exp htracking hclock hnow]
  rcases hready with ⟨⟨hset, hinput⟩, hset', hage⟩
  refine ⟨⟨hset, ?_⟩, hset', ?_⟩
  · linarith
  · linarith

/-- A turn of the gate while the governor is not armed: if it finds the telemetry valid,
its tick has found it so. -/
structure Turn (d : TurboMacDaemon) (input : GateInput) (d' : TurboMacDaemon) : Prop where
  gated : Gated input.now d'
  armed : d'.armed = false
  valid : d'.policy.snapshot.ready = true → d'.smcFailures = 0 →
    Vouched input.now d'.log ∧ ∀ since, Vouched since d.log → Vouched since d'.log

theorem tick_unarmed {input : TickInput} (harmed : (d.sampleTelemetry input).armed = false) :
    d.tick exp false false input = (d.sampleTelemetry input).evaluate exp input.now := by
  have harmed' : ((d.sampleTelemetry input).evaluate exp input.now).armed = false := harmed
  unfold TurboMacDaemon.tick TurboMacDaemon.control
  dsimp only
  rw [if_neg (by simp [harmed']), if_neg (by simp [TurboMacDaemon.autoArms])]

theorem turn_gateLook (hg : Gated clock d) (harmed : d.armed = false) {input : GateInput}
    (htick : clock ≤ input.tick.now) (hnow : input.tick.now ≤ input.now) :
    Turn d input (d.gateLook exp input) := by
  have hsample := kept_sampleTelemetry hg.tracking htick
  have hsteady := hsample.1.of_disarmed harmed
  have harmed' : (d.sampleTelemetry input.tick).armed = false := by
    rw [Bool.eq_false_iff]
    intro h
    rw [hsteady.armed h] at harmed
    cases harmed
  have hgated := @Gated.sampled exp _ _ hg _ htick
  unfold TurboMacDaemon.gateLook TurboMacDaemon.evaluatePolicy
  rw [tick_unarmed harmed']
  refine ⟨⟨hgated.nonneg.trans hnow, ?_, hgated.vouched⟩, harmed', ?_⟩
  · exact (GovernorPolicy.tracking_evaluate exp hgated.tracking hnow (hgated.nonneg.trans hnow)).1
  · intro hready hfailures
    have hready' := ready_of_later hsample.2 (le_refl _) hgated.nonneg hnow hready
    have hfailures' : (d.sampleTelemetry input.tick).smcFailures = 0 := hfailures
    unfold TurboMacDaemon.evaluate
    dsimp only
    rw [hready', hfailures']
    constructor
    · exact vouched_ticked hnow
    · intro since hvouched
      exact (hvouched.steady hsteady).cons rfl

/-- The times of the gate's turns, from `clock` on. -/
theorem gate_times {input : GateInput} {inputs : List GateInput} {rest : List ℚ}
    (htimes : (clock :: ((input :: inputs).flatMap GateInput.times ++ rest)).Pairwise (· ≤ ·)) :
    clock ≤ input.tick.now ∧ input.tick.now ≤ input.now ∧
      (input.now :: (inputs.flatMap GateInput.times ++ rest)).Pairwise (· ≤ ·) := by
  rw [List.flatMap_cons] at htimes
  simp only [GateInput.times, List.cons_append, List.nil_append,
    List.pairwise_cons] at htimes
  rcases htimes with ⟨hclock, _, htick, _, hnow, hrest⟩
  refine ⟨?_, ?_, List.pairwise_cons.2 ⟨hnow, hrest⟩⟩
  · exact hclock _ (by simp)
  · exact htick _ (by simp)

/-- The loop of the gate: the local `validSince` is vouched for like the member. -/
theorem Gated.gateLoop {started seconds : ℚ} (inputs : List GateInput) {rest : List ℚ} {validSince : ℚ}
    {lastReported : Kext.U32} (hg : Gated clock d) (harmed : d.armed = false)
    (hlocal : 0 ≤ validSince → Vouched validSince d.log)
    (htimes : (clock :: (inputs.flatMap GateInput.times ++ rest)).Pairwise (· ≤ ·))
    {result : Bool × TurboMacDaemon}
    (hloop : d.gateLoop exp started seconds inputs validSince lastReported = some result) :
    ∃ clock', Gated clock' result.2 ∧ result.2.armed = false ∧ (clock' :: rest).Pairwise (· ≤ ·) := by
  induction inputs generalizing d clock validSince lastReported with
  | nil => cases hloop
  | cons input inputs ih =>
      rcases gate_times htimes with ⟨htick, hnow, htimes'⟩
      have hrest : ∀ {clock'}, (clock' :: ((inputs.flatMap GateInput.times) ++ rest)).Pairwise (· ≤ ·) →
          (clock' :: rest).Pairwise (· ≤ ·) := by
        intro clock' h
        rw [List.pairwise_cons, List.pairwise_append] at h
        exact List.pairwise_cons.2 ⟨fun t ht => h.1 t (List.mem_append_right _ ht), h.2.2.1⟩
      have hturn := @turn_gateLook exp _ _ hg harmed _ htick hnow
      unfold TurboMacDaemon.gateLoop at hloop
      generalize d.gateLook exp input = d' at hturn hloop
      dsimp only at hloop
      split at hloop
      · cases hloop
        refine ⟨clock, hg, harmed, ?_⟩
        rw [List.pairwise_cons] at htimes
        have hrest' := List.pairwise_append.1 htimes.2
        exact List.pairwise_cons.2 ⟨fun t ht => htimes.1 t (List.mem_append_right _ ht), hrest'.2.1⟩
      split at hloop
      · rename_i hvalid
        rw [Bool.and_eq_true, beq_iff_eq] at hvalid
        rcases hturn.valid hvalid.1 hvalid.2 with ⟨hvouched, hcarry⟩
        -- the local time starts with this turn, or carries on
        have hlocal' : Vouched (if validSince < 0 then input.now else validSince) d'.log := by
          split
          · exact hvouched
          · rename_i hstarted
            exact hcarry _ (hlocal (not_lt.1 hstarted))
        generalize (if validSince < 0 then input.now else validSince) = validSince' at hlocal' hloop
        split at hloop
        · cases hloop
          exact ⟨input.now, hturn.gated, hturn.armed, hrest htimes'⟩
        split at hloop
        · cases hloop
          exact ⟨input.now, ⟨hturn.gated.nonneg, hturn.gated.tracking, fun _ => hlocal'⟩, hturn.armed,
            hrest htimes'⟩
        · exact ih hturn.gated hturn.armed (fun _ => hlocal') htimes' hloop
      · refine ih hturn.gated hturn.armed ?_ htimes' hloop
        intro hpos
        exact absurd hpos (by norm_num)

/-! ## Runs -/

def Call.isGate : Call → Bool
  | .waitForValidTelemetry _ _ _ => true
  | _ => false

/-- Every gate of the calls is waited at while the governor is not armed. -/
def GatesDisarmed (exp : ℚ → ℚ) : List Call → TurboMacDaemon → Prop
  | [], _ => True
  | call :: calls, d =>
    (call.isGate = true → d.armed = false) ∧ ∀ d' ∈ call.after exp d, GatesDisarmed exp calls d'

/-- Every call keeps the daemon gated. -/
theorem Call.gated (exp : ℚ → ℚ) (call : Call) {rest : List ℚ} (hg : Gated clock d)
    (hgate : call.isGate = true → d.armed = false)
    (htimes : (clock :: (call.times ++ rest)).Pairwise (· ≤ ·)) (hafter : call.after exp d = some d') :
    ∃ clock', Gated clock' d' ∧ (clock' :: rest).Pairwise (· ≤ ·) := by
  cases call with
  | tick applyControl allowAutoArm input =>
      rcases List.pairwise_cons.1 htimes with ⟨hclock, htimes⟩
      rcases List.pairwise_cons.1 htimes with ⟨hinput, htimes⟩
      cases hafter
      exact ⟨input.arm.now, hg.tick (hclock _ List.mem_cons_self) (hinput _ List.mem_cons_self) _ _,
        htimes⟩
  | disarmGovernor reason success =>
      cases hafter
      exact ⟨clock, hg.disarmGovernor reason success, htimes⟩
  | configurePolicy =>
      cases hafter
      exact ⟨clock, .unvouched hg.nonneg (tracking_reset _ clock) rfl, htimes⟩
  | waitForValidTelemetry started seconds inputs =>
      rcases List.pairwise_cons.1 htimes with ⟨hclock, htimes⟩
      have hwait := hg.wait (hclock started List.mem_cons_self)
      rcases Option.map_eq_some_iff.1 hafter with ⟨result, hloop, rfl⟩
      have hlocal : (0 : ℚ) ≤ -1 → Vouched (-1) d.log := fun h => absurd h (by norm_num)
      rcases hwait.gateLoop inputs (hgate rfl) hlocal htimes hloop with ⟨clock', hg', _, htimes'⟩
      exact ⟨clock', hg', htimes'⟩
  | armGovernor reason answers =>
      rcases List.pairwise_cons.1 htimes with ⟨hclock, htimes⟩
      cases hafter
      exact ⟨answers.now, hg.armGovernor (hclock _ List.mem_cons_self) reason, htimes⟩

theorem gated_runCalls (exp : ℚ → ℚ) (calls : List Call) {rest : List ℚ} (hg : Gated clock d)
    (hgates : GatesDisarmed exp calls d)
    (htimes : (clock :: (calls.flatMap Call.times ++ rest)).Pairwise (· ≤ ·))
    (hrun : runCalls exp calls d = some d') :
    ∃ clock', Gated clock' d' ∧ (clock' :: rest).Pairwise (· ≤ ·) := by
  induction calls generalizing d clock with
  | nil =>
      cases hrun
      exact ⟨clock, hg, htimes⟩
  | cons call calls ih =>
      rw [List.flatMap_cons, List.append_assoc] at htimes
      rw [runCalls, List.foldlM_cons] at hrun
      rcases Option.bind_eq_some_iff.1 hrun with ⟨d₁, hafter, hrun⟩
      rcases call.gated exp hg hgates.1 htimes hafter with ⟨clock₁, hg₁, htimes₁⟩
      exact ih hg₁ (hgates.2 d₁ hafter) htimes₁ hrun

theorem gated_initialized {capabilities : Capabilities} {profile : Option CalibrationProfile}
    {reading : SMCReading} (hnow : 0 ≤ now)
    (h : TurboMacDaemon.initialized capabilities profile now reading = some d) : Gated now d := by
  unfold TurboMacDaemon.initialized at h
  dsimp only at h
  split at h
  · cases h
  · cases h
    exact .unvouched hnow (tracking_reset _ now) rfl

/-- A call that arms does so ten seconds after a tick that nothing has broken since. -/
theorem Call.vouched_arms (exp : ℚ → ℚ) (call : Call) {rest : List ℚ} (hg : Gated clock d)
    (htimes : (clock :: (call.times ++ rest)).Pairwise (· ≤ ·)) {t : ℚ}
    (harms : call.arms exp d = some (d', t)) : Vouched (t - autoArmTelemetrySeconds) d'.log := by
  cases call with
  | tick applyControl allowAutoArm input =>
      have hclock : clock ≤ input.now := (List.pairwise_cons.1 htimes).1 _ List.mem_cons_self
      unfold Call.arms at harms
      dsimp only at harms
      split at harms
      · rename_i hsuccess
        cases harms
        rw [Bool.and_eq_true] at hsuccess
        exact (attempt_armGovernor _ _ _).1.tenSeconds (hg.sampled hclock) hsuccess.2
      · cases harms
  | armGovernor reason answers =>
      unfold Call.arms at harms
      dsimp only at harms
      split at harms
      · rename_i hsuccess
        cases harms
        exact (attempt_armGovernor _ _ _).1.tenSeconds hg hsuccess
      · cases harms
  | disarmGovernor reason success => cases harms
  | configurePolicy => cases harms
  | waitForValidTelemetry started seconds inputs => cases harms

/-- The governor becomes armed only as `arms` says. -/
theorem Call.arms_of_armed (exp : ℚ → ℚ) (call : Call) {rest : List ℚ} (hg : Gated clock d)
    (htimes : (clock :: (call.times ++ rest)).Pairwise (· ≤ ·)) (hafter : call.after exp d = some d')
    (hunarmed : d.armed = false) (harmed : d'.armed = true) : (call.arms exp d).isSome = true := by
  cases call with
  | tick applyControl allowAutoArm input =>
      have hclock : clock ≤ input.now := (List.pairwise_cons.1 htimes).1 _ List.mem_cons_self
      have hkept := (kept_sampleTelemetry hg.tracking hclock).1
      -- neither sampling nor evaluating arms
      have hsampled : ((d.sampleTelemetry input).evaluate exp input.now).armed = false := by
        rw [Bool.eq_false_iff]
        intro h
        rw [hkept.armed h] at hunarmed
        cases hunarmed
      cases hafter
      unfold TurboMacDaemon.tick TurboMacDaemon.control at harmed
      unfold Call.arms
      dsimp only at harmed ⊢
      generalize (d.sampleTelemetry input).evaluate exp input.now = d₁ at hsampled harmed ⊢
      have hattempt := (@attempt_armGovernor exp d₁ "auto-arm" input.arm).1
      rw [hsampled, if_neg (by simp)] at harmed
      rw [hsampled]
      split at harmed
      · rename_i hauto
        rw [hauto]
        cases hresult : (d₁.armGovernor exp "auto-arm" input.arm).1 with
        | true => rfl
        | false =>
            -- an arming that is refused leaves the governor as it is
            have hrefused := hattempt.refused hresult
            rw [hresult, if_pos Bool.not_false] at harmed
            rw [← hrefused] at hsampled
            exact absurd (harmed.symm.trans hsampled) (by simp)
      · rw [hsampled] at harmed
        cases harmed
  | disarmGovernor reason success =>
      cases hafter
      have h := (disarmGovernor_spec d reason success clock).2.1
      rw [h] at harmed
      cases harmed
  | configurePolicy =>
      cases hafter
      exact absurd (harmed.symm.trans hunarmed) (by simp)
  | waitForValidTelemetry started seconds inputs =>
      rcases List.pairwise_cons.1 htimes with ⟨hclock, htimes⟩
      have hwait := hg.wait (hclock started List.mem_cons_self)
      rcases Option.map_eq_some_iff.1 hafter with ⟨result, hloop, rfl⟩
      have hlocal : (0 : ℚ) ≤ -1 → Vouched (-1) d.log := fun h => absurd h (by norm_num)
      rcases hwait.gateLoop inputs hunarmed hlocal htimes hloop with ⟨clock', _, hunarmed', _⟩
      rw [hunarmed'] at harmed
      cases harmed
  | armGovernor reason answers =>
      cases hafter
      unfold Call.arms
      dsimp only
      cases hresult : (d.armGovernor exp reason answers).1 with
      | true => rfl
      | false =>
          rw [(attempt_armGovernor d reason answers).1.refused hresult, hunarmed] at harmed
          cases harmed

/-- **Arming needs ten good seconds.** In every run whose gates are waited at while the
governor is not armed, a call that arms it at `t` finds a tick by `t - 10` that found
the telemetry valid, as has every one since, with no disarm, no reset of the policy
and no driver that has left its armed state. -/
theorem arm_after_ten_seconds (exp : ℚ → ℚ) {capabilities : Capabilities}
    {profile : Option CalibrationProfile} {start : ℚ} {reading : SMCReading} {d₀ : TurboMacDaemon}
    (hstart : 0 ≤ start)
    (hinit : TurboMacDaemon.initialized capabilities profile start reading = some d₀)
    (calls : List Call) (call : Call)
    (htimes : (start :: (calls.flatMap Call.times ++ call.times)).Pairwise (· ≤ ·))
    (hgates : GatesDisarmed exp calls d₀) (hrun : runCalls exp calls d₀ = some d) {t : ℚ}
    (harms : call.arms exp d = some (d', t)) : Vouched (t - autoArmTelemetrySeconds) d'.log := by
  rcases gated_runCalls exp calls (gated_initialized hstart hinit) hgates htimes hrun with
    ⟨clock, hg, hlast⟩
  rw [← List.append_nil call.times] at hlast
  exact call.vouched_arms exp hg hlast harms

end

/-! ## An armed governor at the gate -/

instance (since : ℚ) (log : List Event) : Decidable (Vouched since log) :=
  inferInstanceAs (Decidable (Since _ _ log))

def sampleGate (driverState : Kext.U32) (now : ℚ) : GateInput where
  stopRequested := false
  testTime := now
  tick := sampleTick now driverState sampleReading
  now := now
  report := true

/-- Arms itself at 12 s, and waits at the gate from then on. The driver has left its
armed state at 18 s. -/
def armedGateCalls : List Call :=
  [1, 2, 4, 6, 8, 10, 12].map (fun now => .tick true true (sampleTick now 0 sampleReading)) ++
    [.waitForValidTelemetry 12 10
      ([14, 16].map (sampleGate 1) ++ [18, 20, 22, 24].map (sampleGate 0))]

/-- The gate sets `validTelemetrySince` to a time before the driver left its armed state, so
that the governor is armed again six seconds after that. -/
theorem arm_over_left_driver :
    TurboMacDaemon.initialized sampleCapabilities (some sampleProfile) 0 sampleReading =
        some sampleStart ∧
      ((0 : ℚ) :: (armedGateCalls.flatMap Call.times ++
        (Call.armGovernor "manual arm" (sampleAnswers 24)).times)).Pairwise (· ≤ ·) ∧
      ∃ d, runCalls sampleExp armedGateCalls sampleStart = some d ∧
        ∃ d' t, (Call.armGovernor "manual arm" (sampleAnswers 24)).arms sampleExp d = some (d', t) ∧
          ¬ Vouched (t - autoArmTelemetrySeconds) d'.log := by
  refine ⟨initialized_sampleStart, by decide +kernel, ?_⟩
  have hrun : ((runCalls sampleExp armedGateCalls sampleStart).any fun d =>
      ((Call.armGovernor "manual arm" (sampleAnswers 24)).arms sampleExp d).any fun arm =>
        decide (¬ Vouched (arm.2 - autoArmTelemetrySeconds) arm.1.log)) = true := by decide +kernel
  rw [Option.any_eq_true] at hrun
  rcases hrun with ⟨d, hd, harms⟩
  rw [Option.any_eq_true] at harms
  rcases harms with ⟨⟨d', t⟩, harms, hvouched⟩
  exact ⟨d, hd, d', t, harms, of_decide_eq_true hvouched⟩

/-- The gate from the start on. -/
def gateCalls : List Call :=
  [.waitForValidTelemetry 0 10 ([1, 2, 4, 6, 8, 10, 12].map (sampleGate 0))]

theorem gatesDisarmed_gateCalls : GatesDisarmed sampleExp gateCalls sampleStart := by
  constructor
  · intro _
    decide +kernel
  · intro d' _
    trivial

theorem arm_after_ten_seconds_gateCalls :
    ∃ d, runCalls sampleExp gateCalls sampleStart = some d ∧
      ∃ d', (Call.armGovernor "manual arm" (sampleAnswers 13)).arms sampleExp d = some (d', 13) ∧
        Vouched (13 - autoArmTelemetrySeconds) d'.log := by
  have hrun : ((runCalls sampleExp gateCalls sampleStart).any fun d =>
      ((Call.armGovernor "manual arm" (sampleAnswers 13)).arms sampleExp d).any fun arm =>
        decide (arm.2 = 13)) = true := by decide +kernel
  rw [Option.any_eq_true] at hrun
  rcases hrun with ⟨d, hd, harms⟩
  rw [Option.any_eq_true] at harms
  rcases harms with ⟨⟨d', t⟩, harms, ht⟩
  cases of_decide_eq_true ht
  refine ⟨d, hd, d', harms, ?_⟩
  exact arm_after_ten_seconds sampleExp (le_refl 0) initialized_sampleStart gateCalls _
    (by decide +kernel) gatesDisarmed_gateCalls hd harms

end TurboMac.Daemon
