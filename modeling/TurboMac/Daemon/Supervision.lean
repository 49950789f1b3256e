import TurboMac.Daemon.Limits
import TurboMac.Daemon.Load
import TurboMac.Daemon.ValidationGate

/-! # What becomes of a supervised workload

Every way out of `runLoad` waits for its worker or terminates it. `runValidation`
does so unless its loop ends by the stop flag: then the workload is left running,
with nobody to wait for it.
-/

namespace TurboMac.Daemon

open Kext (U64)

/-- The child has been waited for, or terminated. -/
def Accounted (child : List ChildEvent) : Prop :=
  .terminated ∈ child ∨ ∃ status, .waited (.exited status) ∈ child

/-- A child that has been spawned is accounted for. -/
def Supervised (child : List ChildEvent) : Prop := .spawned ∈ child → Accounted child

theorem Accounted.cons {child : List ChildEvent} (h : Accounted child) (e : ChildEvent) :
    Accounted (e :: child) := by
  obtain h | ⟨status, h⟩ := h
  · exact .inl (List.mem_cons_of_mem e h)
  · exact .inr ⟨status, List.mem_cons_of_mem e h⟩

theorem accounted_terminated (child : List ChildEvent) : Accounted (.terminated :: child) :=
  .inl List.mem_cons_self

theorem accounted_exited (status : Kext.U32) (child : List ChildEvent) :
    Accounted (.waited (.exited status) :: child) :=
  .inr ⟨status, List.mem_cons_self⟩

/-! ## `runLoad` -/

section Load

variable {s s' : LoadState} {e : LoadEnd}

theorem accounted_abort {error : String} (h : s.abort error = (some e, s')) : Accounted s'.child := by
  cases h
  exact accounted_terminated _

theorem accounted_terminate {result : LoadResult} (h : s.terminate result = (some e, s')) :
    Accounted s'.child := by
  cases h
  exact accounted_terminated _

theorem accounted_report {input : LoadInput} (h : s.report input = (some e, s')) :
    Accounted s'.child := by
  unfold LoadState.report at h
  dsimp only at h
  split at h
  · exact accounted_abort h
  · cases hwaited : input.waited with
    | running =>
        rw [hwaited] at h
        cases h
    | interrupted =>
        rw [hwaited] at h
        cases h
    | failed =>
        rw [hwaited] at h
        exact accounted_abort h
    | exited status =>
        rw [hwaited] at h
        cases h
        exact accounted_exited _ _

theorem accounted_hold {request : LoadRequest} {started : ℚ} {input : LoadInput}
    (h : s.hold request started input = (some e, s')) : Accounted s'.child := by
  unfold LoadState.hold at h
  dsimp only at h
  split at h
  · split at h
    · exact accounted_terminate h
    · exact accounted_report h
  · exact accounted_report h

/-- A turn leaves the loop only with the child accounted for. -/
theorem accounted_turn {exp : ℚ → ℚ} {request : LoadRequest} {started : ℚ}
    {priorSMCError priorRAPLError : U64} {input : LoadInput}
    (h : s.turn exp request started priorSMCError priorRAPLError input = (some e, s')) :
    Accounted s'.child := by
  unfold LoadState.turn at h
  dsimp only at h
  split at h
  · exact accounted_abort h
  split at h
  · exact accounted_abort h
  split at h
  · exact accounted_abort h
  split at h
  · exact accounted_abort h
  split at h
  · exact accounted_abort h
  split at h
  · exact accounted_terminate h
  · exact accounted_hold h

theorem accounted_loadLoop {exp : ℚ → ℚ} {request : LoadRequest} {started : ℚ}
    {priorSMCError priorRAPLError : U64} (turns : List LoadInput)
    (h : loadLoop exp request started priorSMCError priorRAPLError turns s = some (e, s')) :
    Accounted s'.child := by
  induction turns generalizing s with
  | nil => cases h
  | cons input turns ih =>
      unfold loadLoop at h
      split at h
      · rename_i hturn
        cases h
        exact accounted_turn hturn
      · exact ih h

theorem child_finish (request : LoadRequest) (r : LoadEnd × LoadState) :
    (LoadState.finish request r).child = r.2.child := by
  obtain ⟨e, s⟩ := r
  unfold LoadState.finish
  cases e with
  | returned result => rfl
  | exited status =>
      dsimp only
      split_ifs <;> rfl

theorem supervised_runLoad {exp : ℚ → ℚ} {d : TurboMacDaemon} {request : LoadRequest}
    {statistics : LoadStatistics} {error : String} {inputs : LoadInputs} {run : LoadRun}
    (h : d.runLoad exp request statistics error inputs = some run) : Supervised run.child := by
  have hnone : ∀ {run' : LoadRun}, run'.child = [] → some run' = some run → Supervised run.child := by
    rintro run' hchild heq
    cases heq
    rw [hchild]
    intro hspawned
    cases hspawned
  unfold TurboMacDaemon.runLoad at h
  dsimp only at h
  split at h
  · exact hnone rfl h
  split at h
  · exact hnone rfl h
  split at h
  · exact hnone rfl h
  split at h
  · exact hnone rfl h
  split at h
  · exact hnone rfl h
  obtain ⟨⟨e, s⟩, hloop, rfl⟩ := Option.map_eq_some_iff.mp h
  rw [child_finish]
  exact fun _ => accounted_loadLoop inputs.turns hloop

end Load

/-! ## `runValidation` with its child

The definitions are those of the run, with what is done about the child beside it.
-/

/-- What a turn does about the child, newest first. -/
def ValidationState.turnChild (exp : ℚ → ℚ) (started : ℚ) (initialSMCError initialRAPLError : U64)
    (s : ValidationState) (input : ValidationInput) : List ChildEvent :=
  let d := s.daemon.tick exp true false input.tick
  let (refreshed, d) :=
    if 1 ≤ input.now - d.lastCPUDieReadTime then
      d.refreshCPUDieTemperature input.cpuDie.toOption input.cpuDieTime
    else (true, d)
  if !refreshed then [.terminated]
  else
    match d.boundaryViolation initialSMCError initialRAPLError (input.now - started) with
    | some _ => [.terminated]
    | none =>
      if decide (5 ≤ input.now - s.lastProgress) && !input.report then [.terminated]
      else
        match input.waited with
        | .failed => [.terminated, .waited .failed]
        | answer => [.waited answer]

def superviseLoop (exp : ℚ → ℚ) (started : ℚ) (initialSMCError initialRAPLError : U64) :
    List ValidationInput → ValidationState → List ChildEvent →
      Option (ValidationState × List ChildEvent)
  | [], _, _ => none
  | input :: inputs, s, child =>
    if input.stopRequested || s.daemon.stopRequested then
      if inputs.isEmpty then some (s, child) else none
    else
      let child := s.turnChild exp started initialSMCError initialRAPLError input ++ child
      let (ended, s) := s.turn exp started initialSMCError initialRAPLError input
      if ended then if inputs.isEmpty then some (s, child) else none
      else superviseLoop exp started initialSMCError initialRAPLError inputs s child

namespace TurboMacDaemon

/-- Before the loop, with a child or without. -/
def refuseWith (d : TurboMacDaemon) (inputs : ValidationInputs) (child : List ChildEvent) :
    Option (ValidationResult × List ChildEvent) :=
  (d.refuse inputs).map fun result => (result, child)

def superviseReady (exp : ℚ → ℚ) (d : TurboMacDaemon) (inputs : ValidationInputs) :
    Option (ValidationResult × List ChildEvent) :=
  let (armed, d) := if d.armed then (true, d) else d.armGovernor exp "Whisper validation" inputs.arm
  if !armed then d.refuseWith inputs []
  else
    let (refreshed, d) := d.refreshCPUDieTemperature inputs.cpuDie.toOption inputs.cpuDieTime
    if !refreshed then
      (d.disarmGovernor "validation temperature read failed" inputs.disarm).2.refuseWith inputs []
    else if !inputs.spawn then
      (d.disarmGovernor "validation spawn failed" inputs.disarm).2.refuseWith inputs []
    else if !d.policy.snapshot.ready || decide (d.policy.snapshot.shedW ≤ 0) then
      -- no `terminateChild` here
      (d.disarmGovernor "validation boundary unavailable" inputs.disarm).2.refuseWith inputs [.spawned]
    else
      (superviseLoop exp inputs.started d.smcErrorSerial d.raplErrorSerial inputs.turns {
        daemon := d
        childStatus := 0
        failed := false
        error := ""
        lastProgress := inputs.started
        trace := [] } [.spawned]).map fun r => (r.1.verdict inputs, r.2)

/-- `runValidation`, and what it does about its child. -/
def supervise (exp : ℚ → ℚ) (d : TurboMacDaemon) (inputs : ValidationInputs) :
    Option (ValidationResult × List ChildEvent) :=
  if d.profile.isNone || !inputs.protectedExecutable then d.refuseWith inputs []
  else
    let (disarmed, d) :=
      if d.armed then d.disarmGovernor "prepare validation" inputs.prepareDisarm else (true, d)
    if !disarmed then d.refuseWith inputs []
    else
      (d.waitForValidTelemetry exp inputs.gateStarted autoArmTelemetrySeconds inputs.gate).bind
        fun (valid, d) => if valid then d.superviseReady exp inputs else d.refuseWith inputs []

end TurboMacDaemon

section Validation

variable {exp : ℚ → ℚ} {d d' : TurboMacDaemon}

theorem superviseLoop_fst {started : ℚ} {initialSMCError initialRAPLError : U64}
    (turns : List ValidationInput) (s : ValidationState) (child : List ChildEvent) :
    (superviseLoop exp started initialSMCError initialRAPLError turns s child).map Prod.fst =
      validationLoop exp started initialSMCError initialRAPLError turns s := by
  induction turns generalizing s child with
  | nil => rfl
  | cons input turns ih =>
      unfold superviseLoop validationLoop
      dsimp only
      split_ifs
      · rfl
      · rfl
      · rfl
      · rfl
      · exact ih _ _

theorem refuseWith_fst (d : TurboMacDaemon) (inputs : ValidationInputs) (child : List ChildEvent) :
    (d.refuseWith inputs child).map Prod.fst = d.refuse inputs := by
  unfold TurboMacDaemon.refuseWith
  rw [Option.map_map]
  exact Option.map_id'

theorem superviseReady_fst (d : TurboMacDaemon) (inputs : ValidationInputs) :
    (d.superviseReady exp inputs).map Prod.fst = d.validateReady exp inputs := by
  unfold TurboMacDaemon.superviseReady TurboMacDaemon.validateReady
  generalize (if d.armed then (true, d) else d.armGovernor exp "Whisper validation" inputs.arm) = x
  rcases x with ⟨armed, d₁⟩
  dsimp only
  generalize d₁.refreshCPUDieTemperature inputs.cpuDie.toOption inputs.cpuDieTime = x
  rcases x with ⟨refreshed, d₂⟩
  dsimp only
  split_ifs
  · exact refuseWith_fst _ _ _
  · exact refuseWith_fst _ _ _
  · exact refuseWith_fst _ _ _
  · exact refuseWith_fst _ _ _
  · rw [Option.map_map, ← superviseLoop_fst inputs.turns _ [.spawned], Option.map_map]
    rfl

/-- The run is that of `runValidation`. -/
theorem supervise_fst (d : TurboMacDaemon) (inputs : ValidationInputs) :
    (d.supervise exp inputs).map Prod.fst = d.runValidation exp inputs := by
  unfold TurboMacDaemon.supervise TurboMacDaemon.runValidation
  generalize (if d.armed then d.disarmGovernor "prepare validation" inputs.prepareDisarm
    else (true, d)) = x
  rcases x with ⟨disarmed, d₁⟩
  dsimp only
  split_ifs
  · exact refuseWith_fst _ _ _
  · exact refuseWith_fst _ _ _
  · rw [Option.map_bind]
    congr 1
    funext ⟨valid, d₂⟩
    cases valid with
    | true => exact superviseReady_fst d₂ inputs
    | false => exact refuseWith_fst _ _ _

theorem accounted_append_iff (events child : List ChildEvent) :
    Accounted (events ++ child) ↔ Accounted events ∨ Accounted child := by
  unfold Accounted
  simp only [List.mem_append, exists_or]
  tauto

/-- A turn that breaks the loop accounts for the child, and another leaves it running. -/
theorem turnChild_spec (started : ℚ) (initialSMCError initialRAPLError : U64) (s : ValidationState)
    (input : ValidationInput) :
    (s.turn exp started initialSMCError initialRAPLError input).1 = true ∧
        Accounted (s.turnChild exp started initialSMCError initialRAPLError input) ∨
      (s.turn exp started initialSMCError initialRAPLError input).1 = false ∧
        ¬ Accounted (s.turnChild exp started initialSMCError initialRAPLError input) := by
  unfold ValidationState.turn ValidationState.turnChild
  dsimp only
  generalize (if 1 ≤ input.now - (s.daemon.tick exp true false input.tick).lastCPUDieReadTime then
    (s.daemon.tick exp true false input.tick).refreshCPUDieTemperature input.cpuDie.toOption
      input.cpuDieTime
    else (true, s.daemon.tick exp true false input.tick)) = x
  rcases x with ⟨refreshed, d₁⟩
  dsimp only
  split
  · exact .inl ⟨rfl, accounted_terminated _⟩
  cases d₁.boundaryViolation initialSMCError initialRAPLError (input.now - started) with
  | some error => exact .inl ⟨rfl, accounted_terminated _⟩
  | none =>
      dsimp only
      split
      · exact .inl ⟨rfl, accounted_terminated _⟩
      cases input.waited with
      | exited status => exact .inl ⟨rfl, accounted_exited _ _⟩
      | failed => exact .inl ⟨rfl, accounted_terminated _⟩
      | running => exact .inr ⟨rfl, by simp [Accounted]⟩
      | interrupted => exact .inr ⟨rfl, by simp [Accounted]⟩

/-- The loop accounts for the child exactly if no turn has found the stop flag set. -/
theorem accounted_superviseLoop_iff {started : ℚ} {initialSMCError initialRAPLError : U64}
    (turns : List ValidationInput) {s s' : ValidationState} {child child' : List ChildEvent}
    (hgo : s.daemon.stopRequested = false) (hchild : ¬ Accounted child)
    (hloop : superviseLoop exp started initialSMCError initialRAPLError turns s child =
      some (s', child')) :
    Accounted child' ↔ ∀ turn ∈ turns, turn.stopRequested = false := by
  induction turns generalizing s child with
  | nil => cases hloop
  | cons turn turns ih =>
      unfold superviseLoop at hloop
      dsimp only at hloop
      rw [hgo, Bool.or_false] at hloop
      cases hflag : turn.stopRequested with
      | true =>
          rw [hflag, if_pos rfl] at hloop
          split at hloop
          · -- a stop ends the loop, and the child is left as it was
            cases hloop
            refine iff_of_false hchild ?_
            intro hall
            rw [hall turn List.mem_cons_self] at hflag
            cases hflag
          · cases hloop
      | false =>
          rw [hflag, if_neg (by simp)] at hloop
          rw [List.forall_mem_cons, and_iff_right hflag]
          rcases @turnChild_spec exp started initialSMCError initialRAPLError s turn with
            ⟨hended, haccounted⟩ | ⟨hended, hrunning⟩
          · rw [hended, if_pos rfl] at hloop
            split at hloop
            · rename_i hlast
              rw [List.isEmpty_iff] at hlast
              cases hloop
              refine iff_of_true ((accounted_append_iff _ _).mpr (.inl haccounted)) ?_
              rw [hlast]
              simp
            · cases hloop
          · rw [hended, if_neg (by simp)] at hloop
            -- the loop goes on, with the governor armed and the child running
            have hgo' : (s.turn exp started initialSMCError initialRAPLError turn).2.daemon.stopRequested =
                false := by
              rcases @turn_spec exp started initialSMCError initialRAPLError s turn with
                ⟨hbreaks, -⟩ | ⟨-, hcontinues⟩
              · rw [hended] at hbreaks
                cases hbreaks
              · exact hcontinues.daemon.stopRequested.trans hgo
            apply ih hgo' _ hloop
            rw [accounted_append_iff, not_or]
            exact ⟨hrunning, hchild⟩

theorem spawned_superviseLoop {started : ℚ} {initialSMCError initialRAPLError : U64}
    (turns : List ValidationInput) {s s' : ValidationState} {child child' : List ChildEvent}
    (hchild : .spawned ∈ child)
    (hloop : superviseLoop exp started initialSMCError initialRAPLError turns s child =
      some (s', child')) : .spawned ∈ child' := by
  induction turns generalizing s child with
  | nil => cases hloop
  | cons turn turns ih =>
      unfold superviseLoop at hloop
      dsimp only at hloop
      split at hloop
      · split at hloop
        · cases hloop
          exact hchild
        · cases hloop
      split at hloop
      · split at hloop
        · cases hloop
          exact List.mem_append_right _ hchild
        · cases hloop
      · exact ih (List.mem_append_right _ hchild) hloop

/-! ## The shed threshold of a ready policy -/

theorem config_evaluate (p : GovernorPolicy) (now : ℚ) : (p.evaluate exp now).config = p.config := by
  by_cases hready : (p.evaluate exp now).snapshot.ready = true
  · rw [GovernorPolicy.evaluate_of_ready hready]
    exact congrArg LimitState.config (GovernorPolicy.limits_unlimited p)
  · exact congrArg LimitState.config (GovernorPolicy.limits_evaluate hready)

/-- A ready evaluation has a capacity, so that it has a threshold. -/
theorem shedW_pos_of_ready {p : GovernorPolicy} (hratio : 0 < p.config.shedRatio) {now : ℚ}
    (hready : (p.evaluate exp now).snapshot.ready = true) :
    0 < (p.evaluate exp now).snapshot.shedW := by
  have hnow := nonneg_of_ready hready
  have hshed : (p.evaluate exp now).snapshot.shedW = (p.refresh now).snapshot.shedW := by
    have hpredict : ((p.refresh now).updateNonCPU exp now).predict.snapshot.shedW =
        (p.refresh now).snapshot.shedW := by
      unfold GovernorPolicy.updateNonCPU
      split <;> rfl
    generalize hq : ((p.refresh now).updateNonCPU exp now).predict = q at hpredict
    have hband := (@GovernorPolicy.sameInput_updateBand now q).shed
    have hlimits := (@GovernorPolicy.same_updateLimits now (q.updateBand now)).2.shed
    rw [GovernorPolicy.evaluate_of_ready hready, GovernorPolicy.unlimited, hq, hlimits, hband, hpredict]
  have hrefresh : (p.refresh now).snapshot.ready = true := by
    rw [← (GovernorPolicy.sameReadiness_evaluate exp p hnow).ready]
    exact hready
  have hcapacity : 0 < (p.refresh now).snapshot.capacityW := by
    unfold GovernorPolicy.refresh at hrefresh
    simp only [Bool.and_eq_true, decide_eq_true_eq] at hrefresh
    exact hrefresh.2
  rw [hshed]
  exact mul_pos hratio hcapacity

/-- The profile and the configuration of the policy are kept, and nothing is armed. -/
structure Steered (d d' : TurboMacDaemon) : Prop where
  profile : d'.profile = d.profile
  config : d'.policy.config = d.policy.config
  armed : d'.armed = true → d.armed = true

instance : IsPreorder TurboMacDaemon Steered where
  refl _ := ⟨rfl, rfl, id⟩
  trans _ _ _ h h' :=
    ⟨h'.profile.trans h.profile, h'.config.trans h.config, fun harmed => h.armed (h'.armed harmed)⟩

theorem steered_command (d : TurboMacDaemon) (e : Event) (success : Bool) :
    Steered d (d.command e success).2 := by
  unfold TurboMacDaemon.command
  split
  · exact ⟨rfl, rfl, id⟩
  · exact refl_of Steered d

theorem steered_raplAccepted (d : TurboMacDaemon) (now : ℚ) (driverState : Kext.U32) :
    Steered d (d.raplAccepted now driverState) := by
  unfold TurboMacDaemon.raplAccepted
  dsimp only
  split
  · exact ⟨rfl, rfl, fun harmed => by cases harmed⟩
  · exact ⟨rfl, rfl, id⟩

theorem steered_sampleRAPL (d : TurboMacDaemon) (now : ℚ) (telemetry : Option Telemetry) :
    Steered d (d.sampleRAPL now telemetry).2 := by
  unfold TurboMacDaemon.sampleRAPL
  dsimp only
  split
  · exact ⟨rfl, rfl, id⟩
  rename_i current _
  generalize d.energyTracker.sample (current.packageEnergyRaw.setWidth 32)
    d.capabilities.raplEnergyExponent now = x
  rcases x with ⟨result, tracker⟩
  dsimp only
  cases hpolicy : d.packagePolicy now result with
  | none => exact ⟨rfl, rfl, id⟩
  | some policy =>
      have hconfig : policy.config = d.policy.config := by
        cases result with
        | invalid => cases hpolicy
        | baseline =>
            cases hpolicy
            rfl
        | valid watts => exact congrArg LimitState.config (limits_updatePackagePower hpolicy).1
      refine trans_of Steered ?_ (steered_raplAccepted _ now current.driverState)
      exact ⟨rfl, hconfig, id⟩

theorem steered_sampleSMC (d : TurboMacDaemon) (now : ℚ) (initial : Bool) (reading : SMCReading) :
    Steered d (d.sampleSMC now initial reading).2 := by
  unfold TurboMacDaemon.sampleSMC
  dsimp only
  split
  · exact ⟨rfl, rfl, id⟩
  · rename_i pdtr acpw policy hsample
    rcases Option.bind_eq_some_iff.1 hsample with ⟨values, _, hsample⟩
    rcases Option.bind_eq_some_iff.1 hsample with ⟨policy', hexec, hsample⟩
    cases hsample
    exact ⟨rfl, congrArg LimitState.config (limits_updateSMC hexec).1, id⟩

theorem steered_sampleTelemetry (d : TurboMacDaemon) (input : TickInput) :
    Steered d (d.sampleTelemetry input) := by
  have hrapl : Steered d
      (if d.nextRAPLTime ≤ input.now then (d.sampleRAPL input.now input.telemetry).2 else d) := by
    split
    · exact steered_sampleRAPL d _ _
    · exact refl_of Steered d
  unfold TurboMacDaemon.sampleTelemetry
  dsimp only
  generalize (if d.nextRAPLTime ≤ input.now then (d.sampleRAPL input.now input.telemetry).2 else d) =
    d₁ at hrapl ⊢
  split
  · exact trans_of Steered hrapl (steered_sampleSMC d₁ _ _ _)
  · exact hrapl

theorem steered_evaluate (d : TurboMacDaemon) (now : ℚ) : Steered d (d.evaluate exp now) :=
  ⟨rfl, config_evaluate d.policy now, id⟩

/-- The gate does not arm. -/
theorem unarmed_gateLook (hunarmed : d.armed = false) (input : GateInput) :
    (d.gateLook exp input).armed = false := by
  have harmed : (d.sampleTelemetry input.tick).armed = false := by
    rw [Bool.eq_false_iff]
    intro h
    rw [(steered_sampleTelemetry d input.tick).armed h] at hunarmed
    cases hunarmed
  unfold TurboMacDaemon.gateLook
  rw [tick_unarmed harmed]
  exact harmed

/-- What every turn of the gate keeps, the gate keeps. -/
theorem gateLoop_keeps {P : TurboMacDaemon → Prop}
    (hlook : ∀ d input, P d → P (d.gateLook exp input))
    (hsince : ∀ d since, P d → P { d with validTelemetrySince := since })
    {started seconds : ℚ} (inputs : List GateInput) {validSince : ℚ} {lastReported : Kext.U32}
    {valid : Bool} (h : P d)
    (hloop : d.gateLoop exp started seconds inputs validSince lastReported = some (valid, d')) :
    P d' := by
  induction inputs generalizing d validSince lastReported with
  | nil => cases hloop
  | cons input inputs ih =>
      have hlooked := hlook d input h
      unfold TurboMacDaemon.gateLoop at hloop
      generalize d.gateLook exp input = d₁ at hlooked hloop
      generalize (if validSince < 0 then input.now else validSince) = validSince' at hloop
      dsimp only at hloop
      split at hloop
      · cases hloop
        exact h
      split at hloop
      · split at hloop
        · cases hloop
          exact hlooked
        split at hloop
        · cases hloop
          exact hsince d₁ validSince' hlooked
        · exact ih hlooked hloop
      · exact ih hlooked hloop

/-- The shed ratio of the policy and of the profile is positive. -/
structure Configured (d : TurboMacDaemon) : Prop where
  profile : ∀ profile ∈ d.profile, 0 < profile.shedRatio
  policy : 0 < d.policy.config.shedRatio

theorem Configured.steered (h : Configured d) (hsteered : Steered d d') : Configured d' :=
  ⟨hsteered.profile ▸ h.profile, hsteered.config ▸ h.policy⟩

theorem Configured.configurePolicy (h : ∀ profile ∈ d.profile, 0 < profile.shedRatio) :
    Configured d.configurePolicy := by
  refine ⟨h, ?_⟩
  show 0 < d.policyConfig.shedRatio
  unfold TurboMacDaemon.policyConfig
  cases hprofile : d.profile with
  | none => norm_num
  | some profile => exact h profile hprofile

theorem Configured.disarmGovernor (h : Configured d) (reason : String) (success : Bool) :
    Configured (d.disarmGovernor reason success).2 := by
  have hdriver : Steered d (if d.driverOpen then d.command .driverDisarm success else (true, d)).2 := by
    split
    · exact steered_command d _ _
    · exact refl_of Steered d
  have hconfigured := Configured.configurePolicy (d := { (if d.driverOpen then
    d.command .driverDisarm success else (true, d)).2 with armed := false, validTelemetrySince := -1 })
    (h.steered hdriver).profile
  exact ⟨hconfigured.profile, hconfigured.policy⟩

theorem Configured.armGovernor (h : Configured d) (reason : String) (answers : ArmAnswers) :
    Configured (d.armGovernor exp reason answers).2 := by
  have hpolicy : (d.armGovernor exp reason answers).2.policy = d.policy.evaluate exp answers.now :=
    (attempt_armEvaluated _ reason answers).2
  have hprofile := (@going_armGovernor exp d reason answers).profile
  refine ⟨hprofile ▸ h.profile, ?_⟩
  rw [hpolicy, config_evaluate]
  exact h.policy

theorem Configured.control (h : Configured d) (applyControl allowAutoArm : Bool) (input : TickInput) :
    Configured (d.control exp applyControl allowAutoArm input) := by
  have hcommand := steered_command d (.driverUpdate (wattsToMW d.policy.snapshot.pl1W)
    (wattsToMW d.policy.snapshot.pl2W)) input.update
  have harm := @Configured.armGovernor exp d h "auto-arm" input.arm
  have happly : Configured (d.applyPolicy d.policy.snapshot input.now input.update).2 := by
    have hsame := h.steered hcommand
    unfold TurboMacDaemon.applyPolicy
    dsimp only
    split
    · exact h
    · split
      · exact hsame
      · exact ⟨hsame.profile, hsame.policy⟩
  unfold TurboMacDaemon.control
  dsimp only
  split
  · split
    · exact h.disarmGovernor _ _
    split
    · split
      · exact ⟨happly.profile, happly.policy⟩
      · exact happly
    · exact h
  · split
    · split
      · exact ⟨harm.profile, harm.policy⟩
      · exact harm
    · exact h

theorem Configured.tick (h : Configured d) (applyControl allowAutoArm : Bool) (input : TickInput) :
    Configured (d.tick exp applyControl allowAutoArm input) := by
  have hsampled := h.steered (steered_sampleTelemetry d input)
  exact (hsampled.steered (steered_evaluate _ input.now)).control applyControl allowAutoArm input

theorem Configured.gateLoop {started seconds : ℚ} (inputs : List GateInput) {validSince : ℚ}
    {lastReported : Kext.U32} {valid : Bool} (h : Configured d)
    (hloop : d.gateLoop exp started seconds inputs validSince lastReported = some (valid, d')) :
    Configured d' := by
  refine gateLoop_keeps ?_ (fun d since h => ⟨h.profile, h.policy⟩) inputs h hloop
  intro d input h
  have hticked := @Configured.tick exp d h false false input.tick
  refine ⟨hticked.profile, ?_⟩
  show 0 < ((d.tick exp false false input.tick).policy.evaluate exp input.now).config.shedRatio
  rw [config_evaluate]
  exact hticked.policy

/-- Every call of the daemon's methods keeps the ratios positive. -/
theorem Call.configured (call : Call) (h : Configured d) (hafter : call.after exp d = some d') :
    Configured d' := by
  cases call with
  | tick applyControl allowAutoArm input =>
      cases hafter
      exact h.tick applyControl allowAutoArm input
  | disarmGovernor reason success =>
      cases hafter
      exact h.disarmGovernor reason success
  | configurePolicy =>
      cases hafter
      exact .configurePolicy h.profile
  | waitForValidTelemetry started seconds inputs =>
      rcases Option.map_eq_some_iff.1 hafter with ⟨⟨valid, d₁⟩, hgate, rfl⟩
      exact h.gateLoop inputs hgate
  | armGovernor reason answers =>
      cases hafter
      exact h.armGovernor reason answers

theorem configured_runCalls (calls : List Call) (h : Configured d)
    (hrun : runCalls exp calls d = some d') : Configured d' := by
  induction calls generalizing d with
  | nil =>
      cases hrun
      exact h
  | cons call calls ih =>
      rw [runCalls, List.foldlM_cons] at hrun
      rcases Option.bind_eq_some_iff.1 hrun with ⟨d₁, hafter, hrun⟩
      exact ih (call.configured h hafter) hrun

/-- A daemon starts with them, whether or not there is a profile. -/
theorem configured_initialized {capabilities : Capabilities} {profile : Option CalibrationProfile}
    {now : ℚ} {reading : SMCReading} (hprofile : ∀ p ∈ profile, p.Validated)
    (h : TurboMacDaemon.initialized capabilities profile now reading = some d) : Configured d := by
  have hratio : ∀ p ∈ profile, 0 < p.shedRatio := by
    intro p hp
    have hguard := (hprofile p hp).guard_ge
    have hshed := (hprofile p hp).guard_lt
    linarith
  unfold TurboMacDaemon.initialized at h
  dsimp only at h
  split at h
  · cases h
  · cases h
    have hconfigured := Configured.configurePolicy (d := { ((TurboMacDaemon.opened capabilities).sampleSMC
      now true reading).2 with profile := profile }) hratio
    exact ⟨hconfigured.profile, hconfigured.policy⟩

/-- What has been armed has a threshold. -/
theorem shedW_pos_of_armed (h : Configured d) {reason : String} {answers : ArmAnswers}
    (harmed : (d.armGovernor exp reason answers).1 = true) :
    (d.armGovernor exp reason answers).2.policy.snapshot.ready = true ∧
      0 < (d.armGovernor exp reason answers).2.policy.snapshot.shedW := by
  have hpolicy : (d.armGovernor exp reason answers).2.policy = d.policy.evaluate exp answers.now :=
    (attempt_armEvaluated _ reason answers).2
  have hready : (d.policy.evaluate exp answers.now).snapshot.ready = true := by
    unfold TurboMacDaemon.armGovernor TurboMacDaemon.armEvaluated at harmed
    dsimp only at harmed
    split at harmed
    · cases harmed
    · rename_i hpermitted
      simp only [Bool.or_eq_true, not_or] at hpermitted
      simpa using hpermitted.1.1.1.2
  rw [hpolicy]
  exact ⟨hready, shedW_pos_of_ready h.policy hready⟩

/-! ## Main results -/

theorem supervised_refuseWith {inputs : ValidationInputs} {r : ValidationResult × List ChildEvent}
    (h : d.refuseWith inputs [] = some r) :
    Supervised r.2 ↔ ∀ turn ∈ inputs.turns, turn.stopRequested = false := by
  unfold TurboMacDaemon.refuseWith TurboMacDaemon.refuse at h
  split at h
  · rename_i hnone
    rw [List.isEmpty_iff] at hnone
    cases h
    refine iff_of_true ?_ ?_
    · intro hspawned
      cases hspawned
    · rw [hnone]
      simp
  · cases h

theorem supervised_superviseReady_iff {inputs : ValidationInputs}
    {r : ValidationResult × List ChildEvent} (hconfigured : Configured d) (hunarmed : d.armed = false)
    (hgo : d.stopRequested = false) (h : d.superviseReady exp inputs = some r) :
    Supervised r.2 ↔ ∀ turn ∈ inputs.turns, turn.stopRequested = false := by
  have hgoing := @going_armGovernor exp d "Whisper validation" inputs.arm
  have hthreshold := @shedW_pos_of_armed exp d hconfigured "Whisper validation" inputs.arm
  unfold TurboMacDaemon.superviseReady at h
  rw [hunarmed, if_neg (by simp)] at h
  generalize d.armGovernor exp "Whisper validation" inputs.arm = x at hgoing hthreshold h
  rcases x with ⟨armed, d₁⟩
  dsimp only at hgoing hthreshold h
  split at h
  · exact supervised_refuseWith h
  rename_i harmed
  have hrefresh := going_refreshCPUDieTemperature d₁ inputs.cpuDie.toOption inputs.cpuDieTime
  have hpolicy : (d₁.refreshCPUDieTemperature inputs.cpuDie.toOption inputs.cpuDieTime).2.policy =
      d₁.policy := by
    unfold TurboMacDaemon.refreshCPUDieTemperature
    split <;> rfl
  generalize d₁.refreshCPUDieTemperature inputs.cpuDie.toOption inputs.cpuDieTime = x
    at hrefresh hpolicy h
  rcases x with ⟨refreshed, d₂⟩
  dsimp only at hrefresh hpolicy h
  split at h
  · exact supervised_refuseWith h
  split at h
  · exact supervised_refuseWith h
  split at h
  · -- the governor has just been armed on a ready policy
    rename_i hboundary
    have hready := hthreshold (by simpa using harmed)
    rw [← hpolicy] at hready
    rw [hready.1] at hboundary
    simp [not_le.mpr hready.2] at hboundary
  · rcases Option.map_eq_some_iff.1 h with ⟨⟨s, child⟩, hloop, rfl⟩
    have hgo' := hrefresh.stopRequested.trans (hgoing.stopRequested.trans hgo)
    have hiff := accounted_superviseLoop_iff inputs.turns hgo' (by simp [Accounted]) hloop
    rw [← hiff]
    constructor
    · intro hsupervised
      exact hsupervised (spawned_superviseLoop inputs.turns List.mem_cons_self hloop)
    · intro haccounted _
      exact haccounted

/-- A validation is supervised exactly if no turn has found the stop flag set. -/
theorem supervised_supervise_iff {inputs : ValidationInputs} {r : ValidationResult × List ChildEvent}
    (hconfigured : Configured d) (h : d.supervise exp inputs = some r) :
    Supervised r.2 ↔ ∀ turn ∈ inputs.turns, turn.stopRequested = false := by
  unfold TurboMacDaemon.supervise at h
  split at h
  · exact supervised_refuseWith h
  have hdisarm : Configured (if d.armed then d.disarmGovernor "prepare validation" inputs.prepareDisarm
      else (true, d)).2 ∧ (if d.armed then d.disarmGovernor "prepare validation" inputs.prepareDisarm
      else (true, d)).2.armed = false := by
    split
    · exact ⟨hconfigured.disarmGovernor _ _, (disarmGovernor_spec d _ _ 0).2.1⟩
    · rename_i hunarmed
      exact ⟨hconfigured, by simpa using hunarmed⟩
  generalize (if d.armed then d.disarmGovernor "prepare validation" inputs.prepareDisarm
    else (true, d)) = x at hdisarm h
  rcases x with ⟨disarmed, d₁⟩
  dsimp only at hdisarm h
  split at h
  · exact supervised_refuseWith h
  rcases Option.bind_eq_some_iff.1 h with ⟨⟨valid, d₂⟩, hgate, hready⟩
  have hconfigured' := hdisarm.1.gateLoop inputs.gate hgate
  have hunarmed : d₂.armed = false :=
    gateLoop_keeps (P := fun d => d.armed = false) (fun d input h => unarmed_gateLook h input)
      (fun d since h => h) inputs.gate hdisarm.2 hgate
  cases valid with
  | false => exact supervised_refuseWith hready
  | true =>
      rcases going_gateLoop inputs.gate hgate with ⟨hgoing, hgo⟩
      exact supervised_superviseReady_iff hconfigured' hunarmed (hgoing.stopRequested.trans hgo) hready

/-- **No workload is orphaned, unless the stop flag ends a validation.** Every way out of
`runLoad` after the spawn accounts for the worker; `runValidation` accounts for the
workload exactly if no test of its loop has found the stop flag set. -/
theorem workloads_supervised (exp : ℚ → ℚ) :
    (∀ (d : TurboMacDaemon) (request : LoadRequest) (statistics : LoadStatistics) (error : String)
      (inputs : LoadInputs) (run : LoadRun),
      d.runLoad exp request statistics error inputs = some run → Supervised run.child) ∧
    ∀ (d : TurboMacDaemon) (inputs : ValidationInputs) (r : ValidationResult × List ChildEvent),
      Configured d → d.supervise exp inputs = some r →
        d.runValidation exp inputs = some r.1 ∧
        (Supervised r.2 ↔ ∀ turn ∈ inputs.turns, turn.stopRequested = false) := by
  refine ⟨fun _ _ _ _ _ _ => supervised_runLoad, ?_⟩
  intro d inputs r hconfigured hrun
  refine ⟨?_, supervised_supervise_iff hconfigured hrun⟩
  rw [← supervise_fst, hrun]
  rfl

end Validation

/-! ## A stop while the workload runs -/

theorem configured_calibratedStart : Configured calibratedStart := by
  refine ⟨?_, ?_⟩
  · intro profile hprofile
    cases hprofile
    decide +kernel
  · decide +kernel

/-- `SIGTERM` between two turns: the loop is left with the workload running, and the profile
is saved as passed. -/
theorem orphaned_workload :
    ∃ r, calibratedStart.supervise sampleExp
        (sampleValidation [sampleTurn false .running, sampleTurn true .running]) = some r ∧
      .spawned ∈ r.2 ∧ ¬ Accounted r.2 := by
  have hrun : ((calibratedStart.supervise sampleExp
      (sampleValidation [sampleTurn false .running, sampleTurn true .running])).any fun r =>
        decide (r.2 = [.waited .running, .spawned])) = true := by decide +kernel
  rw [Option.any_eq_true] at hrun
  rcases hrun with ⟨r, hr, hchild⟩
  rw [decide_eq_true_eq] at hchild
  refine ⟨r, hr, ?_, ?_⟩
  · simp [hchild]
  · simp [hchild, Accounted]

theorem workloads_supervised_sampleTurn : ∃ r, calibratedStart.supervise sampleExp
    (sampleValidation [sampleTurn false (.exited 0)]) = some r ∧ Supervised r.2 := by
  have hrun : (calibratedStart.supervise sampleExp
      (sampleValidation [sampleTurn false (.exited 0)])).isSome = true := by decide +kernel
  rcases Option.isSome_iff_exists.1 hrun with ⟨r, hr⟩
  refine ⟨r, hr, ?_⟩
  apply ((workloads_supervised sampleExp).2 calibratedStart _ r configured_calibratedStart hr).2.2
  decide

end TurboMac.Daemon
