import TurboMac.Daemon.ProfileRoundTrip
import TurboMac.Daemon.TenSeconds
import TurboMac.Daemon.Validation

/-! # What a saved validation has seen

The verdict rests on two variables that look like success before the loop has seen
anything. The loop's own ends leave what they should in them; the end by the stop
flag leaves what they were at the start.
-/

namespace TurboMac.Daemon

/-! ## The profile and the stop flag -/

/-- The profile and the stop flag are as they were. -/
structure Going (d d' : TurboMacDaemon) : Prop where
  profile : d'.profile = d.profile
  stopRequested : d'.stopRequested = d.stopRequested

instance : IsPreorder TurboMacDaemon Going where
  refl _ := ⟨rfl, rfl⟩
  trans _ _ _ h h' := ⟨h'.profile.trans h.profile, h'.stopRequested.trans h.stopRequested⟩

section

variable {exp : ℚ → ℚ} {d d' : TurboMacDaemon}

theorem going_raplAccepted (d : TurboMacDaemon) (now : ℚ) (driverState : Kext.U32) :
    Going d (d.raplAccepted now driverState) := by
  unfold TurboMacDaemon.raplAccepted
  dsimp only
  split
  · exact ⟨rfl, rfl⟩
  · exact ⟨rfl, rfl⟩

theorem going_sampleRAPL (d : TurboMacDaemon) (now : ℚ) (telemetry : Option Telemetry) :
    Going d (d.sampleRAPL now telemetry).2 := by
  unfold TurboMacDaemon.sampleRAPL
  dsimp only
  split
  · exact ⟨rfl, rfl⟩
  · split
    · exact ⟨rfl, rfl⟩
    · refine trans_of Going ?_ (going_raplAccepted _ _ _)
      exact ⟨rfl, rfl⟩

theorem going_sampleSMC (d : TurboMacDaemon) (now : ℚ) (initial : Bool) (reading : SMCReading) :
    Going d (d.sampleSMC now initial reading).2 := by
  unfold TurboMacDaemon.sampleSMC
  dsimp only
  split
  · exact ⟨rfl, rfl⟩
  · exact ⟨rfl, rfl⟩

theorem going_sampleTelemetry (d : TurboMacDaemon) (input : TickInput) :
    Going d (d.sampleTelemetry input) := by
  have hrapl : ∃ d₁, d₁ = (if d.nextRAPLTime ≤ input.now then
      (d.sampleRAPL input.now input.telemetry).2 else d) ∧ Going d d₁ := by
    refine ⟨_, rfl, ?_⟩
    split
    · exact going_sampleRAPL d _ _
    · exact refl_of Going d
  rcases hrapl with ⟨d₁, hd₁, hgoing⟩
  unfold TurboMacDaemon.sampleTelemetry
  rw [← hd₁]
  dsimp only
  split
  · exact trans_of Going hgoing (going_sampleSMC _ _ _ _)
  · exact hgoing

theorem going_command (d : TurboMacDaemon) (e : Event) (success : Bool) :
    Going d (d.command e success).2 := by
  unfold TurboMacDaemon.command
  split
  · exact ⟨rfl, rfl⟩
  · exact refl_of Going d

theorem going_applyPolicy (d : TurboMacDaemon) (snapshot : PolicySnapshot) (now : ℚ)
    (success : Bool) : Going d (d.applyPolicy snapshot now success).2 := by
  have hcommand := going_command d (.driverUpdate (wattsToMW snapshot.pl1W) (wattsToMW snapshot.pl2W))
    success
  unfold TurboMacDaemon.applyPolicy
  dsimp only
  split
  · exact refl_of Going d
  · split
    · exact hcommand
    · exact ⟨hcommand.profile, hcommand.stopRequested⟩

theorem going_disarmGovernor (d : TurboMacDaemon) (reason : String) (success : Bool) :
    Going d (d.disarmGovernor reason success).2 := by
  have hdriver : Going d (if d.driverOpen then d.command .driverDisarm success else (true, d)).2 := by
    split
    · exact going_command d _ _
    · exact refl_of Going d
  unfold TurboMacDaemon.disarmGovernor
  exact ⟨hdriver.profile, hdriver.stopRequested⟩

theorem going_armEvaluated (d : TurboMacDaemon) (reason : String) (answers : ArmAnswers) :
    Going d (d.armEvaluated reason answers).2 := by
  unfold TurboMacDaemon.armEvaluated
  dsimp only
  split
  · exact refl_of Going d
  split
  · exact refl_of Going d
  rename_i hwpMode _
  have hcommand := going_command d (.driverArm (wattsToMW d.policy.snapshot.pl1W)
    (wattsToMW d.policy.snapshot.pl2W) hwpMode) answers.arm
  split
  · exact hcommand
  split
  · exact trans_of Going hcommand (going_command _ _ _)
  · exact ⟨hcommand.profile, hcommand.stopRequested⟩

theorem going_armGovernor (d : TurboMacDaemon) (reason : String) (answers : ArmAnswers) :
    Going d (d.armGovernor exp reason answers).2 := by
  have h := going_armEvaluated { d with policy := d.policy.evaluate exp answers.now } reason answers
  exact ⟨h.profile, h.stopRequested⟩

theorem going_refreshCPUDieTemperature (d : TurboMacDaemon) (temperatureC : Option ℚ) (now : ℚ) :
    Going d (d.refreshCPUDieTemperature temperatureC now).2 := by
  cases temperatureC with
  | none => exact refl_of Going d
  | some temperatureC => exact ⟨rfl, rfl⟩

/-- Only a control failure stops the daemon, and it disarms the governor. -/
theorem going_control (d : TurboMacDaemon) (applyControl allowAutoArm : Bool) (input : TickInput) :
    Going d (d.control exp applyControl allowAutoArm input) ∨
      applyControl = true ∧ (d.control exp applyControl allowAutoArm input).profile = d.profile ∧
        (d.control exp applyControl allowAutoArm input).armed = false := by
  unfold TurboMacDaemon.control
  dsimp only
  split
  · split
    · exact .inl (going_disarmGovernor _ _ _)
    · split
      · rename_i hcontrol
        have happly := going_applyPolicy d d.policy.snapshot input.now input.update
        split
        · exact .inr ⟨hcontrol, happly.profile, rfl⟩
        · exact .inl happly
      · exact .inl (refl_of Going d)
  · split
    · have harm := @going_armGovernor exp d "auto-arm" input.arm
      split
      · exact .inl ⟨harm.profile, harm.stopRequested⟩
      · exact .inl harm
    · exact .inl (refl_of Going d)

theorem going_tick (d : TurboMacDaemon) (applyControl allowAutoArm : Bool) (input : TickInput) :
    Going d (d.tick exp applyControl allowAutoArm input) ∨
      applyControl = true ∧ (d.tick exp applyControl allowAutoArm input).profile = d.profile ∧
        (d.tick exp applyControl allowAutoArm input).armed = false := by
  have hsample := going_sampleTelemetry d input
  have hevaluate : Going d ((d.sampleTelemetry input).evaluate exp input.now) :=
    ⟨hsample.profile, hsample.stopRequested⟩
  unfold TurboMacDaemon.tick
  rcases @going_control exp ((d.sampleTelemetry input).evaluate exp input.now) applyControl
    allowAutoArm input with hgoing | ⟨hcontrol, hprofile, harmed⟩
  · exact .inl (trans_of Going hevaluate hgoing)
  · exact .inr ⟨hcontrol, hprofile.trans hevaluate.profile, harmed⟩

/-- A gate that is passed has found the stop flag unset. -/
theorem going_gateLoop {started seconds : ℚ} (inputs : List GateInput) {validSince : ℚ}
    {lastReported : Kext.U32}
    (hloop : d.gateLoop exp started seconds inputs validSince lastReported = some (true, d')) :
    Going d d' ∧ d.stopRequested = false := by
  induction inputs generalizing d validSince lastReported with
  | nil => cases hloop
  | cons input inputs ih =>
      have hlook : Going d (d.gateLook exp input) := by
        rcases @going_tick exp d false false input.tick with hgoing | ⟨hcontrol, _⟩
        · exact ⟨hgoing.profile, hgoing.stopRequested⟩
        · cases hcontrol
      unfold TurboMacDaemon.gateLoop at hloop
      generalize d.gateLook exp input = d₁ at hlook hloop
      generalize (if validSince < 0 then input.now else validSince) = validSince' at hloop
      dsimp only at hloop
      split at hloop
      · cases hloop
      rename_i hrunning
      simp only [Bool.or_eq_true, not_or, Bool.not_eq_true] at hrunning
      have hgo : ∀ {d₂}, Going d₁ d₂ → Going d d₂ ∧ d.stopRequested = false := by
        intro d₂ h
        exact ⟨trans_of Going hlook h, hrunning.1.2⟩
      split at hloop
      · split at hloop
        · cases hloop
        split at hloop
        · cases hloop
          exact hgo ⟨rfl, rfl⟩
        · exact hgo (ih hloop).1
      · exact hgo (ih hloop).1

/-! ## A turn -/

theorem ite_some_eq_none {c : Prop} [Decidable c] {error : String} {rest : Option String} :
    (if c then some error else rest) = none ↔ ¬ c ∧ rest = none := by
  by_cases hc : c
  · simp [hc]
  · simp [hc]

/-- A turn that finds no violation, with all that it has checked. -/
theorem boundaryViolation_eq_none_iff {initialSMCError initialRAPLError : Kext.U64} {elapsed : ℚ} :
    d.boundaryViolation initialSMCError initialRAPLError elapsed = none ↔
      d.armed = true ∧ d.smcErrorSerial = initialSMCError ∧ d.raplErrorSerial = initialRAPLError ∧
        (d.policy.snapshot.ready = true ∧ 0 < d.policy.snapshot.shedW) ∧
        d.latestInputW < d.policy.snapshot.shedW ∧
        (∃ temperatureC ∈ d.latestCPUDieTemperatureC, temperatureC < maximumCPUTemperatureC) ∧
        elapsed ≤ 600 := by
  unfold TurboMacDaemon.boundaryViolation
  simp only [ite_some_eq_none, Bool.or_eq_true, Bool.not_eq_true', decide_eq_true_eq, not_or,
    Bool.not_eq_false, not_not, not_le, ne_eq]
  cases d.latestCPUDieTemperatureC with
  | none => simp
  | some temperatureC => simp [ite_some_eq_none]

/-- What leaves the loop running. -/
def Observation.running : Observation → Bool
  | .looked none | .waited .running | .waited .interrupted => true
  | _ => false

/-- A boundary violation, or a temperature that cannot be read. -/
def Observation.violates : Observation → Bool
  | .temperatureUnreadable | .looked (some _) => true
  | _ => false

/-- The workload has exited normally with status 0, and nothing before that was a violation. -/
def Passed (trace : List Observation) : Prop :=
  ∃ status rest, trace = .waited (.exited status) :: rest ∧
    wifexited status = true ∧ wexitstatus status = 0 ∧ ∀ o ∈ rest, o.violates = false

/-- A turn that does not break the loop. -/
structure Continues (s s' : ValidationState) : Prop where
  daemon : Going s.daemon s'.daemon
  childStatus : s'.childStatus = s.childStatus
  failed : s'.failed = s.failed
  trace : ∃ events, s'.trace = events ++ s.trace ∧ ∀ o ∈ events, o.running = true

/-- A turn that breaks the loop, by a failure or by the end of the workload. -/
structure Breaks (s s' : ValidationState) : Prop where
  profile : s'.daemon.profile = s.daemon.profile
  failed : s'.failed = true ∨ s'.failed = s.failed ∧
    s'.trace = .waited (.exited s'.childStatus) :: .looked none :: s.trace

/-- A tick of the loop that leaves the governor armed leaves the stop flag as it was. -/
theorem going_refreshed {input : ValidationInput} {refreshed : Bool}
    (h : (if 1 ≤ input.now - (d.tick exp true false input.tick).lastCPUDieReadTime then
        (d.tick exp true false input.tick).refreshCPUDieTemperature input.cpuDie.toOption
          input.cpuDieTime
      else (true, d.tick exp true false input.tick)) = (refreshed, d')) :
    d'.profile = d.profile ∧ (d'.armed = true → Going d d') := by
  have hrefresh : Going (d.tick exp true false input.tick) d' ∧
      d'.armed = (d.tick exp true false input.tick).armed := by
    have hgoing := going_refreshCPUDieTemperature (d.tick exp true false input.tick)
      input.cpuDie.toOption input.cpuDieTime
    split at h
    · rw [h] at hgoing
      refine ⟨hgoing, ?_⟩
      cases hread : input.cpuDie.toOption with
      | none =>
          rw [hread] at h
          cases h
          rfl
      | some temperatureC =>
          rw [hread] at h
          cases h
          rfl
    · cases h
      exact ⟨refl_of Going _, rfl⟩
  rcases @going_tick exp d true false input.tick with hgoing | ⟨_, hprofile, hunarmed⟩
  · have hboth := trans_of Going hgoing hrefresh.1
    exact ⟨hboth.profile, fun _ => hboth⟩
  · refine ⟨hrefresh.1.profile.trans hprofile, ?_⟩
    intro harmed
    rw [hrefresh.2, hunarmed] at harmed
    cases harmed

/-- Every way out of a turn. -/
theorem turn_spec (started : ℚ) (initialSMCError initialRAPLError : Kext.U64) (s : ValidationState)
    (input : ValidationInput) :
    (s.turn exp started initialSMCError initialRAPLError input).1 = true ∧
        Breaks s (s.turn exp started initialSMCError initialRAPLError input).2 ∨
      (s.turn exp started initialSMCError initialRAPLError input).1 = false ∧
        Continues s (s.turn exp started initialSMCError initialRAPLError input).2 := by
  unfold ValidationState.turn
  dsimp only
  generalize hrefreshed : (if 1 ≤ input.now -
      (s.daemon.tick exp true false input.tick).lastCPUDieReadTime then
    (s.daemon.tick exp true false input.tick).refreshCPUDieTemperature input.cpuDie.toOption
      input.cpuDieTime
    else (true, s.daemon.tick exp true false input.tick)) = x
  rcases x with ⟨refreshed, d₁⟩
  rcases going_refreshed hrefreshed with ⟨hprofile, hgoing⟩
  dsimp only
  split
  · exact .inl ⟨rfl, hprofile, .inl rfl⟩
  cases hviolation : d₁.boundaryViolation initialSMCError initialRAPLError (input.now - started) with
  | some error => exact .inl ⟨rfl, hprofile, .inl rfl⟩
  | none =>
      -- no boundary is violated, so the governor is armed
      have harmed := (boundaryViolation_eq_none_iff.1 hviolation).1
      dsimp only
      split
      · exact .inl ⟨rfl, hprofile, .inl rfl⟩
      cases hwaited : input.waited with
      | exited status => exact .inl ⟨rfl, hprofile, .inr ⟨rfl, rfl⟩⟩
      | failed => exact .inl ⟨rfl, hprofile, .inl rfl⟩
      | running =>
          refine .inr ⟨rfl, hgoing harmed, rfl, rfl, [.waited .running, .looked none], rfl, ?_⟩
          decide
      | interrupted =>
          refine .inr ⟨rfl, hgoing harmed, rfl, rfl, [.waited .interrupted, .looked none], rfl, ?_⟩
          decide

/-! ## The loop -/

/-- The loop has been left by the stop flag: its variables are as they were. -/
structure Stopped (s : ValidationState) : Prop where
  failed : s.failed = false
  childStatus : s.childStatus = 0
  trace : ∀ o ∈ s.trace, o.running = true

/-- The loop has ended by itself. -/
def Ended (s : ValidationState) : Prop :=
  s.failed = true ∨ ∃ rest, s.trace = .waited (.exited s.childStatus) :: rest ∧
    ∀ o ∈ rest, o.running = true

/-- The loop is left by the stop flag exactly if a turn has found it set. -/
theorem validationLoop_spec {started : ℚ} {initialSMCError initialRAPLError : Kext.U64}
    (turns : List ValidationInput) {s s' : ValidationState} (hgo : s.daemon.stopRequested = false)
    (hs : Stopped s)
    (hloop : validationLoop exp started initialSMCError initialRAPLError turns s = some s') :
    s'.daemon.profile = s.daemon.profile ∧
      ((∃ turn ∈ turns, turn.stopRequested = true) ∧ Stopped s' ∨
        (∀ turn ∈ turns, turn.stopRequested = false) ∧ Ended s') := by
  induction turns generalizing s with
  | nil => cases hloop
  | cons turn turns ih =>
      unfold validationLoop at hloop
      dsimp only at hloop
      rw [hgo, Bool.or_false] at hloop
      cases hflag : turn.stopRequested with
      | true =>
          rw [hflag, if_pos rfl] at hloop
          split at hloop
          · -- a stop ends the loop, and it is the last turn
            cases hloop
            exact ⟨rfl, .inl ⟨⟨turn, List.mem_cons_self, hflag⟩, hs⟩⟩
          · cases hloop
      | false =>
          rw [hflag, if_neg (by simp)] at hloop
          rcases @turn_spec exp started initialSMCError initialRAPLError s turn with
            ⟨hended, hbreaks⟩ | ⟨hended, hcontinues⟩
          · rw [hended, if_pos rfl] at hloop
            split at hloop
            · -- this turn is the last one
              rename_i hlast
              rw [List.isEmpty_iff] at hlast
              cases hloop
              refine ⟨hbreaks.profile, .inr ⟨?_, ?_⟩⟩
              · rw [hlast]
                simpa using hflag
              · rcases hbreaks.failed with hfailed | ⟨_, htrace⟩
                · exact .inl hfailed
                · refine .inr ⟨_, htrace, ?_⟩
                  intro o ho
                  rcases List.mem_cons.1 ho with rfl | ho
                  · rfl
                  · exact hs.trace o ho
            · cases hloop
          · rw [hended, if_neg (by simp)] at hloop
            -- the loop goes on: nothing has failed yet, and no child has ended
            have hgo' := hcontinues.daemon.stopRequested.trans hgo
            have hs' : Stopped (s.turn exp started initialSMCError initialRAPLError turn).2 := by
              refine ⟨hcontinues.failed.trans hs.failed, hcontinues.childStatus.trans hs.childStatus, ?_⟩
              rcases hcontinues.trace with ⟨events, htrace, hevents⟩
              intro o ho
              rw [htrace] at ho
              rcases List.mem_append.1 ho with ho | ho
              · exact hevents o ho
              · exact hs.trace o ho
            rcases ih hgo' hs' hloop with ⟨hprofile, ⟨⟨turn', hmem, hset⟩, hstopped⟩ | ⟨hall, hend⟩⟩
            · exact ⟨hprofile.trans hcontinues.daemon.profile,
                .inl ⟨⟨turn', List.mem_cons_of_mem _ hmem, hset⟩, hstopped⟩⟩
            · refine ⟨hprofile.trans hcontinues.daemon.profile, .inr ⟨?_, hend⟩⟩
              intro turn' hmem
              rcases List.mem_cons.1 hmem with rfl | hmem
              · exact hflag
              · exact hall turn' hmem

/-- A loop left by the stop flag has not seen the workload's end. -/
theorem not_passed_of_running {trace : List Observation} (h : ∀ o ∈ trace, o.running = true) :
    ¬ Passed trace := by
  rintro ⟨status, rest, rfl, _⟩
  exact absurd (h _ List.mem_cons_self) (by simp [Observation.running])

theorem violates_of_running {o : Observation} (h : o.running = true) : o.violates = false := by
  cases o with
  | temperatureUnreadable => cases h
  | looked violation =>
      cases violation with
      | none => rfl
      | some error => cases h
  | waited answer => rfl

/-! ## The verdict -/

/-- What the verdict needs to save the profile. -/
theorem verdict_passed_iff {s : ValidationState} {inputs : ValidationInputs}
    {profile : CalibrationProfile} (hprofile : s.daemon.profile = some profile) {content : Text} :
    (s.verdict inputs).outcome = .passed content ↔
      (s.failed = false ∧ wifexited s.childStatus = true ∧ wexitstatus s.childStatus = 0) ∧
        ProfileStore.save (profile.passed inputs.time) inputs.filesystem = .ok content := by
  unfold ValidationState.verdict
  dsimp only
  rw [hprofile, Option.getD_some]
  generalize ProfileStore.save (profile.passed inputs.time) inputs.filesystem = saved
  cases hfailed : s.failed with
  | true => simp
  | false =>
      by_cases hexit : wifexited s.childStatus = true ∧ wexitstatus s.childStatus = 0
      · cases saved with
        | error error => simp [hexit.1, hexit.2]
        | ok content' => simp [hexit.1, hexit.2]
      · have hbad : (!wifexited s.childStatus || wexitstatus s.childStatus != 0) = true := by
          by_contra h
          simp only [Bool.or_eq_true, Bool.not_eq_true', bne_iff_ne, ne_eq, not_or, not_not,
            Bool.not_eq_false] at h
          exact hexit h
        simp only [Bool.not_false, Bool.true_and, hbad, if_true]
        refine iff_of_false (by simp) ?_
        rintro ⟨⟨_, hexit'⟩, _⟩
        exact hexit hexit'

theorem verdict_trace (s : ValidationState) (inputs : ValidationInputs) :
    (s.verdict inputs).trace = s.trace := by
  unfold ValidationState.verdict
  dsimp only
  generalize ProfileStore.save _ inputs.filesystem = saved
  generalize (if !s.failed && (!wifexited s.childStatus || wexitstatus s.childStatus != 0) then
    (true, "Whisper validation workload failed") else (s.failed, s.error)) = x
  rcases x with ⟨failed, error⟩
  cases failed with
  | true => rfl
  | false =>
      cases saved with
      | error error => rfl
      | ok content => rfl

/-- A saved profile is one that has passed. -/
def ValidationResult.Sound (result : ValidationResult) : Prop :=
  ∀ content, result.outcome = .passed content → Passed result.trace

/-- The profile, with its flags set, is one that can be saved. -/
def ValidationInputs.Savable (inputs : ValidationInputs) (d : TurboMacDaemon) : Prop :=
  ∃ profile ∈ d.profile, ∃ content,
    ProfileStore.save (profile.passed inputs.time) inputs.filesystem = .ok content

/-- The loop was left by the stop flag, or ended by itself. -/
theorem sound_verdict_iff {s : ValidationState} {inputs : ValidationInputs}
    {profile : CalibrationProfile} (hd : d.profile = some profile)
    (hprofile : s.daemon.profile = d.profile)
    (hs : (∃ turn ∈ inputs.turns, turn.stopRequested = true) ∧ Stopped s ∨
      (∀ turn ∈ inputs.turns, turn.stopRequested = false) ∧ Ended s) :
    (s.verdict inputs).Sound ↔
      (∀ turn ∈ inputs.turns, turn.stopRequested = false) ∨ ¬ inputs.Savable d := by
  unfold ValidationResult.Sound ValidationInputs.Savable
  rw [verdict_trace]
  rw [hd] at hprofile ⊢
  simp only [verdict_passed_iff hprofile, Option.mem_def, Option.some.injEq, exists_eq_left']
  rcases hs with ⟨⟨turn, hmem, hset⟩, hstopped⟩ | ⟨hall, hended⟩
  · -- the variables look like success, and nothing has been seen
    have hzero : wifexited s.childStatus = true ∧ wexitstatus s.childStatus = 0 := by
      rw [hstopped.childStatus]
      decide
    have hnot := not_passed_of_running hstopped.trace
    constructor
    · intro h
      refine .inr ?_
      rintro ⟨content, hsave⟩
      exact hnot (h content ⟨⟨hstopped.failed, hzero⟩, hsave⟩)
    · rintro (hunset | hunsavable) content ⟨_, hsave⟩
      · rw [hunset turn hmem] at hset
        cases hset
      · exact absurd ⟨content, hsave⟩ hunsavable
  · refine iff_of_true ?_ (.inl hall)
    rintro content ⟨⟨hfailed, hexited, hstatus⟩, _⟩
    rcases hended with hfailed' | ⟨rest, htrace, hrest⟩
    · rw [hfailed] at hfailed'
      cases hfailed'
    · exact ⟨s.childStatus, rest, htrace, hexited, hstatus,
        fun o ho => violates_of_running (hrest o ho)⟩

/-! ## `runValidation` -/

theorem sound_refuse {inputs : ValidationInputs} {result : ValidationResult} {P : Prop}
    (h : d.refuse inputs = some result) :
    result.Sound ↔ (∀ turn ∈ inputs.turns, turn.stopRequested = false) ∨ P := by
  unfold TurboMacDaemon.refuse at h
  split at h
  · rename_i hnone
    rw [List.isEmpty_iff] at hnone
    cases h
    refine iff_of_true ?_ (.inl ?_)
    · intro content hcontent
      cases hcontent
    · rw [hnone]
      simp
  · cases h

theorem sound_validateReady_iff {inputs : ValidationInputs} {result : ValidationResult}
    {profile : CalibrationProfile} (hd : d.profile = some profile) (hgo : d.stopRequested = false)
    (h : d.validateReady exp inputs = some result) :
    result.Sound ↔ (∀ turn ∈ inputs.turns, turn.stopRequested = false) ∨ ¬ inputs.Savable d := by
  have harm : Going d (if d.armed then (true, d)
      else d.armGovernor exp "Whisper validation" inputs.arm).2 := by
    split
    · exact refl_of Going d
    · exact going_armGovernor d _ _
  unfold TurboMacDaemon.validateReady at h
  generalize (if d.armed then (true, d) else d.armGovernor exp "Whisper validation" inputs.arm) = x
    at harm h
  rcases x with ⟨armed, d₁⟩
  have hrefresh := going_refreshCPUDieTemperature d₁ inputs.cpuDie.toOption inputs.cpuDieTime
  dsimp only at harm h
  generalize d₁.refreshCPUDieTemperature inputs.cpuDie.toOption inputs.cpuDieTime = x at hrefresh h
  rcases x with ⟨refreshed, d₂⟩
  have hgoing := trans_of Going harm hrefresh
  dsimp only at hgoing h
  -- four ways to refuse before the loop
  split at h
  · exact sound_refuse h
  split at h
  · exact sound_refuse h
  split at h
  · exact sound_refuse h
  split at h
  · exact sound_refuse h
  rcases Option.map_eq_some_iff.1 h with ⟨s, hloop, rfl⟩
  rcases validationLoop_spec inputs.turns (hgoing.stopRequested.trans hgo) ⟨rfl, rfl, by simp⟩ hloop
    with ⟨hprofile, hs⟩
  exact sound_verdict_iff hd (hprofile.trans hgoing.profile) hs

/-- **A saved validation has passed, if the stop flag has not ended its loop.** In every
run, what is saved has passed exactly if no test of the loop has found the stop flag
set, or the profile cannot be saved anyway. -/
theorem validation_sound_iff (exp : ℚ → ℚ) (d : TurboMacDaemon) (inputs : ValidationInputs)
    {result : ValidationResult} (hrun : d.runValidation exp inputs = some result) :
    result.Sound ↔ (∀ turn ∈ inputs.turns, turn.stopRequested = false) ∨ ¬ inputs.Savable d := by
  unfold TurboMacDaemon.runValidation at hrun
  split at hrun
  · exact sound_refuse hrun
  rename_i hvalid
  simp only [Bool.or_eq_true, not_or, Option.isNone_iff_eq_none] at hvalid
  rcases Option.ne_none_iff_exists'.1 hvalid.1 with ⟨profile, hprofile⟩
  have hdisarm : Going d (if d.armed then d.disarmGovernor "prepare validation" inputs.prepareDisarm
      else (true, d)).2 := by
    split
    · exact going_disarmGovernor d _ _
    · exact refl_of Going d
  generalize (if d.armed then d.disarmGovernor "prepare validation" inputs.prepareDisarm
    else (true, d)) = x at hdisarm hrun
  rcases x with ⟨disarmed, d₁⟩
  dsimp only at hdisarm hrun
  split at hrun
  · exact sound_refuse hrun
  rcases Option.bind_eq_some_iff.1 hrun with ⟨⟨valid, d₂⟩, hgate, hrun⟩
  cases valid with
  | false => exact sound_refuse hrun
  | true =>
      rcases going_gateLoop inputs.gate hgate with ⟨hgoing, hgo⟩
      have hprofile₂ : d₂.profile = d.profile := hgoing.profile.trans hdisarm.profile
      have h := sound_validateReady_iff (hprofile₂.trans hprofile) (hgoing.stopRequested.trans hgo) hrun
      unfold ValidationInputs.Savable at h ⊢
      rw [hprofile₂] at h
      exact h

end

/-! ## A stop before the first turn -/

/-- A calibrated profile, not validated yet. -/
def calibratedProfile : CalibrationProfile :=
  { sampleProfile with
    identity := (ProfileStore.sampleSaved 0).identity
    validationPassed := false
    autoArm := false
    validatedAt := 0 }

def calibratedStart : TurboMacDaemon := { sampleStart with profile := some calibratedProfile }

/-- The gate is passed and the governor armed, at 12 s. -/
def sampleValidation (turns : List ValidationInput) : ValidationInputs where
  protectedExecutable := true
  prepareDisarm := true
  gateStarted := 0
  gate := [1, 2, 4, 6, 8, 10, 12].map (sampleGate 0)
  arm := sampleAnswers 12
  cpuDie := .ok 60
  cpuDieTime := 12
  spawn := true
  started := 12
  turns := turns
  disarm := true
  time := 2
  filesystem := .ok ()

/-- A turn at 12.1 s. -/
def sampleTurn (stopRequested : Bool) (waited : Waited) : ValidationInput where
  stopRequested := stopRequested
  tick := sampleTick (121 / 10) 1 sampleReading
  now := 121 / 10
  cpuDie := .ok 60
  cpuDieTime := 121 / 10
  report := true
  waited := waited

/-- The stop flag is set while the gate's last turn ends: the profile is saved as passed, with
the workload started and never asked for. -/
theorem saved_without_workload :
    ∃ result, calibratedStart.runValidation sampleExp
        (sampleValidation [sampleTurn true .running]) = some result ∧
      (∃ content, result.outcome = .passed content) ∧ ¬ Passed result.trace := by
  have hrun : ((calibratedStart.runValidation sampleExp
      (sampleValidation [sampleTurn true .running])).any fun result =>
        result.trace.isEmpty && match result.outcome with
          | .passed _ => true
          | _ => false) = true := by decide +kernel
  rw [Option.any_eq_true] at hrun
  rcases hrun with ⟨result, hresult, hpassed⟩
  rw [Bool.and_eq_true, List.isEmpty_iff] at hpassed
  refine ⟨result, hresult, ?_, ?_⟩
  · cases houtcome : result.outcome with
    | passed content => exact ⟨content, rfl⟩
    | refused =>
        rw [houtcome] at hpassed
        cases hpassed.2
    | failed error =>
        rw [houtcome] at hpassed
        cases hpassed.2
    | unsaved error =>
        rw [houtcome] at hpassed
        cases hpassed.2
  · rw [hpassed.1]
    rintro ⟨status, rest, htrace, _⟩
    cases htrace

/-- One turn, with the workload's end. -/
theorem validation_sound_sampleTurn : ∃ result, calibratedStart.runValidation sampleExp
    (sampleValidation [sampleTurn false (.exited 0)]) = some result ∧ result.Sound := by
  have hrun : (calibratedStart.runValidation sampleExp
      (sampleValidation [sampleTurn false (.exited 0)])).isSome = true := by decide +kernel
  rcases Option.isSome_iff_exists.1 hrun with ⟨result, hresult⟩
  refine ⟨result, hresult, ?_⟩
  apply (validation_sound_iff sampleExp calibratedStart _ hresult).2
  left
  decide

end TurboMac.Daemon
