import TurboMac.Daemon.Gate

/-! # `main.cpp`: `runValidation`

The supervised workload that a profile must pass before the governor may arm itself.
What the client is told in between is left out.
-/

namespace TurboMac.Daemon

open Kext (U32 U64)

def maximumCPUTemperatureC : ℚ := 95

/-- What `waitpid` answers: 0, the child with its status, or -1 with `EINTR` or another error. -/
inductive Waited where
  | running
  | exited (status : U32)
  | interrupted
  | failed
deriving DecidableEq

/-- `WIFEXITED`. -/
def wifexited (status : U32) : Bool := status &&& 0x7f == 0

/-- `WEXITSTATUS`. -/
def wexitstatus (status : U32) : U32 := status >>> 8 &&& 0xff

/-- One turn of the loop: the flag as its test finds it, the answers of `tick`, the clock
after it, the temperature if it is read and the clock after that, whether the client
takes a report, and the answer of `waitpid`. -/
structure ValidationInput where
  stopRequested : Bool
  tick : TickInput
  now : ℚ
  cpuDie : Except String ℚ
  cpuDieTime : ℚ
  report : Bool
  waited : Waited

/-- What a turn observes. -/
inductive Observation where
  | temperatureUnreadable
  | looked (violation : Option String)
  | waited (answer : Waited)
deriving DecidableEq

/-- The variables of the loop, and what it has observed, newest first. -/
structure ValidationState where
  daemon : TurboMacDaemon
  childStatus : U32
  failed : Bool
  error : String
  lastProgress : ℚ
  trace : List Observation

/-- The answers of one `runValidation`; `turns` are those of the tests of its loop. -/
structure ValidationInputs where
  protectedExecutable : Bool
  prepareDisarm : Bool
  gateStarted : ℚ
  gate : List GateInput
  arm : ArmAnswers
  cpuDie : Except String ℚ
  cpuDieTime : ℚ
  spawn : Bool
  started : ℚ
  turns : List ValidationInput
  disarm : Bool
  time : Int64
  filesystem : Except String Unit

/-- How `runValidation` ends: before its loop, with a failure, or with the text it saves. -/
inductive ValidationEnd where
  | refused
  | failed (error : String)
  | unsaved (error : String)
  | passed (content : Text)

structure ValidationResult where
  outcome : ValidationEnd
  trace : List Observation
  daemon : TurboMacDaemon

namespace TurboMacDaemon

/-- The checks of a turn. -/
def boundaryViolation (d : TurboMacDaemon) (initialSMCError initialRAPLError : U64) (elapsed : ℚ) :
    Option String :=
  let snapshot := d.policy.snapshot
  if !d.armed then some "governor disarmed during validation"
  else if d.smcErrorSerial ≠ initialSMCError then some "SMC telemetry failed during validation"
  else if d.raplErrorSerial ≠ initialRAPLError then some "RAPL telemetry failed during validation"
  else if !snapshot.ready || decide (snapshot.shedW ≤ 0) then
    some "live validation boundary became unavailable"
  else if snapshot.shedW ≤ d.latestInputW then
    some (String.ofList ("PDTR reached the live shed threshold (".toList ++
      Decimal.ofRat 2 snapshot.shedW ++ " W)".toList))
  else
    match d.latestCPUDieTemperatureC with
    | none => some "CPU temperature became invalid during validation"
    | some temperatureC =>
      if maximumCPUTemperatureC ≤ temperatureC then
        some "CPU temperature reached the 95 C validation abort threshold"
      else if 600 < elapsed then some "validation exceeded the 600 second timeout"
      else none

end TurboMacDaemon

/-- The body of the loop, and whether it breaks. -/
def ValidationState.turn (exp : ℚ → ℚ) (started : ℚ) (initialSMCError initialRAPLError : U64)
    (s : ValidationState) (input : ValidationInput) : Bool × ValidationState :=
  let d := s.daemon.tick exp true false input.tick
  let (refreshed, d) :=
    if 1 ≤ input.now - d.lastCPUDieReadTime then
      d.refreshCPUDieTemperature input.cpuDie.toOption input.cpuDieTime
    else (true, d)
  if !refreshed then
    (true, { s with
      daemon := d
      failed := true
      error := match input.cpuDie with
        | .error error => error
        | .ok _ => s.error
      trace := .temperatureUnreadable :: s.trace })
  else
    let violation := d.boundaryViolation initialSMCError initialRAPLError (input.now - started)
    let s := { s with daemon := d, trace := .looked violation :: s.trace }
    match violation with
    | some error => (true, { s with failed := true, error := error })
    | none =>
      let due := decide (5 ≤ input.now - s.lastProgress)
      if due && !input.report then
        (true, { s with failed := true, error := "supervising client disconnected" })
      else
        let s := { s with
          lastProgress := if due then input.now else s.lastProgress
          trace := .waited input.waited :: s.trace }
        match input.waited with
        | .exited status => (true, { s with childStatus := status })
        | .failed =>
          (true, { s with failed := true, error := "could not monitor Whisper validation" })
        | .running | .interrupted => (false, s)

/-- The loop; none if these are not all the turns it takes. -/
def validationLoop (exp : ℚ → ℚ) (started : ℚ) (initialSMCError initialRAPLError : U64) :
    List ValidationInput → ValidationState → Option ValidationState
  | [], _ => none
  | input :: inputs, s =>
    if input.stopRequested || s.daemon.stopRequested then if inputs.isEmpty then some s else none
    else
      let (ended, s) := s.turn exp started initialSMCError initialRAPLError input
      if ended then if inputs.isEmpty then some s else none
      else validationLoop exp started initialSMCError initialRAPLError inputs s

/-- The profile that is saved. -/
def CalibrationProfile.passed (profile : CalibrationProfile) (time : Int64) : CalibrationProfile :=
  { profile with
    validationPassed := true
    autoArm := true
    validatedAt := time }

/-- The verdict, past the loop. -/
def ValidationState.verdict (s : ValidationState) (inputs : ValidationInputs) : ValidationResult :=
  let (failed, error) :=
    if !s.failed && (!wifexited s.childStatus || wexitstatus s.childStatus != 0) then
      (true, "Whisper validation workload failed")
    else (s.failed, s.error)
  if failed then
    ⟨.failed error, s.trace, (s.daemon.disarmGovernor "validation failed" inputs.disarm).2⟩
  else
    let profile := (s.daemon.profile.getD {}).passed inputs.time
    let d := { s.daemon with profile := some profile }
    match ProfileStore.save profile inputs.filesystem with
    | .error error =>
      ⟨.unsaved error, s.trace,
        (d.disarmGovernor "validation profile save failed" inputs.disarm).2⟩
    | .ok content => ⟨.passed content, s.trace, d⟩

namespace TurboMacDaemon

/-- Before the loop, without a turn of it. -/
def refuse (d : TurboMacDaemon) (inputs : ValidationInputs) : Option ValidationResult :=
  if inputs.turns.isEmpty then some ⟨.refused, [], d⟩ else none

/-- `runValidation`, past the gate. -/
def validateReady (exp : ℚ → ℚ) (d : TurboMacDaemon) (inputs : ValidationInputs) :
    Option ValidationResult :=
  let (armed, d) := if d.armed then (true, d) else d.armGovernor exp "Whisper validation" inputs.arm
  if !armed then d.refuse inputs
  else
    let (refreshed, d) := d.refreshCPUDieTemperature inputs.cpuDie.toOption inputs.cpuDieTime
    if !refreshed then
      (d.disarmGovernor "validation temperature read failed" inputs.disarm).2.refuse inputs
    else if !inputs.spawn then
      (d.disarmGovernor "validation spawn failed" inputs.disarm).2.refuse inputs
    else if !d.policy.snapshot.ready || decide (d.policy.snapshot.shedW ≤ 0) then
      (d.disarmGovernor "validation boundary unavailable" inputs.disarm).2.refuse inputs
    else
      (validationLoop exp inputs.started d.smcErrorSerial d.raplErrorSerial inputs.turns {
        daemon := d
        childStatus := 0
        failed := false
        error := ""
        lastProgress := inputs.started
        trace := [] }).map fun s => s.verdict inputs

/-- `runValidation`; none if its gate or its loop takes other turns. -/
def runValidation (exp : ℚ → ℚ) (d : TurboMacDaemon) (inputs : ValidationInputs) :
    Option ValidationResult :=
  if d.profile.isNone || !inputs.protectedExecutable then d.refuse inputs
  else
    let (disarmed, d) :=
      if d.armed then d.disarmGovernor "prepare validation" inputs.prepareDisarm else (true, d)
    if !disarmed then d.refuse inputs
    else
      (d.waitForValidTelemetry exp inputs.gateStarted autoArmTelemetrySeconds inputs.gate).bind
        fun (valid, d) => if valid then d.validateReady exp inputs else d.refuse inputs

end TurboMacDaemon

end TurboMac.Daemon
