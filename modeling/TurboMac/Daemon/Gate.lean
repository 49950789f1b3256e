import TurboMac.Daemon.Daemon
import TurboMac.Lib.Since

/-! # `main.cpp`: `waitForValidTelemetry`

The gate that a calibration and a validation wait at, and the runs of the daemon's
methods with it.
-/

namespace TurboMac.Daemon

open Kext (U32)

/-- One turn of the loop of `waitForValidTelemetry`: the flag and the clock as its test
finds them, the answers of `tick`, the clock after it, and whether the client is told. -/
structure GateInput where
  stopRequested : Bool
  testTime : ℚ
  tick : TickInput
  now : ℚ
  report : Bool

namespace TurboMacDaemon

/-- `policy_.evaluate(now)`, between two ticks. -/
def evaluatePolicy (exp : ℚ → ℚ) (d : TurboMacDaemon) (now : ℚ) : TurboMacDaemon :=
  { d with policy := d.policy.evaluate exp now }

/-- The body of the loop up to its branch. -/
def gateLook (exp : ℚ → ℚ) (d : TurboMacDaemon) (input : GateInput) : TurboMacDaemon :=
  (d.tick exp false false input.tick).evaluatePolicy exp input.now

/-- The loop of `waitForValidTelemetry`; none if it turns once more than there are inputs. -/
def gateLoop (exp : ℚ → ℚ) (started seconds : ℚ) :
    List GateInput → ℚ → U32 → TurboMacDaemon → Option (Bool × TurboMacDaemon)
  | [], _, _, _ => none
  | input :: inputs, validSince, lastReported, d =>
    if input.stopRequested || d.stopRequested ||
        decide (seconds + 30 ≤ input.testTime - started) then some (false, d)
    else
      let d := d.gateLook exp input
      if d.policy.snapshot.ready && d.smcFailures == 0 then
        let validSince := if validSince < 0 then input.now else validSince
        let elapsed : U32 := BitVec.ofInt 32 ⌊input.now - validSince⌋
        if elapsed ≠ lastReported ∧ input.report = false then some (false, d)
        else if seconds ≤ input.now - validSince then
          some (true, { d with validTelemetrySince := validSince })
        else gateLoop exp started seconds inputs validSince elapsed d
      else gateLoop exp started seconds inputs (-1) lastReported d

/-- `waitForValidTelemetry`. -/
def waitForValidTelemetry (exp : ℚ → ℚ) (d : TurboMacDaemon) (started seconds : ℚ)
    (inputs : List GateInput) : Option (Bool × TurboMacDaemon) :=
  d.gateLoop exp started seconds inputs (-1) (BitVec.allOnes 32)

end TurboMacDaemon

/-- A call of one of the methods that keep `validTelemetrySince`. -/
inductive Call where
  | tick (applyControl allowAutoArm : Bool) (input : TickInput)
  | disarmGovernor (reason : String) (success : Bool)
  | configurePolicy
  | waitForValidTelemetry (started seconds : ℚ) (inputs : List GateInput)
  | armGovernor (reason : String) (answers : ArmAnswers)

def GateInput.times (input : GateInput) : List ℚ :=
  [input.testTime, input.tick.now, input.tick.arm.now, input.now]

/-- The readings of the clock. -/
def Call.times : Call → List ℚ
  | .tick _ _ input => [input.now, input.arm.now]
  | .disarmGovernor _ _ | .configurePolicy => []
  | .waitForValidTelemetry started _ inputs => started :: inputs.flatMap GateInput.times
  | .armGovernor _ answers => [answers.now]

/-- The daemon after a call, if it comes to its end. -/
def Call.after (exp : ℚ → ℚ) (call : Call) (d : TurboMacDaemon) : Option TurboMacDaemon :=
  match call with
  | .tick applyControl allowAutoArm input => some (d.tick exp applyControl allowAutoArm input)
  | .disarmGovernor reason success => some (d.disarmGovernor reason success).2
  | .configurePolicy => some d.configurePolicy
  | .waitForValidTelemetry started seconds inputs =>
    (d.waitForValidTelemetry exp started seconds inputs).map Prod.snd
  | .armGovernor reason answers => some (d.armGovernor exp reason answers).2

/-- The daemon after some calls, the first of them first. -/
def runCalls (exp : ℚ → ℚ) (calls : List Call) (d : TurboMacDaemon) : Option TurboMacDaemon :=
  calls.foldlM (fun d call => call.after exp d) d

/-- The state in which a call arms the governor, and when: the one that `armGovernor` is
called in, or that `tick` evaluates before it arms by itself. -/
def Call.arms (exp : ℚ → ℚ) (call : Call) (d : TurboMacDaemon) : Option (TurboMacDaemon × ℚ) :=
  match call with
  | .tick _ allowAutoArm input =>
    let d := (d.sampleTelemetry input).evaluate exp input.now
    if !d.armed && d.autoArms allowAutoArm input.now && (d.armGovernor exp "auto-arm" input.arm).1 then
      some (d, input.arm.now)
    else none
  | .armGovernor reason answers =>
    if (d.armGovernor exp reason answers).1 then some (d, answers.now) else none
  | .disarmGovernor _ _ | .configurePolicy | .waitForValidTelemetry _ _ _ => none

end TurboMac.Daemon
