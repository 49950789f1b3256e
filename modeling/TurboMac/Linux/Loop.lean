import TurboMac.Linux.Readback
import TurboMac.Linux.Sampler

/-! # `main.py`: the control loop

`tick`, `apply` and `loop_once` of the daemon, over the reads of its sampler, the package
zone it writes, and a clock. What a tick reads, whether a read, the step or a write
raises, and the configuration it finds are inputs. Of its effects the limits, the
arguments of the fan step and the messages to systemd are kept; the log, the status, the
meter and the events are left out.
-/

namespace TurboMac.Linux

def slowEvery : ℕ := 4
def watchdogEveryS : ℚ := 2
def watchdogMaxStepAgeS : ℚ := 5

/-- The reason of a readback as text, given how `:g` writes a number. -/
def ReadbackRecord.text (g : ℚ → String) (r : ReadbackRecord) : String :=
  match r.reason with
  | .sysfsUnavailable => "sysfs readback unavailable"
  | .sysfsReads pl1Uw pl2Uw =>
    "sysfs reads PL1 " ++ g (pl1Uw / 1000000) ++ " W / PL2 " ++ g (pl2Uw / 1000000) ++ " W, wanted " ++
      g r.pl1W ++ " / " ++ g r.pl2W
  | .sysfsDisabled => "sysfs enabled != 1"
  | .msrUnavailable => "sysfs ok (MSR unavailable)"
  | .msrReads msr =>
    "MSR 0x610 reads PL1 " ++ g msr.pl1W ++ " W / PL2 " ++ g msr.pl2W ++ " W, wanted " ++ g r.pl1W ++
      " / " ++ g r.pl2W
  | .msrDisabled => "MSR 0x610 PL1 not enabled"
  | .matching => "sysfs and MSR ok"
  | .writeErrors errs => "; ".intercalate errs

/-- The firmware limits for `governor.initial`: those of a valid record. -/
def governorFirmware (firmware : Option FirmwareRecord) : Firmware :=
  ⟨firmwarePl1W firmware, firmwarePl2W firmware⟩

/-- How `apply_and_verify` goes: RAPL is not there, or the call raises and leaves the
machine somehow, or it returns. -/
inductive ApplyOutcome (σ : Type) where
  | unavailable
  | raised (error : String) (left : σ)
  | returned

/-- What one iteration of the loop meets. A sample that raises is none; a step commands
limits once at most, so that one outcome is enough. -/
structure LoopInput (σ : Type) where
  now : ℚ
  fast : Option FastReads
  slow : Option SlowReads
  config : GovernorConfig
  stepRaises : Bool
  applied : ApplyOutcome σ
  /-- `stale_timeout_s` of the configuration after the tick -/
  staleTimeoutS : ℚ

inductive Notify where
  | ready
  | watchdog
deriving DecidableEq, Repr

/-- The arguments of the fan floor's tick: temperature and package power. -/
structure FanInput where
  tempC : Option ℚ
  pkgW : Option ℚ
deriving DecidableEq, Repr

/-- What `setup` has found: the zone's files and the constraints, the firmware's limits. -/
structure LoopSetup (σ : Type) where
  access : ZoneAccess σ
  constraints : Constraints
  firmware : Option FirmwareRecord
  /-- how `:g` writes a number -/
  formatG : ℚ → String

/-- The daemon's loop, with the machine it writes. -/
structure Loop (σ : Type) where
  sampler : Sampler
  gov : GovState
  readback : Option Readback
  machine : σ
  lastStepOk : Option ℚ
  loopStart : Option ℚ
  ready : Bool
  lastWd : Option ℚ

namespace Loop

variable {σ : Type} (setup : LoopSetup σ)

/-- The daemon after `setup`. -/
def init (started : ℚ) (machine : σ) : Loop σ where
  sampler := .init
  gov := initial started (governorFirmware setup.firmware)
  readback := none
  machine := machine
  lastStepOk := none
  loopStart := none
  ready := false
  lastWd := none

variable (l : Loop σ) (x : LoopInput σ)

/-- The fast sample of a tick. -/
def sampleFast (slow : Bool) : Sampler :=
  match x.fast with
  | some reads => l.sampler.fast x.now reads slow
  | none => l.sampler.invalidate

/-- Both samples of a tick. -/
def sampled (slow : Bool) : Sampler :=
  let s := l.sampleFast x slow
  match slow, x.slow with
  | true, some reads => s.slow x.now reads
  | _, _ => s

/-- What the governor gets to see. -/
def sample (slow : Bool) : Sample :=
  { (l.sampled x slow).govInput x.now with readback := l.readback }

/-- `apply` of one action. -/
def apply (outcome : ApplyOutcome σ) (l : Loop σ) (action : Action) : Loop σ :=
  match action with
  | .event _ => l
  | .setLimits pl1W pl2W _ =>
    match outcome with
    | .unavailable => { l with readback := some ⟨false, some "RAPL powercap unavailable"⟩ }
    | .raised error left =>
      { l with
        machine := left
        readback := some ⟨false, some ("exception: " ++ error)⟩ }
    | .returned =>
      let (r, machine) :=
        setup.access.applyAndVerify setup.constraints pl1W pl2W hardMaxW setup.firmware l.machine
      { l with
        machine := machine
        readback := some ⟨r.ok, some (r.text setup.formatG)⟩ }

/-- `_fan_step`: the temperature is none unless this tick's slow sample has been taken. -/
def fanInput (s : Sampler) : FanInput where
  tempC := if x.slow.isSome then s.pkgC else none
  pkgW := (s.derived x.now).pkgMedian1s

/-- `tick`, and the fan step it comes to. -/
def tick (slow : Bool) : Loop σ × Option FanInput :=
  let sampler := l.sampled x slow
  let sample := l.sample x slow
  let l := { l with sampler := sampler, readback := none }
  if x.stepRaises then (l, none)
  else
    let (gov, actions) := step l.gov sample x.config x.now
    let l := actions.foldl (apply setup x.applied) { l with gov := gov }
    ({ l with lastStepOk := some x.now }, if slow then some (fanInput x sampler) else none)

/-- `last_step_ok` is recent. -/
def stepOk (now : ℚ) : Bool := l.lastStepOk.any fun last => decide (now - last ≤ watchdogMaxStepAgeS)

/-- Whether `READY=1` is due. -/
def readyDue (loopStart : ℚ) : Bool :=
  l.stepOk x.now && !l.ready &&
    (l.sampler.latest.valid || decide (x.staleTimeoutS + 1 < x.now - loopStart))

/-- Whether `WATCHDOG=1` is due. -/
def watchdogDue (now : ℚ) : Bool := l.stepOk now && decide (Elapsed now l.lastWd watchdogEveryS)

/-- `loop_once`, and what it sends to systemd. -/
def loopOnce (slow : Bool) : Loop σ × List Notify :=
  let loopStart := l.loopStart.getD x.now
  let l := { (tick setup l x slow).1 with loopStart := some loopStart }
  let ready := l.readyDue x loopStart
  let watchdog := l.watchdogDue x.now
  ({ l with
      ready := l.ready || ready
      lastWd := if watchdog then some x.now else l.lastWd },
    (if ready then [.ready] else []) ++ if watchdog then [.watchdog] else [])

end Loop

/-! ## Runs -/

/-- The iterations of one daemon, at times that do not go back. -/
structure LoopRun (σ : Type) where
  setup : LoopSetup σ
  started : ℚ
  machine : σ
  inputs : ℕ → LoopInput σ
  mono : Monotone fun n => (inputs n).now

namespace LoopRun

variable {σ : Type} (r : LoopRun σ)

/-- `tick % SLOW_EVERY == 0`. -/
def slow (n : ℕ) : Bool := n % slowEvery = 0

/-- The loop before iteration `n`. -/
def state : ℕ → Loop σ
  | 0 => .init r.setup r.started r.machine
  | n + 1 => ((state n).loopOnce r.setup (r.inputs n) (slow n)).1

def time (n : ℕ) : ℚ := (r.inputs n).now

/-- What iteration `n` sends to systemd. -/
def notify (n : ℕ) : List Notify := ((r.state n).loopOnce r.setup (r.inputs n) (slow n)).2

/-- What the governor gets to see in iteration `n`. -/
def sample (n : ℕ) : Sample := (r.state n).sample (r.inputs n) (slow n)

/-- The fan step of iteration `n`. -/
def fan (n : ℕ) : Option FanInput := ((r.state n).tick r.setup (r.inputs n) (slow n)).2

end LoopRun

end TurboMac.Linux
