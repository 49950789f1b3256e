import TurboMac.Daemon.Validation

/-! # `main.cpp`: `runLoad`

The load of one step of a calibration: the limits are set, the AVX2 worker is spawned,
and each turn looks for a reason to end it. What the client is told in between is
left out, but not whether it takes it.
-/

namespace TurboMac.Daemon

open Kext (U32 U64)

def hardCalibrationInputW : ℚ := 52
def softCalibrationInputW : ℚ := 50
def calibrationStatisticsWarmupSeconds : ℚ := 2

/-- What is done about a child: a `waitpid` of the caller, or `terminateChild`, which sends
`SIGTERM`, then `SIGKILL`, and waits. -/
inductive ChildEvent where
  | spawned
  | waited (answer : Waited)
  | terminated
deriving DecidableEq

structure LoadStatistics where
  inputTotal : ℚ := 0
  packageTotal : ℚ := 0
  peakInput : ℚ := 0
  peakTemperature : ℚ := 0
  worstTransientError : ℚ := 0
  samples : ℕ := 0

namespace LoadStatistics

def averageInput (s : LoadStatistics) : ℚ := if s.samples = 0 then 0 else s.inputTotal / s.samples

def averagePackage (s : LoadStatistics) : ℚ := if s.samples = 0 then 0 else s.packageTotal / s.samples

/-- One sample of the input, the package and the temperature. -/
def add (s : LoadStatistics) (inputW : ℚ) (snapshot : PolicySnapshot) (temperatureC : ℚ) :
    LoadStatistics where
  inputTotal := s.inputTotal + inputW
  packageTotal := s.packageTotal + snapshot.filteredPackageW
  peakInput := max s.peakInput inputW
  peakTemperature := max s.peakTemperature temperatureC
  worstTransientError :=
    max s.worstTransientError (inputW - snapshot.filteredPackageW - snapshot.nonCPUW)
  samples := s.samples + 1

end LoadStatistics

inductive LoadResult where
  | complete | softCeiling | abort
deriving DecidableEq

/-- The arguments of `runLoad`. -/
structure LoadRequest where
  seconds : ℕ
  pl1W : ℚ
  pl2W : ℚ
  baselineCapacityW : ℚ
  softInputW : ℚ

/-- The answers of one `setManualLimits`. -/
structure ManualAnswers where
  passiveHWP : Option HWPStatus
  /-- of `update` or `arm` -/
  driver : Bool
  status : Option DriverStatus
  armedHWP : Option HWPStatus
  disarm : Bool
  now : ℚ

/-- One turn of the loop: the answers of `tick`, the clock after it, the temperature if it
is read and the clock after that, `latestCapacityW_`, the answers of a heartbeat, whether the
client takes a report, and the answer of `waitpid`. -/
structure LoadInput where
  tick : TickInput
  now : ℚ
  cpuDie : Except String ℚ
  cpuDieTime : ℚ
  latestCapacityW : ℚ
  manual : ManualAnswers
  report : Bool
  waited : Waited

/-- The answers of one `runLoad`. -/
structure LoadInputs where
  manual : ManualAnswers
  cpuDie : Except String ℚ
  cpuDieTime : ℚ
  protectedExecutable : Bool
  spawn : Bool
  started : ℚ
  turns : List LoadInput

/-- The variables of the loop, and what has been done about the child, newest first. -/
structure LoadState where
  daemon : TurboMacDaemon
  error : String
  lastHeartbeat : ℚ
  lastProgress : ℚ
  priorSMCSample : U64
  statistics : LoadStatistics
  child : List ChildEvent

/-- How the loop is left: by a `return`, or by a `break` with the status of the child. -/
inductive LoadEnd where
  | returned (result : LoadResult)
  | exited (status : U32)

structure LoadRun where
  result : LoadResult
  error : String
  statistics : LoadStatistics
  daemon : TurboMacDaemon
  child : List ChildEvent

/-- The text of an error, if there is one. -/
def errorOf (previous : String) : Except String ℚ → String
  | .error error => error
  | .ok _ => previous

namespace TurboMacDaemon

/-- `setManualLimits`. -/
def setManualLimits (d : TurboMacDaemon) (pl1W pl2W : ℚ) (answers : ManualAnswers) :
    Bool × TurboMacDaemon :=
  let mode := if d.armed then some Kext.hwpReleaseMaximum
    else passiveHWPReady (d.answer answers.passiveHWP)
  match mode with
  | none => (false, d)
  | some hwpMode =>
    let pl1MW := wattsToMW pl1W
    let pl2MW := wattsToMW pl2W
    let request : Event :=
      if d.armed then .driverUpdate pl1MW pl2MW else .driverArm pl1MW pl2MW hwpMode
    let (success, d) := d.command request answers.driver
    if !success then (false, d)
    else if !armReadback (d.answer answers.status) pl1MW pl2MW ||
        !armedHWPVerified (d.answer answers.armedHWP) then
      (false, (d.command .driverDisarm answers.disarm).2)
    else (true, { d with armed := true, lastDriverUpdateTime := answers.now })

/-- The temperature, where the last one is a second old. -/
def refreshDue (d : TurboMacDaemon) (input : LoadInput) : Bool × TurboMacDaemon :=
  if 1 ≤ input.now - d.lastCPUDieReadTime then
    d.refreshCPUDieTemperature input.cpuDie.toOption input.cpuDieTime
  else (true, d)

/-- The checks of a turn after the temperature. -/
def loadViolation (d : TurboMacDaemon) (baselineCapacityW latestCapacityW : ℚ) : Option String :=
  match d.latestCPUDieTemperatureC with
  | none => some "CPU temperature telemetry failed during calibration"
  | some temperatureC =>
    if maximumCPUTemperatureC ≤ temperatureC then
      some "CPU temperature reached the 95 C calibration abort threshold"
    else if baselineCapacityW ≤ 0 ∨ 5 / 100 < |latestCapacityW - baselineCapacityW| / baselineCapacityW then
      some "ACPW changed by more than five percent during calibration"
    else none

end TurboMacDaemon

namespace LoadState

/-- `terminateChild`, and return. -/
def terminate (s : LoadState) (result : LoadResult) : Option LoadEnd × LoadState :=
  (some (.returned result), { s with child := .terminated :: s.child })

def abort (s : LoadState) (error : String) : Option LoadEnd × LoadState :=
  { s with error := error }.terminate .abort

/-- The statistics of a turn. -/
def sample (s : LoadState) (elapsed : ℚ) : LoadState :=
  let d := s.daemon
  if d.smcSampleSerial ≠ s.priorSMCSample ∧ calibrationStatisticsWarmupSeconds ≤ elapsed then
    { s with
      statistics := s.statistics.add d.latestInputW d.policy.snapshot
        (d.latestCPUDieTemperatureC.getD 0)
      priorSMCSample := d.smcSampleSerial }
  else s

/-- The end of a turn: the report and `waitpid`. -/
def report (s : LoadState) (input : LoadInput) : Option LoadEnd × LoadState :=
  let due := decide (5 ≤ input.now - s.lastProgress)
  if due && !input.report then s.abort "supervising client disconnected"
  else
    let s := { s with
      lastProgress := if due then input.now else s.lastProgress
      child := .waited input.waited :: s.child }
    match input.waited with
    | .exited status => (some (.exited status), s)
    | .failed => s.abort "could not monitor AVX2 load worker"
    | .running | .interrupted => (none, s)

/-- A turn past its checks: the statistics, the heartbeat and the rest. -/
def hold (request : LoadRequest) (started : ℚ) (s : LoadState) (input : LoadInput) :
    Option LoadEnd × LoadState :=
  let s := s.sample (input.now - started)
  if 1 ≤ input.now - s.lastHeartbeat then
    let (held, d) := s.daemon.setManualLimits request.pl1W request.pl2W input.manual
    let s := { s with daemon := d }
    if !held then s.terminate .abort else { s with lastHeartbeat := input.now }.report input
  else s.report input

/-- The body of the loop, and how it leaves the loop. -/
def turn (exp : ℚ → ℚ) (request : LoadRequest) (started : ℚ) (priorSMCError priorRAPLError : U64)
    (s : LoadState) (input : LoadInput) : Option LoadEnd × LoadState :=
  let d := s.daemon.tick exp false false input.tick
  if d.smcErrorSerial ≠ priorSMCError ∨ d.raplErrorSerial ≠ priorRAPLError then
    { s with daemon := d }.abort "telemetry read failed during supervised load"
  else
    let d := d.evaluatePolicy exp input.now
    if !d.policy.snapshot.ready then
      { s with daemon := d }.abort "telemetry became stale during supervised load"
    else if hardCalibrationInputW ≤ d.latestInputW then
      { s with daemon := d }.abort "PDTR reached the 52 W calibration abort threshold"
    else
      let (refreshed, d) := d.refreshDue input
      let s := { s with daemon := d }
      if !refreshed then s.abort (errorOf s.error input.cpuDie)
      else
        match d.loadViolation request.baselineCapacityW input.latestCapacityW with
        | some error => s.abort error
        | none =>
          if request.softInputW ≤ d.latestInputW then s.terminate .softCeiling
          else s.hold request started input

end LoadState

/-- The loop; none if it turns once more than there are inputs. -/
def loadLoop (exp : ℚ → ℚ) (request : LoadRequest) (started : ℚ) (priorSMCError priorRAPLError : U64) :
    List LoadInput → LoadState → Option (LoadEnd × LoadState)
  | [], _ => none
  | input :: inputs, s =>
    match s.turn exp request started priorSMCError priorRAPLError input with
    | (some e, s) => some (e, s)
    | (none, s) => loadLoop exp request started priorSMCError priorRAPLError inputs s

/-- The result, past the loop. -/
def LoadState.finish (request : LoadRequest) : LoadEnd × LoadState → LoadRun
  | (.returned result, s) => ⟨result, s.error, s.statistics, s.daemon, s.child⟩
  | (.exited status, s) =>
    if !wifexited status || wexitstatus status != 0 then
      ⟨.abort, "AVX2 load worker failed", s.statistics, s.daemon, s.child⟩
    else if s.statistics.samples < request.seconds * 2 then
      ⟨.abort, "insufficient calibration samples", s.statistics, s.daemon, s.child⟩
    else ⟨.complete, s.error, s.statistics, s.daemon, s.child⟩

/-- `runLoad`; none if its loop turns once more than there are inputs. -/
def TurboMacDaemon.runLoad (exp : ℚ → ℚ) (d : TurboMacDaemon) (request : LoadRequest)
    (statistics : LoadStatistics) (error : String) (inputs : LoadInputs) : Option LoadRun :=
  let (held, d) := d.setManualLimits request.pl1W request.pl2W inputs.manual
  if !held then some ⟨.abort, error, statistics, d, []⟩
  else
    let (refreshed, d) := d.refreshCPUDieTemperature inputs.cpuDie.toOption inputs.cpuDieTime
    if !refreshed then some ⟨.abort, errorOf error inputs.cpuDie, statistics, d, []⟩
    else if d.latestCPUDieTemperatureC.any fun temperatureC => maximumCPUTemperatureC ≤ temperatureC then
      some ⟨.abort, "CPU die temperature reached the 95 C abort threshold", statistics, d, []⟩
    else if !inputs.protectedExecutable then some ⟨.abort, error, statistics, d, []⟩
    else if !inputs.spawn then some ⟨.abort, error, statistics, d, []⟩
    else
      (loadLoop exp request inputs.started d.smcErrorSerial d.raplErrorSerial inputs.turns {
        daemon := d
        error := error
        lastHeartbeat := inputs.started
        lastProgress := inputs.started
        priorSMCSample := d.smcSampleSerial
        statistics := statistics
        child := [.spawned] }).map (LoadState.finish request)

end TurboMac.Daemon
