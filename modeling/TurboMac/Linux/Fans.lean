import TurboMac.Linux.Settings

/-! # `fans.py`: the fan floor

`decide`, and the `FanController` that captures the hardware minimums, writes the
floor and restores it. What AppleSMC answers is an argument of each call; every
access to a `fan{N}_min` is traced, newest first. A reason text is kept as what
it says.
-/

namespace TurboMac.Linux

def powerHystW : ℚ := 5
def readbackTolRpm : ℤ := 50
def retryS : ℚ := 30
def captureSlackRpm : ℤ := 500

/-- `KNOWN_HW_MIN`. -/
def knownHwMin : ℕ → Option ℤ
  | 1 => some 2160
  | 2 => some 2000
  | _ => none

/-- `fan.mode`. -/
inductive FanMode where
  | auto
  | floor
deriving DecidableEq, Repr

/-- The `fan` section. -/
structure FanConfig where
  mode : FanMode
  powerFloorW : ℚ
  powerFloorRpm : ℤ
  t1C : ℚ
  t1Rpm : ℤ
  t2C : ℚ
  t2Rpm : ℤ
  t3C : ℚ
  t3Rpm : ℤ
  hysteresisC : ℚ
  stepDownIntervalS : ℚ
  maxRpm : ℤ
deriving DecidableEq, Repr

/-- `cfg["fan"]`. -/
def Settings.fan (c : Settings) : FanConfig where
  mode := if c .fanMode = .str "auto" then .auto else .floor
  powerFloorW := (c .fanPowerFloorW).number
  powerFloorRpm := (c .fanPowerFloorRpm).number.num
  t1C := (c .fanT1C).number
  t1Rpm := (c .fanT1Rpm).number.num
  t2C := (c .fanT2C).number
  t2Rpm := (c .fanT2Rpm).number.num
  t3C := (c .fanT3C).number
  t3Rpm := (c .fanT3Rpm).number.num
  hysteresisC := (c .fanHysteresisC).number
  stepDownIntervalS := (c .fanStepDownIntervalS).number
  maxRpm := (c .fanMaxRpm).number.num

/-! ## `decide` -/

structure FanState where
  powerOn : Bool := false
  powerBelowSince : Option ℚ := none
  level : ℕ := 0
  tempBelowSince : Option ℚ := none
deriving DecidableEq, Repr

/-- The reason of a target. -/
inductive FanReason where
  | notStarted
  | noFans
  | auto
  | waiting
  | noData
  | belowThresholds
  | temperature (tempC stepC : ℚ)
  | temperatureCooling (rpm : ℤ) (belowC intervalS : ℚ)
  | power (pkgW floorW : ℚ)
  | powerCooling (rpm : ℤ) (belowW intervalS : ℚ)
  | capped (reason : FanReason) (maxRpm : ℤ)
deriving DecidableEq, Repr

/-- `ladder`. -/
def ladder (cfg : FanConfig) : List (ℚ × ℤ) :=
  [(cfg.t1C, cfg.t1Rpm), (cfg.t2C, cfg.t2Rpm), (cfg.t3C, cfg.t3Rpm)]

/-- The power rule of `decide`: `power_on` and `p_since`. -/
def powerRule (state : FanState) (pkgW : Option ℚ) (cfg : FanConfig) (now : ℚ) : Bool × Option ℚ :=
  match pkgW with
  | none => (false, none)
  | some pkgW =>
    if cfg.powerFloorW ≤ pkgW then (true, none)
    else if state.powerOn ∧ pkgW < cfg.powerFloorW - powerHystW then
      let since := state.powerBelowSince.getD now
      if cfg.stepDownIntervalS ≤ now - since then (false, none) else (state.powerOn, some since)
    else (state.powerOn, none)

/-- The highest step that is met, or 0. -/
def met (steps : List (ℚ × ℤ)) (tempC : ℚ) : ℕ :=
  (steps.zipIdx.filter fun step => step.1.1 ≤ tempC).foldl (fun top step => max top (step.2 + 1)) 0

/-- The temperature ladder of `decide`: `level` and `t_since`. -/
def tempRule (state : FanState) (tempC : Option ℚ) (cfg : FanConfig) (now : ℚ) : ℕ × Option ℚ :=
  match tempC with
  | none => (0, none)
  | some tempC =>
    let met := met (ladder cfg) tempC
    if state.level ≤ met then (met, none)
    else if tempC < ((ladder cfg).getD (state.level - 1) (0, 0)).1 - cfg.hysteresisC then
      let since := state.tempBelowSince.getD now
      if cfg.stepDownIntervalS ≤ now - since then
        (state.level - 1, if state.level - 1 ≠ 0 then some now else none)
      else (state.level, some since)
    else (state.level, none)

/-- The candidates of `decide`, the ladder's first. -/
def candidates (powerOn : Bool) (level : ℕ) (tempC pkgW : Option ℚ) (cfg : FanConfig) :
    List (ℤ × FanReason) :=
  (match level, tempC with
    | level + 1, some tempC =>
      let (stepC, rpm) := (ladder cfg).getD level (0, 0)
      [(rpm, if stepC ≤ tempC then .temperature tempC stepC
        else .temperatureCooling rpm (stepC - cfg.hysteresisC) cfg.stepDownIntervalS)]
    | _, _ => []) ++
  (match powerOn, pkgW with
    | true, some pkgW =>
      [(cfg.powerFloorRpm, if cfg.powerFloorW ≤ pkgW then .power pkgW cfg.powerFloorW
        else .powerCooling cfg.powerFloorRpm (cfg.powerFloorW - powerHystW) cfg.stepDownIntervalS)]
    | _, _ => [])

/-- `max(cands, key=lambda x: x[0])`: the first of the greatest. -/
def greatest (first : ℤ × FanReason) (rest : List (ℤ × FanReason)) : ℤ × FanReason :=
  rest.foldl (fun top cand => if top.1 < cand.1 then cand else top) first

/-- `decide`: the new state, the target and its reason; a target 0 is the hardware
minimum. An input is none where it is not a number. -/
def decideFloor (state : FanState) (tempC pkgW : Option ℚ) (cfg : FanConfig) (now : ℚ) :
    FanState × ℤ × FanReason :=
  let (powerOn, powerSince) := powerRule state pkgW cfg now
  let (level, tempSince) := tempRule state tempC cfg now
  let new : FanState := ⟨powerOn, powerSince, level, tempSince⟩
  match candidates powerOn level tempC pkgW cfg with
  | [] => (new, 0, if tempC.isSome || pkgW.isSome then .belowThresholds else .noData)
  | first :: rest =>
    let (target, reason) := greatest first rest
    if cfg.maxRpm < target then (new, cfg.maxRpm, .capped reason cfg.maxRpm) else (new, target, reason)

/-! ## `FanController` -/

structure Fan where
  label : String
  max : Option ℤ
  rpm : Option ℤ
deriving DecidableEq, Repr

/-- Why a floor is taken not to have landed. -/
inductive FanError where
  | write (error : String)
  | unreadable (rpm : ℤ)
  | reads (got rpm : ℤ)
  | aboveMax (got max : ℤ)
deriving DecidableEq, Repr

/-- What the controller does: reads and writes of `fan{N}_min`, and events. -/
inductive FanEvent where
  | readMin (n : ℕ) (value : Option ℤ)
  | writeMin (n : ℕ) (rpm : ℤ)
  | floorError (n : ℕ) (rpm : ℤ) (error : FanError)
  | floor (targetRpm : ℤ)
  | restored
  | mode (mode : FanMode)
deriving DecidableEq, Repr

/-- What AppleSMC answers for one fan in one call. -/
structure FanAnswers where
  /-- `fan{N}_input` -/
  rpm : Option ℤ
  /-- `fan{N}_min` before `restore` writes -/
  min : Option ℤ
  writeError : Option String
  /-- `fan{N}_min` after the write -/
  readback : Option ℤ

structure FanController where
  fans : List (ℕ × Fan)
  /-- the hardware minimums -/
  defaults : ℕ → Option ℤ
  /-- what `fan{N}_min` holds, as far as we know -/
  written : ℕ → Option ℤ
  failed : ℕ → Option (ℤ × ℚ)
  state : FanState
  mode : Option FanMode
  targetRpm : ℤ
  reason : FanReason
  lastChange : Option ℚ
  writeErrors : ℕ
  trace : List FanEvent

namespace FanController

def emit (c : FanController) (e : FanEvent) : FanController := { c with trace := e :: c.trace }

/-- `_clamp`, for a fan with the default `lo`. -/
def clamp (lo : ℤ) (mx : Option ℤ) (target maxRpm : ℤ) : ℤ :=
  let hi := max lo (match mx with
    | some mx => min maxRpm mx
    | none => maxRpm)
  if target ≤ 0 then lo else min (max target lo) hi

/-- The readback of `_write`. -/
def landed (rpm : ℤ) (mx : Option ℤ) (got : Option ℤ) : Option FanError :=
  match got with
  | none => some (.unreadable rpm)
  | some got =>
    if readbackTolRpm < |got - rpm| then some (.reads got rpm)
    else
      match mx with
      | some mx => if mx < got then some (.aboveMax got mx) else none
      | none => none

/-- `_write`: none if the floor landed, else why not. -/
def write (c : FanController) (n : ℕ) (fan : Fan) (rpm : ℤ) (answers : FanAnswers) :
    Option FanError × FanController :=
  let c := c.emit (.writeMin n rpm)
  match answers.writeError with
  | some error => (some (.write error), c)
  | none => (landed rpm fan.max answers.readback, c.emit (.readMin n answers.readback))

/-- A write that landed. -/
def wrote (c : FanController) (n : ℕ) (rpm : ℤ) : FanController :=
  { c with
    written := Function.update c.written n (some rpm)
    failed := Function.update c.failed n none }

/-- A write that did not land. -/
def missed (c : FanController) (n : ℕ) (rpm : ℤ) (error : FanError) : FanController :=
  { c with
    written := Function.update c.written n none
    writeErrors := c.writeErrors + 1
    trace := .floorError n rpm error :: c.trace }

/-- Whether `apply` leaves a failed write alone for now. -/
def waits (c : FanController) (n : ℕ) (want : ℤ) (now : ℚ) : Bool :=
  match c.failed n with
  | some (rpm, since) => rpm = want ∧ now - since < retryS
  | none => false

/-- One fan of `apply`, and whether its floor changed. -/
def applyFan (c : FanController) (n : ℕ) (fan : Fan) (target maxRpm : ℤ) (now : ℚ)
    (answers : FanAnswers) : Bool × FanController :=
  match c.defaults n with
  | none => (false, c)
  | some lo =>
    let want := clamp lo fan.max target maxRpm
    if c.written n = some want ∨ c.waits n want now then (false, c)
    else
      let (error, c) := c.write n fan want answers
      match error with
      | some error =>
        (false, { c.missed n want error with failed := Function.update c.failed n (some (want, now)) })
      | none => (true, c.wrote n want)

/-- The loop of `apply`. -/
def applyFans (target maxRpm : ℤ) (now : ℚ) (answers : ℕ → FanAnswers) :
    List (ℕ × Fan) → Bool → FanController → Bool × FanController
  | [], changed, c => (changed, c)
  | (n, fan) :: fans, changed, c =>
    let (one, c) := c.applyFan n fan target maxRpm now (answers n)
    applyFans target maxRpm now answers fans (changed || one) c

/-- `apply`. -/
def apply (c : FanController) (target maxRpm : ℤ) (clock : ℚ) (answers : ℕ → FanAnswers) :
    FanController :=
  let (changed, c) := applyFans target maxRpm clock answers c.fans false c
  if changed then { c with lastChange := some clock, trace := .floor target :: c.trace } else c

/-- One fan of `restore`: whether it was restored by a write, and whether it is at its minimum. -/
def restoreFan (c : FanController) (n : ℕ) (fan : Fan) (answers : FanAnswers) :
    Bool × Bool × FanController :=
  match c.defaults n with
  | none => (false, true, c)
  | some d =>
    let c := c.emit (.readMin n answers.min)
    if answers.min = some d then
      (false, true, { c with written := Function.update c.written n (some d) })
    else
      let (error, c) := c.write n fan d answers
      match error with
      | some error => (false, false, c.missed n d error)
      | none => (true, true, c.wrote n d)

/-- The loop of `restore`. -/
def restoreFans (answers : ℕ → FanAnswers) :
    List (ℕ × Fan) → Bool → Bool → FanController → Bool × Bool × FanController
  | [], restored, ok, c => (restored, ok, c)
  | (n, fan) :: fans, restored, ok, c =>
    let (one, fine, c) := c.restoreFan n fan (answers n)
    restoreFans answers fans (restored || one) (ok && fine) c

/-- `restore`: true if all are restored. -/
def restore (c : FanController) (clock : ℚ) (answers : ℕ → FanAnswers) : Bool × FanController :=
  let c := { c with state := {}, targetRpm := 0 }
  let (restored, ok, c) := restoreFans answers c.fans false true c
  (ok, if restored then { c with lastChange := some clock, trace := .restored :: c.trace } else c)

/-- `start`. -/
def start (c : FanController) (cfg : FanConfig) (clock : ℚ) (answers : ℕ → FanAnswers) :
    FanController :=
  let c := { c with mode := some cfg.mode }
  if c.fans = [] then { c with reason := .noFans }
  else
    match cfg.mode with
    | .auto => { (c.restore clock answers).2 with reason := .auto }
    | .floor => { c with reason := .waiting }

/-- `_set_mode`. -/
def setMode (c : FanController) (mode : FanMode) (clock : ℚ) (answers : ℕ → FanAnswers) :
    FanController :=
  let c := { c with mode := some mode, state := {}, trace := .mode mode :: c.trace }
  match mode with
  | .auto => { (c.restore clock answers).2 with reason := .auto }
  | .floor => c

/-- `on_config`. -/
def onConfig (c : FanController) (cfg : FanConfig) (clock : ℚ) (answers : ℕ → FanAnswers) :
    FanController :=
  if cfg.mode = .auto ∧ c.mode ≠ some .auto then c.setMode .auto clock answers else c

/-- `tick`. -/
def tick (c : FanController) (now : ℚ) (tempC pkgW : Option ℚ) (cfg : FanConfig) (clock : ℚ)
    (answers : ℕ → FanAnswers) : FanController :=
  let c := if some cfg.mode ≠ c.mode then c.setMode cfg.mode clock answers else c
  let c := { c with fans := c.fans.map fun (n, fan) => (n, { fan with rpm := (answers n).rpm }) }
  if c.fans = [] then { c with reason := .noFans }
  else
    match cfg.mode with
    | .auto => c
    | .floor =>
      let (state, target, reason) := decideFloor c.state tempC pkgW cfg now
      { c with state := state, targetRpm := target, reason := reason }.apply target cfg.maxRpm clock
        answers

/-! ## `discover` -/

/-- `_plausible`, for a value that is an integer. -/
def plausibleMin (n : ℕ) (mx : Option ℤ) (v : ℤ) : Bool :=
  decide (0 < v) && (mx.all fun mx => v ≤ mx) &&
    ((knownHwMin n).all fun known => v ≤ known + captureSlackRpm)

/-- The minimums of a file or of a live reading, if there is a plausible one for every fan. -/
def allPlausible (fans : List (ℕ × Fan)) (mins : ℕ → Option ℤ) : Bool :=
  fans.all fun (n, fan) => (mins n).any fun v => plausibleMin n fan.max v

/-- A map with the keys of the fans. -/
def ofFans (fans : List (ℕ × Fan)) (mins : ℕ → Option ℤ) : ℕ → Option ℤ :=
  fun n => if fans.any fun item => item.1 = n then mins n else none

/-- What the known minimums stand in for. -/
def fallback (fans : List (ℕ × Fan)) (live : ℕ → Option ℤ) : ℕ → Option ℤ :=
  fun n => (fans.lookup n).bind fun fan =>
    match (live n).filter fun v => plausibleMin n fan.max v with
    | some v => some v
    | none => knownHwMin n

/-- `_load_or_capture`: the minimums, and the ones it saves. The file has none where
it is missing, unreadable or not of the expected form. -/
def loadOrCapture (fans : List (ℕ × Fan)) (file : Option (ℕ → Option ℤ)) (live : ℕ → Option ℤ) :
    (ℕ → Option ℤ) × Option (ℕ → Option ℤ) :=
  match file.filter (allPlausible fans) with
  | some saved => (ofFans fans saved, none)
  | none =>
    if allPlausible fans live then (ofFans fans live, some (ofFans fans live))
    else (fallback fans live, none)

/-- `__init__`: the fans with their numbers, labels, maxima and speeds, the live
minimums, and the file with the saved ones. -/
def discovered (fans : List (ℕ × Fan)) (live : ℕ → Option ℤ) (file : Option (ℕ → Option ℤ)) :
    FanController where
  fans := fans
  defaults := (loadOrCapture fans file live).1
  written := ofFans fans live
  failed := fun _ => none
  state := {}
  mode := none
  targetRpm := 0
  reason := .notStarted
  lastChange := none
  writeErrors := 0
  trace := (fans.map fun (n, _) => .readMin n (live n)).reverse

end FanController

end TurboMac.Linux
