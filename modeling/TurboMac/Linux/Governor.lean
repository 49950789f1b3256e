import TurboMac.Linux.Config

/-! # `governor.py`: the pure governor

`step(state, sample, config, now) -> (new_state, actions)`, translated path by
path. Floats are exact rationals; the `-inf` stamps are `none`. The two texts
that only the log reads are kept as data: `last_action` is the write it
describes, a fallback reason is its cause.
-/

namespace TurboMac.Linux

/-- The states of the governor. -/
inductive State where
  | normal
  | trim
  | emergency
  | fallback
  | static
  | off
deriving DecidableEq, Repr

def reassertS : ℚ := 10
def cutMinIntervalS : ℚ := 1 / 2
def emergencyHoldS : ℚ := 5
def backoffMaxS : ℚ := 8

/-- Why the governor is in FALLBACK. -/
inductive FallbackReason where
  /-- `readback mismatch: {reason}` -/
  | readbackMismatch (reason : String)
  /-- `stale SMC telemetry (no valid sample for >= {timeout} s)` -/
  | staleTelemetry (timeoutS : ℚ)
deriving DecidableEq, Repr

/-- The `reason` of a `set_limits` action. -/
inductive WriteReason where
  | off
  | fallback
  | emergency
  | static
  | normal
  | trim
  | reassert
deriving DecidableEq, Repr

inductive Event where
  | state (fromState toState : State) (reason : Option FallbackReason)
  | fallback (reason : FallbackReason)
  | retryScheduled (backoffS : ℚ) (reason : FallbackReason)
  | retry (reason : Option FallbackReason)
  | emergency (inputW emergencyW floorW : ℚ) (duringFallback : Bool)
  | cut (fromW toW inputMeanW shedW : ℚ)
  | recover (fromW toW inputMeanW : ℚ)
  | thermalTrim (fromW toW pkgC trimC : ℚ)
  | thermalRecover (fromW toW pkgC : ℚ)
deriving DecidableEq, Repr

/-- What the daemon applies after a step. -/
inductive Action where
  | setLimits (pl1W pl2W : ℚ) (reason : WriteReason)
  | event (e : Event)
deriving DecidableEq, Repr

structure Counters where
  cuts : ℕ
  emergencies : ℕ
  fallbacks : ℕ
  recoveries : ℕ
  writes : ℕ
  readbackFailures : ℕ
  thermalTrims : ℕ
deriving DecidableEq, Repr

/-- `GovState`. -/
structure GovState where
  state : State
  since : ℚ
  started : ℚ
  /-- last commanded limits -/
  pl1W : Option ℚ
  pl2W : Option ℚ
  lastWrite : Option ℚ
  lastCut : Option ℚ
  lastValid : Option ℚ
  lastStep : Option ℚ
  belowShedSince : Option ℚ
  belowRecoverSince : Option ℚ
  fallbackReason : Option FallbackReason
  retryAt : Option ℚ
  backoffS : ℚ
  fwPl1W : Option ℚ
  fwPl2W : Option ℚ
  lastAction : Option (WriteReason × ℚ × ℚ)
  /-- effective ceiling while the thermal trim holds it below `ceiling_w` -/
  thermalCapW : Option ℚ
  lastThermal : Option ℚ
  counters : Counters
  timeInState : State → Option ℚ

/-- The firmware limits the daemon found, if any. -/
structure Firmware where
  pl1W : Option ℚ
  pl2W : Option ℚ
deriving DecidableEq, Repr

/-- `initial`. -/
def initial (now : ℚ) (firmware : Firmware) : GovState where
  state := .off
  since := now
  started := now
  pl1W := none
  pl2W := none
  lastWrite := none
  lastCut := none
  lastValid := none
  lastStep := none
  belowShedSince := none
  belowRecoverSince := none
  fallbackReason := none
  retryAt := none
  backoffS := 0
  fwPl1W := firmware.pl1W
  fwPl2W := firmware.pl2W
  lastAction := none
  thermalCapW := none
  lastThermal := none
  counters := ⟨0, 0, 0, 0, 0, 0, 0⟩
  timeInState := fun _ => none

/-! ## Samples -/

/-- A sample value. `other` is everything else `_num` refuses: a bool, a NaN,
an infinity. -/
inductive Reading where
  | none
  | other
  | num (v : ℚ)
deriving DecidableEq, Repr

/-- `_num`, together with the number it vouches for. -/
def Reading.num? : Reading → Option ℚ
  | .num v => some v
  | _ => Option.none

/-- The readback of the last write, reported in the next sample. -/
structure Readback where
  ok : Bool
  reason : Option String
deriving DecidableEq, Repr

structure Sample where
  pdtrW : Reading
  inputMean1s : Reading
  acpwW : Reading
  pkgC : Reading
  readback : Option Readback
deriving DecidableEq, Repr

/-- The readings of a valid sample: `pdtr_w` and `acpw_w > 0`. -/
def Sample.valid? (sample : Sample) : Option (ℚ × ℚ) :=
  match sample.pdtrW.num?, sample.acpwW.num? with
  | some pdtr, some acpw => if 0 < acpw then some (pdtr, acpw) else none
  | _, _ => none

/-- `m = mean if _num(mean) else pdtr`. -/
def Sample.mean (sample : Sample) (pdtr : ℚ) : ℚ :=
  sample.inputMean1s.num?.getD pdtr

structure Thresholds where
  shedW : ℚ
  emergencyW : ℚ
  recoverW : ℚ
deriving DecidableEq, Repr

/-- `thresholds`, past its test for a missing or zero ACPW, which a valid
sample never meets. -/
def thresholds (acpwW : ℚ) (g : GovernorConfig) : Thresholds where
  shedW := acpwW * g.shedRatio
  emergencyW := acpwW * g.emergencyRatio
  recoverW := acpwW * g.recoverRatio

/-- `round(x, 2)`: to the nearest hundredth, ties to even. -/
def round2 (x : ℚ) : ℚ :=
  let n := ⌊x * 100⌋
  let rest := x * 100 - n
  let rounded := if rest < 1 / 2 ∨ rest = 1 / 2 ∧ n % 2 = 0 then n else n + 1
  rounded / 100

/-- `now - last >= span`, for a stamp that starts at `-inf`. -/
def Elapsed (now : ℚ) (last : Option ℚ) (span : ℚ) : Prop :=
  ∀ l ∈ last, span ≤ now - l

instance (now : ℚ) (last : Option ℚ) (span : ℚ) : Decidable (Elapsed now last span) :=
  inferInstanceAs (Decidable (∀ l ∈ last, span ≤ now - l))

/-! ## The working copy of one step -/

/-- `_Step`: the working state, the configuration, the time and the actions so
far. -/
structure Step where
  s : GovState
  g : GovernorConfig
  now : ℚ
  actions : List Action

namespace Step

variable (w : Step)

/-- `_Step.event`. -/
def event (e : Event) : Step := { w with actions := w.actions ++ [.event e] }

/-- `_Step.enter`. -/
def enter (new : State) (reason : Option FallbackReason) : Step :=
  if new ≠ w.s.state then
    let w := w.event (.state w.s.state new reason)
    { w with s.state := new, s.since := w.now }
  else w

/-- `fw or HARD_MAX_W`: no firmware limit, or a zero one, is the hard maximum. -/
def orHardMax : Option ℚ → ℚ
  | some fw => if fw = 0 then hardMaxW else fw
  | none => hardMaxW

/-- `_Step.cap1`. -/
def cap1 (watts : ℚ) : ℚ := min (min watts hardMaxW) (orHardMax w.s.fwPl1W)

/-- `floor` of `step`: the emergency target. -/
def floor : ℚ := min w.g.floorW w.g.staticCapW

/-- `top` of `step`: the highest PL1 the dynamic loop may recover to. -/
def top : ℚ := w.cap1 (max w.g.ceilingW w.g.staticCapW)

/-- The clamp of `_Step.write` on PL2. -/
def cap2 (watts : ℚ) : ℚ := min (min watts hardMaxW) (orHardMax w.s.fwPl2W)

/-- `_Step.write`. -/
def write (pl1 pl2 : ℚ) (reason : WriteReason) (force : Bool) : Step :=
  let pl1 := w.cap1 pl1
  let pl2 := w.cap2 pl2
  let due := Elapsed w.now w.s.lastWrite reassertS
  let unchanged := some pl1 = w.s.pl1W ∧ some pl2 = w.s.pl2W
  if force = false ∧ ¬ due ∧ unchanged then w
  else
    let reason := if unchanged ∧ force = false then .reassert else reason
    { w with
      actions := w.actions ++ [.setLimits pl1 pl2 reason]
      s.pl1W := some pl1
      s.pl2W := some pl2
      s.lastWrite := some w.now
      s.counters.writes := w.s.counters.writes + 1
      s.lastAction := some (reason, pl1, pl2) }

/-- The cap a thermal trim starts from: what is commanded, if that is lower. -/
def thermalStart (cap : ℚ) : ℚ :=
  match w.s.pl1W with
  | some pl1 => min cap pl1
  | none => cap

/-- The cap in force before this step's thermal rule. -/
def thermalHeld (floor ceiling : ℚ) : ℚ :=
  match w.s.thermalCapW, w.g.thermalTrimC with
  | some cap, some _ => min (max cap floor) ceiling
  | _, _ => ceiling

/-- `_Step.thermal`: rule 8, the effective ceiling. -/
def thermal (tempC : Reading) (floor ceiling : ℚ) : ℚ × Step :=
  let cap := w.thermalHeld floor ceiling
  let (cap, w) :=
    match w.g.thermalTrimC, tempC.num? with
    | some trimC, some temp =>
      if Elapsed w.now w.s.lastThermal w.g.thermalIntervalS then
        if trimC ≤ temp then
          let start := w.thermalStart cap
          -- with PL1 at the floor nothing is trimmed, however high the cap is
          if floor < start then
            let target := max floor (start - w.g.thermalStepW)
            let w := { w with
              s.lastThermal := some w.now
              s.counters.thermalTrims := w.s.counters.thermalTrims + 1 }
            (target, w.event (.thermalTrim cap target temp trimC))
          else (cap, w)
        else if temp < w.g.thermalRecoverC ∧ cap < ceiling then
          let target := min ceiling (cap + w.g.thermalStepW)
          let w := { w with s.lastThermal := some w.now }
          (target, w.event (.thermalRecover cap target temp))
        else (cap, w)
      else (cap, w)
    | _, _ => (cap, w)
  (cap, { w with s.thermalCapW := if cap < ceiling then some cap else none })

/-- `_Step.fallback_w`: the static cap, but never above what is commanded. -/
def fallbackW (static : ℚ) : ℚ :=
  match w.s.pl1W with
  | some pl1 => min static pl1
  | none => static

/-- Both below-threshold timers restart. -/
def clearBelow : Step := { w with s.belowShedSince := none, s.belowRecoverSince := none }

/-- `_Step.fallback`. -/
def fallback (reason : FallbackReason) (static : ℚ) : Step :=
  let w :=
    if w.s.state ≠ .fallback then
      let w := { w with s.counters.fallbacks := w.s.counters.fallbacks + 1 }
      w.event (.fallback reason)
    else w
  let w := { w with s.fallbackReason := some reason }
  let w := (w.enter .fallback (some reason)).clearBelow
  let fb := w.fallbackW static
  w.write fb fb .fallback true

/-! ### The paths of `step` -/

/-- Mode `off`: on leaving governed control the static cap is put back once. -/
def runOff : Step :=
  let w := { w with s.retryAt := none, s.fallbackReason := none, s.thermalCapW := none }
  let w :=
    if w.s.state ≠ .off then w.write w.g.staticCapW w.g.staticCapW .off true else w
  w.enter .off none

/-- A good readback of the previous write resets the backoff, but not in
FALLBACK. -/
def readbackOk : Step := if w.s.state ≠ .fallback then { w with s.backoffS := 0 } else w

/-- A failed readback of the previous write (rule 6). -/
def readbackFailed (rb : Readback) : Step :=
  let w := { w with s.counters.readbackFailures := w.s.counters.readbackFailures + 1 }
  let backoff := if w.s.backoffS ≤ 0 then 1 else min backoffMaxS (w.s.backoffS * 2)
  let w := { w with s.backoffS := backoff, s.retryAt := some (w.now + backoff) }
  let reason := FallbackReason.readbackMismatch (rb.reason.getD "?")
  let w :=
    if w.s.state ≠ .fallback then w.fallback reason w.g.staticCapW
    else { w with s.fallbackReason := some reason }
  w.event (.retryScheduled w.s.backoffS reason)

/-- `s.pl1_w is None or s.pl1_w > floor`. -/
def AboveFloor : Prop := ∀ pl1 ∈ w.s.pl1W, w.floor < pl1

instance : Decidable w.AboveFloor :=
  inferInstanceAs (Decidable (∀ pl1 ∈ w.s.pl1W, w.floor < pl1))

/-- FALLBACK before its retry time: rule 2 still applies. -/
def wait (sample : Sample) : Step :=
  match sample.valid? with
  | some (pdtr, acpw) =>
    let th := thresholds acpw w.g
    if w.g.mode = .dynamic ∧ th.emergencyW ≤ pdtr ∧ w.AboveFloor then
      let w := { w with s.counters.emergencies := w.s.counters.emergencies + 1 }
      let w := w.event (.emergency (round2 pdtr) (round2 th.emergencyW) w.floor true)
      w.write w.floor w.floor .emergency true
    else w
  | none => w

/-- Mode `static`. -/
def runStatic (force : Bool) : Step :=
  let w := { w with s.fallbackReason := none, s.thermalCapW := none }
  let force := force || decide (w.s.state ≠ .static)
  (w.enter .static none).write w.g.staticCapW w.g.staticCapW .static force

/-- No valid sample for `stale_timeout_s`. -/
def Stale : Prop := w.g.staleTimeoutS ≤ w.now - w.s.lastValid.getD w.s.started

instance : Decidable w.Stale := inferInstanceAs (Decidable (_ ≤ _))

/-- Stale telemetry: the static cap (rule 7). -/
def runStale (retried : Bool) : Step :=
  let reason := FallbackReason.staleTelemetry w.g.staleTimeoutS
  if w.s.state ≠ .fallback then
    let w := { w with s.retryAt := none }
    w.fallback reason w.g.staticCapW
  else
    let w := { w with s.fallbackReason := some reason }
    let fb := w.fallbackW w.g.staticCapW
    w.write fb fb .fallback retried

/-- `NORMAL if pl1 >= top else TRIM`. -/
def label (pl1 : ℚ) : State := if w.top ≤ pl1 then .normal else .trim

/-- What the control rules settle: the next state and PL1. -/
structure Decision where
  new : State
  pl1 : ℚ
  w : Step

/-- Rule 2: `pdtr_w` at or above emergency is the floor, now. -/
def rule2 (pdtr : ℚ) (th : Thresholds) : Decision :=
  let floor := w.floor
  let w :=
    if w.s.state ≠ .emergency then
      let w := { w with s.counters.emergencies := w.s.counters.emergencies + 1 }
      w.event (.emergency (round2 pdtr) (round2 th.emergencyW) floor false)
    else w
  ⟨.emergency, floor, w.clearBelow⟩

/-- Rule 3: the mean at or above shed is a cut, at most one per
`CUT_MIN_INTERVAL_S`; EMERGENCY just holds. -/
def rule3 (m : ℚ) (th : Thresholds) (new : State) (pl1 : ℚ) : Decision :=
  let w := w.clearBelow
  if w.s.state ≠ .emergency then
    if Elapsed w.now w.s.lastCut cutMinIntervalS ∧ w.floor < pl1 then
      let target := max w.floor (pl1 - w.g.cutStepW)
      let w := { w with
        s.lastCut := some w.now
        s.counters.cuts := w.s.counters.cuts + 1 }
      ⟨.trim, target, w.event (.cut pl1 target (round2 m) (round2 th.shedW))⟩
    else ⟨.trim, pl1, w⟩
  else ⟨new, pl1, w⟩

/-- Rule 5: EMERGENCY leaves to TRIM after `EMERGENCY_HOLD_S` below shed. -/
def rule5 (new : State) (pl1 : ℚ) : Decision :=
  if Elapsed w.now w.s.belowShedSince emergencyHoldS then
    ⟨.trim, pl1, { w with s.belowRecoverSince := none }⟩
  else ⟨new, pl1, w⟩

/-- Rule 4: `recover_interval_s` below recover is one step up. -/
def rule4 (m : ℚ) (th : Thresholds) (ceiling pl1 : ℚ) : Decision :=
  let label := w.label
  let (pl1, w) :=
    if m < th.recoverW then
      match w.s.belowRecoverSince with
      | none => (pl1, { w with s.belowRecoverSince := some w.now })
      | some since =>
        if w.g.recoverIntervalS ≤ w.now - since ∧ pl1 < ceiling then
          let target := min ceiling (pl1 + w.g.recoverStepW)
          let w := { w with
            s.belowRecoverSince := some w.now
            s.counters.recoveries := w.s.counters.recoveries + 1 }
          (target, w.event (.recover pl1 target (round2 m)))
        else (pl1, w)
    else (pl1, { w with s.belowRecoverSince := none })
  ⟨label pl1, pl1, w⟩

/-- `below_shed_since` starts with the first mean below shed. -/
def belowShed : Step :=
  { w with s.belowShedSince := some (w.s.belowShedSince.getD w.now) }

/-- Rules 2 to 5 on a valid sample. -/
def rules (pdtr m : ℚ) (th : Thresholds) (ceiling : ℚ) (new : State) (pl1 : ℚ) : Decision :=
  if th.emergencyW ≤ pdtr then w.rule2 pdtr th
  else if th.shedW ≤ m then w.rule3 m th new pl1
  else if w.s.state = .emergency then w.belowShed.rule5 new pl1
  else w.belowShed.rule4 m th ceiling pl1

/-- Not under control yet, or no longer: FALLBACK, STATIC, OFF. -/
def Resume : Prop :=
  (w.s.state ≠ .normal ∧ w.s.state ≠ .trim ∧ w.s.state ≠ .emergency) ∨ w.s.pl1W = none

instance : Decidable w.Resume := inferInstanceAs (Decidable (_ ∨ _))

/-- The limit under control, or the one to resume from. -/
def resumePl1 : ℚ :=
  if w.Resume then
    -- leaving fallback never raises the limit; recover slowly from here
    if w.s.state = .fallback then w.fallbackW w.g.staticCapW else w.g.staticCapW
  else w.s.pl1W.getD w.g.staticCapW

/-- PL1 before the rules. -/
def entryPl1 (ceiling : ℚ) : ℚ := min (max w.resumePl1 w.floor) ceiling

/-- The state before the rules. -/
def entryState (ceiling : ℚ) : State :=
  if w.Resume then w.label (w.entryPl1 ceiling) else w.s.state

/-- The rules, on a valid sample; an invalid one that is not stale yet settles
nothing. -/
def decision (sample : Sample) (ceiling : ℚ) : Decision :=
  match sample.valid? with
  | some (pdtr, acpw) =>
    w.rules pdtr (sample.mean pdtr) (thresholds acpw w.g) ceiling
      (w.entryState ceiling) (w.entryPl1 ceiling)
  | none => ⟨w.entryState ceiling, w.entryPl1 ceiling, w⟩

/-- `new.lower()`. -/
def reasonOf : State → WriteReason
  | .normal => .normal
  | .trim => .trim
  | .emergency => .emergency
  | .fallback => .fallback
  | .static => .static
  | .off => .off

/-- The end of `step`: enter the settled state and command its limits. -/
def settle (d : Decision) (force : Bool) : Step :=
  let w := ({ d.w with s.fallbackReason := none }).enter d.new none
  let pl2 := if d.new = .normal ∨ d.new = .trim then d.pl1 + w.g.burstW else d.pl1
  w.write d.pl1 pl2 (reasonOf d.new) force

/-- Dynamic mode with fresh telemetry. -/
def control (sample : Sample) (force : Bool) : Step :=
  let (ceiling, w) := w.thermal sample.pkgC w.floor w.top
  settle (w.decision sample ceiling) (force || decide w.Resume)

/-- Static or dynamic mode, once readback and retry are out of the way. -/
def govern (sample : Sample) (force retried : Bool) : Step :=
  if w.g.mode = .static then w.runStatic force
  else if w.Stale then w.runStale retried
  else w.control sample force

/-- The retry of a FALLBACK, before the mode is looked at. -/
def retry (sample : Sample) (force : Bool) : Step :=
  match w.s.retryAt with
  | some retryAt =>
    if w.s.state = .fallback then
      if w.now < retryAt then w.wait sample
      else
        let w := { w with s.retryAt := none }
        (w.event (.retry w.s.fallbackReason)).govern sample force true
    else w.govern sample force false
  | none => w.govern sample force false

/-- `_Step.__init__` and the bookkeeping at the top of `step`. -/
def start (state : GovState) (sample : Sample) (g : GovernorConfig) (now : ℚ) : Step where
  s := { state with
    timeInState :=
      match state.lastStep with
      | some last =>
        if last < now then
          Function.update state.timeInState state.state
            (some ((state.timeInState state.state).getD 0 + (now - last)))
        else state.timeInState
      | none => state.timeInState
    lastStep := some now
    lastValid := if sample.valid?.isSome then some now else state.lastValid }
  g := g
  now := now
  actions := []

/-- The body of `step` on the working copy. -/
def run (sample : Sample) : Step :=
  if w.g.mode = .off then w.runOff
  else
    let force := decide (w.s.state = .off ∨ w.s.state = .fallback)
    match sample.readback with
    | some rb =>
      if rb.ok then w.readbackOk.retry sample force else w.readbackFailed rb
    | none => w.retry sample force

end Step

/-- `step`. -/
def step (state : GovState) (sample : Sample) (g : GovernorConfig) (now : ℚ) :
    GovState × List Action :=
  let w := (Step.start state sample g now).run sample
  (w.s, w.actions)

end TurboMac.Linux
