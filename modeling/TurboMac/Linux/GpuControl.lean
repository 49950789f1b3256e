import TurboMac.Lib.Trace
import TurboMac.Linux.Gpu
import TurboMac.Linux.Rapl

/-! # `gpu.py`: how a mode is applied

The steps of `Gpu.apply_mode` and of `Gpu.read`. The machine is a `GpuPlatform` of
response functions: what a file reads and whether a write fails may depend on
everything that happened before, in any way. What happens is logged, newest first.
`switcheroo` answers with the clients that `parse_switcheroo` finds; the texts that are
appended to `steps` are left out.
-/

namespace TurboMac.Linux

open Program

/-! ## The machine -/

/-- A client of `vga_switcheroo`. -/
structure SwitcherooClient where
  active : Bool
  power : String
deriving DecidableEq, Repr

/-- The clients by name. -/
abbrev Switcheroo := List (String × SwitcherooClient)

/-- What is written to `vga_switcheroo`. -/
inductive SwitcherooCommand where
  | igd
  | off
  | on
  | dis
deriving DecidableEq, Repr

def SwitcherooCommand.text : SwitcherooCommand → String
  | .igd => "IGD"
  | .off => "OFF"
  | .on => "ON"
  | .dis => "DIS"

/-- The files of the amdgpu device other than `power_state`. -/
inductive AmdgpuFile where
  | power1Input
  | power1Average
  | power1Cap
  | power1CapMin
  | power1CapMax
  | temp1Input
  | gpuBusyPercent
  | ppDpmSclk
  | powerDpmForcePerformanceLevel
  | runtimeStatus
deriving DecidableEq, Repr

/-- An access to the machine with its answer; an error is that of a write that failed. -/
inductive GpuEvent where
  /-- the device and its `hwmon` -/
  | find (found : Option (String × Option String))
  | readSwitcheroo (clients : Option Switcheroo)
  | readPowerState (state : Option String)
  | writeSwitcheroo (command : SwitcherooCommand) (error : Option String)
  /-- the frame buffer console, if there is one -/
  | fbconBind (value : String) (console : Option String) (error : Option String)
  | sleep (seconds : ℚ)
  | existsFile (file : AmdgpuFile) (found : Bool)
  | readInt (file : AmdgpuFile) (value : Option ℤ)
  | readText (file : AmdgpuFile) (value : Option String)
  | writeCap (uw : ℤ) (error : Option String)
  | writeDpm (level : String) (error : Option String)
deriving DecidableEq, Repr

/-- The machine. -/
structure GpuPlatform where
  find : List GpuEvent → Option (String × Option String)
  switcheroo : List GpuEvent → Option Switcheroo
  powerState : List GpuEvent → Option String
  writeSwitcheroo : SwitcherooCommand → List GpuEvent → Option String
  console : List GpuEvent → Option String
  writeBind : String → List GpuEvent → Option String
  existsFile : AmdgpuFile → List GpuEvent → Bool
  readInt : AmdgpuFile → List GpuEvent → Option ℤ
  readText : AmdgpuFile → List GpuEvent → Option String
  writeCap : ℤ → List GpuEvent → Option String
  writeDpm : String → List GpuEvent → Option String

/-- The error of `_fbcon_bind`. -/
def GpuPlatform.bindError (p : GpuPlatform) (value : String) (events : List GpuEvent) : Option String :=
  match p.console events with
  | some _ => p.writeBind value events
  | none => some "no frame buffer vtconsole found"

/-- The answer of an event is the machine's. -/
def GpuPlatform.Answers (p : GpuPlatform) (events : List GpuEvent) : GpuEvent → Prop
  | .find found => found = p.find events
  | .readSwitcheroo clients => clients = p.switcheroo events
  | .readPowerState state => state = p.powerState events
  | .writeSwitcheroo command error => error = p.writeSwitcheroo command events
  | .fbconBind value console error => console = p.console events ∧ error = p.bindError value events
  | .sleep _ => True
  | .existsFile file found => found = p.existsFile file events
  | .readInt file value => value = p.readInt file events
  | .readText file value => value = p.readText file events
  | .writeCap uw error => error = p.writeCap uw events
  | .writeDpm level error => error = p.writeDpm level events

/-- The members of `class Gpu`, and all that happened so far. -/
structure GpuWorld where
  dev : Option String
  hwmon : Option String
  mode : Option GpuMode
  events : List GpuEvent
deriving DecidableEq, Repr

abbrev GpuM := StateM GpuWorld

/-- The world after an event. -/
def GpuWorld.logged (w : GpuWorld) (event : GpuEvent) : GpuWorld := { w with events := event :: w.events }

/-- One access to the machine. -/
def ask {α : Type} (answer : List GpuEvent → α) (event : α → GpuEvent) : GpuM α := do
  let w ← get
  modify fun w => w.logged (event (answer w.events))
  return answer w.events

/-! ## Errors -/

/-- The two verifications of `_apply_off`. -/
inductive VerifyPhase where
  | immediate
  | after (waitS : ℚ)
deriving DecidableEq, Repr

/-- What `_apply_off` and `_apply_on` return. -/
inductive GpuError where
  | noSwitcheroo
  | unbind (error : String)
  | command (cmd : SwitcherooCommand) (error : String)
  | notOff (phase : VerifyPhase)
  | stillD0 (phase : VerifyPhase)
  | noDevice
  | noHwmon
  | write (error : String)
  | capReads (got : Option ℤ) (capW : ℚ)
  | dpmReads (got : Option String) (level : String)
deriving DecidableEq, Repr

/-- The number format `:g`. -/
abbrev FormatG := ℚ → String

def VerifyPhase.text (g : FormatG) : VerifyPhase → String
  | .immediate => "immediate"
  | .after waitS => "after " ++ g waitS ++ " s"

def GpuError.text (g : FormatG) : GpuError → String
  | .noSwitcheroo => "vga_switcheroo not available (is debugfs mounted?)"
  | .unbind error => "fbcon unbind: " ++ error
  | .command cmd error => "switcheroo " ++ cmd.text ++ ": " ++ error
  | .notOff phase => "switcheroo does not report DIS Off (" ++ phase.text g ++ ")"
  | .stillD0 phase => "PCI power_state still D0 (" ++ phase.text g ++ ")"
  | .noDevice => "amdgpu device not found"
  | .noHwmon => "amdgpu hwmon not found"
  | .write error => error
  | .capReads got capW =>
    "power1_cap reads " ++ (got.elim "None" toString) ++ ", wanted " ++ g capW ++ " W"
  | .dpmReads got level => "dpm level reads " ++ got.getD "None" ++ ", wanted " ++ level

/-! ## Accesses -/

/-- `.get("DIS", {}).get("power") == "Off"`. -/
def disOffOf (clients : Option Switcheroo) : Bool :=
  ((clients.getD []).lookup "DIS").any fun client => client.power == "Off"

/-- `"DIS" in sw and "IGD" in sw`. -/
def hasClients (clients : Option Switcheroo) : Bool :=
  clients.any fun sw => (sw.lookup "DIS").isSome && (sw.lookup "IGD").isSome

section

variable (p : GpuPlatform)

def readSwitcheroo : GpuM (Option Switcheroo) := ask p.switcheroo .readSwitcheroo

/-- `_dis_off`. -/
def disOff : GpuM Bool := return disOffOf (← readSwitcheroo p)

/-- `power_state`. -/
def powerState : GpuM (Option String) := do
  if (← get).dev.isSome then ask p.powerState .readPowerState else return none

/-- `write_text(self.paths.switcheroo, cmd)`. -/
def writeSwitcheroo (command : SwitcherooCommand) : GpuM (Option String) :=
  ask (p.writeSwitcheroo command) (.writeSwitcheroo command)

/-- `_fbcon_bind`. -/
def fbconBind (value : String) : GpuM (Option String) := do
  let answer ← ask (fun events => (p.console events, p.bindError value events))
    fun answer => .fbconBind value answer.1 answer.2
  return answer.2

def sleep (seconds : ℚ) : GpuM Unit := ask (fun _ => ()) fun _ => .sleep seconds

def readInt (file : AmdgpuFile) : GpuM (Option ℤ) := ask (p.readInt file) (.readInt file)

def readText (file : AmdgpuFile) : GpuM (Option String) := ask (p.readText file) (.readText file)

def writeCap (uw : ℤ) : GpuM (Option String) := ask (p.writeCap uw) (.writeCap uw)

def writeDpm (level : String) : GpuM (Option String) := ask (p.writeDpm level) (.writeDpm level)

/-- `find`. -/
def find : GpuM Bool := do
  match ← ask p.find .find with
  | some (dev, hwmon) =>
    modify fun w => { w with dev := some dev, hwmon := hwmon }
    return true
  | none => return false

/-- `not self.dev or not self.hwmon`. -/
def GpuWorld.incomplete (w : GpuWorld) : Bool := w.dev.isNone || w.hwmon.isNone

/-- `find` where a member is missing; false if it finds nothing then. -/
def findMissing : GpuM Bool := do
  if (← get).incomplete then find p else return true

/-! ## Control -/

/-- `LOW_CAP_W`. -/
def lowCapW : ℚ := 10

/-- The cap that `_set_cap_dpm` writes, by what the two bounds read. -/
def clampedCapW (capW : ℚ) (capMin capMax : Option ℤ) : ℚ :=
  min (max capW (capMin.getD 0 / 1000000)) (capMax.getD 35000000 / 1000000)

/-- `_set_cap_dpm`. -/
def setCapDpm (capW : ℚ) (level : String) : GpuM (Option GpuError) := do
  let capMin ← readInt p .power1CapMin
  let capMax ← readInt p .power1CapMax
  -- `or`: a bound that reads 0 is taken as absent
  let cap := clampedCapW capW capMin (capMax.filter (· ≠ 0))
  match ← writeCap p (wToUw cap) with
  | some error => return some (.write error)
  | none =>
    match ← writeDpm p level with
    | some error => return some (.write error)
    | none =>
      let got ← readInt p .power1Cap
      if got.all fun uw => decide (1000000 ≤ |(uw : ℚ) - cap * 1000000|) then
        return some (.capReads got cap)
      else
        let lvl ← readText p .powerDpmForcePerformanceLevel
        if lvl ≠ some level then return some (.dpmReads lvl level) else return none

/-- `_power_on`. -/
def powerOn : GpuM Unit := do
  let _ ← writeSwitcheroo p .on
  let _ ← writeSwitcheroo p .dis
  let _ ← fbconBind p "1"

/-- `_apply_on` after the dGPU has been powered on. -/
def applyCap (mode : GpuMode) (capW : ℚ) : GpuM (Option GpuError) := do
  if !(← findMissing p) then return some .noDevice
  else if (← get).hwmon.isNone then return some .noHwmon
  else if mode = .low then setCapDpm p lowCapW "low"
  else setCapDpm p capW "auto"

/-- `_power_on` where `_dis_off`. -/
def powerOnIfOff : GpuM Unit := do
  if ← disOff p then powerOn p else return ()

/-- `_apply_on`. -/
def applyOn (mode : GpuMode) (capW : ℚ) : GpuM (Option GpuError) := do
  powerOnIfOff p
  applyCap p mode capW

/-- `done` of `_apply_off`. -/
structure Done where
  fbcon : Bool
  switcheroo : Bool
deriving DecidableEq, Repr

/-- One round of the loop at the end of `_apply_off`. -/
def verify (phase : VerifyPhase) : GpuM (Option GpuError) := do
  if !(← disOff p) then return some (.notOff phase)
  else if (← powerState p) = some "D0" then return some (.stillD0 phase)
  else return none

/-- `_apply_off`, with what it has appended to `done`. -/
def applyOff (waitS : ℚ) : GpuM (Option GpuError × Done) := do
  if !hasClients (← readSwitcheroo p) then return (some .noSwitcheroo, ⟨false, false⟩)
  else if ← disOff p then return (none, ⟨false, false⟩)
  else
    match ← fbconBind p "0" with
    | some error => return (some (.unbind error), ⟨false, false⟩)
    | none =>
      match ← writeSwitcheroo p .igd with
      | some error => return (some (.command .igd error), ⟨true, true⟩)
      | none =>
        match ← writeSwitcheroo p .off with
        | some error => return (some (.command .off error), ⟨true, true⟩)
        | none =>
          match ← verify p .immediate with
          | some error => return (some error, ⟨true, true⟩)
          | none =>
            sleep waitS
            return (← verify p (.after waitS), ⟨true, true⟩)

/-- The rollback of a failed `off`. -/
def rollBack (done : Done) : GpuM Unit := do
  if done.switcheroo then powerOn p
  else if done.fbcon then
    let _ ← fbconBind p "1"
  else return ()

/-- `self.mode = mode`. -/
def setMode (mode : GpuMode) : GpuM Unit := modify fun w => { w with mode := some mode }

/-- What `apply_mode` returns: whether it is ok, the mode, and the errors of `_apply_off`
and `_apply_on`. -/
structure GpuReport where
  ok : Bool
  mode : GpuMode
  off : Option GpuError
  on : Option GpuError
deriving DecidableEq, Repr

/-- `apply_mode`. -/
def applyGpuMode (mode : GpuMode) (capW waitS : ℚ) : GpuM GpuReport := do
  let _ ← findMissing p
  if mode = .off then
    match ← applyOff p waitS with
    | (none, _) =>
      setMode .off
      return ⟨true, .off, none, none⟩
    | (some res, done) =>
      rollBack p done
      let err ← applyOn p .low capW
      setMode .low
      return ⟨false, .low, some res, err⟩
  else
    let err ← applyOn p mode capW
    setMode mode
    return ⟨err.isNone, mode, none, err⟩

/-- What `reason` says. -/
def GpuReport.result (g : FormatG) (r : GpuReport) : GpuResult where
  ok := r.ok
  mode := r.mode
  reason :=
    match r.off, r.on with
    | none, none => if r.mode = .off then "dGPU off (switcheroo DIS Off)" else r.mode.name ++ " applied"
    | none, some err => err.text g
    | some res, none => res.text g
    | some res, some err => res.text g ++ "; revert: " ++ err.text g

/-! ## Construction and telemetry -/

/-- `__init__`. -/
def initGpu : GpuM Unit := do
  let _ ← find p
  if ← disOff p then setMode .off else return ()

/-- `parse_sclk`. -/
def parseSclk (text : Option String) : Option ℕ :=
  match ((text.getD "").splitOn "\n").find? fun line => line.trimAscii.endsWith "*" with
  | none => none
  | some line =>
    let parts := line.splitOn ":"
    let level := if parts.length = 1 then parts else parts.drop 1
    (String.ofList (level.flatMap fun part => part.toList.filter Char.isDigit)).toNat?

/-- The part of `read` that touches the amdgpu files. -/
structure GpuTelemetry where
  powerW : Option ℚ
  capW : Option ℚ
  capMinW : Option ℚ
  capMaxW : Option ℚ
  tempC : Option ℚ
  busyPct : Option ℤ
  sclkMhz : Option ℕ
  dpmLevel : Option String
  runtimeStatus : Option String
deriving DecidableEq, Repr

/-- What `read` returns. -/
structure GpuReading where
  mode : Option GpuMode
  present : Bool
  powerState : Option String
  switcheroo : Option (List (String × String))
  telemetry : Option GpuTelemetry
deriving DecidableEq, Repr

/-- `uw` of `read`. -/
def readWatts (file : AmdgpuFile) : GpuM (Option ℚ) := do
  return (← readInt p file).map fun uw => uw / 1000000

def readTelemetry : GpuM GpuTelemetry := do
  let temp ← readInt p .temp1Input
  let powerW ← if ← ask (p.existsFile .power1Input) (.existsFile .power1Input) then
      readWatts p .power1Input
    else readWatts p .power1Average
  let capW ← readWatts p .power1Cap
  let capMinW ← readWatts p .power1CapMin
  let capMaxW ← readWatts p .power1CapMax
  let busyPct ← readInt p .gpuBusyPercent
  let sclk ← readText p .ppDpmSclk
  let dpmLevel ← readText p .powerDpmForcePerformanceLevel
  let runtimeStatus ← readText p .runtimeStatus
  return {
    powerW := powerW
    capW := capW
    capMinW := capMinW
    capMaxW := capMaxW
    tempC := temp.map fun t => t / 1000
    busyPct := busyPct
    sclkMhz := parseSclk sclk
    dpmLevel := dpmLevel
    runtimeStatus := runtimeStatus }

/-- `read`; it is `busy` while `apply_mode` runs. -/
def readGpu (busy : Bool) : GpuM GpuReading := do
  let w ← get
  let state ← powerState p
  let sw ← readSwitcheroo p
  let clients := sw.map fun sw =>
    sw.map fun item => (item.1, (if item.2.active then "+" else " ") ++ ":" ++ item.2.power)
  if w.mode = some .off || busy || w.dev.isNone then
    return ⟨w.mode, w.dev.isSome, state, clients, none⟩
  else
    let telemetry ← readTelemetry p
    return ⟨w.mode, w.dev.isSome, state, clients, some telemetry⟩

end

end TurboMac.Linux
