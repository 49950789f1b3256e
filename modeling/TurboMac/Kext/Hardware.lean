import TurboMac.Lib.Program
import TurboMac.Kext.Codec

/-! # The driver's state and the hardware it talks to

`Driver` has the members of `class TurboMac` that its operations use, the `hwp*`
ones grouped in `HWP`. The hardware is a `Platform` of response functions: what
an MSR read, a rendezvous, CPUID or the clock returns may depend on everything
that happened before, in any way. What happens is logged, newest first, each
event with the driver state at its time.
-/

namespace TurboMac.Kext

/-! ## Protocol -/

/-- `TURBOMAC_PROTOCOL_VERSION`. -/
def protocolVersion : U32 := 3

/-- `kMaximumLogicalCPUs`. -/
abbrev maximumLogicalCPUs : ℕ := 64

/-- An index into the per-CPU arrays. -/
abbrev CPU := Fin maximumLogicalCPUs

instance : NeZero maximumLogicalCPUs := ⟨by decide⟩

/-- `TurboMacDriverState`. -/
inductive DriverState where
  | passive
  | armed
  | failsafe
deriving DecidableEq, Repr

/-- `TurboMacRestoreReason`. -/
inductive RestoreReason where
  | none
  | requested
  | clientClosed
  | watchdog
  | readbackMismatch
  | invalidRequest
  | driverStop
deriving DecidableEq, Repr

/-- `IOReturn`. -/
inductive IOReturn where
  | success
  | error
  | unsupported
  | busy
  | badArgument
  | notPermitted
  | notOpen
deriving DecidableEq, Repr

/-- `TurboMacHWPMode`, as it travels in `hwp_mode`. -/
def hwpModeInvalid : U32 := 0
def hwpReleaseMaximum : U32 := 1
def hwpBootstrapAndReleaseMaximum : U32 := 2

/-- `TurboMacLimitRequest`. -/
structure LimitRequest where
  version : U32
  size : U32
  pl1MW : U32
  pl2MW : U32
  watchdogTimeoutMS : U32
  hwpMode : U32
  sequence : U64
deriving DecidableEq, Repr

/-- `TurboMacCommandRequest`. -/
structure CommandRequest where
  version : U32
  size : U32
  sequence : U64
deriving DecidableEq, Repr

/-- `sizeof(TurboMacLimitRequest)` and `sizeof(TurboMacCommandRequest)`. -/
def limitRequestSize : U32 := 32
def commandRequestSize : U32 := 16

/-! ## Members -/

/-- The `hwp*` members. -/
structure HWP where
  cpuidEAX : U32
  mode : U32
  pmEnableRaw : U64
  capabilitiesRaw : U64
  capturedPackageRequest : U64
  expectedPackageRequest : U64
  failSafeRequest : U64
  capturedRequests : CPU → U64
  expectedRequests : CPU → U64
  capturedPresent : CPU → Bool
  supported : Bool
  enabled : Bool
  eppSupported : Bool
  flexibleRequestFields : Bool
  packageRequestSupported : Bool
  captured : Bool
  overrideActive : Bool
  enabledByTurboMac : Bool
  failSafeActive : Bool

/-- An `IOTimerEventSource`: the timeout it is set to, if any. -/
structure Timer where
  timeoutMS : Option U32
deriving DecidableEq, Repr

/-- The members of `class TurboMac`. -/
structure Driver where
  /-- null before `start` and after `stop` -/
  watchdog : Option Timer
  clientReserved : Bool
  supported : Bool
  captured : Bool
  state : DriverState
  restoreReason : RestoreReason
  powerExponent : U32
  energyExponent : U32
  floorMW : U32
  capabilityMaximumMW : U32
  thermalSpecMW : U32
  ceilingPL1MW : U32
  ceilingPL2MW : U32
  appliedPL1MW : U32
  appliedPL2MW : U32
  watchdogTimeoutMS : U32
  cpuFamily : U32
  cpuModel : U32
  cpuStepping : U32
  logicalCPUCount : U32
  unitsRaw : U64
  powerInfoRaw : U64
  capturedPackageLimit : U64
  capturedPowerControl : U64
  currentPowerControl : U64
  expectedPackageLimit : U64
  lastSequence : U64
  lastHeartbeat : U64
  hwp : HWP

/-! ## MSRs and rendezvous -/

def msrRAPLPowerUnit : U32 := 0x606
def msrPackagePowerLimit : U32 := 0x610
def msrPackagePowerInfo : U32 := 0x614
def msrHWPEnable : U32 := 0x770
def msrHWPCapabilities : U32 := 0x771
def msrHWPPackageRequest : U32 := 0x772

/-- `kEnableBidirProchot`: Apple's bidirectional PROCHOT guard. -/
def enableBidirProchot : U64 := 1

/-- `kHWPEnable`. -/
def hwpEnableBit : U64 := 1

/-- `PowerControlOperation`. -/
inductive PowerControlOperation where
  | read
  | clearGuard
  | setGuard
deriving DecidableEq, Repr

/-- What the operation writes over a value of MSR 0x1fc, if it writes. -/
def PowerControlOperation.write : PowerControlOperation → U64 → Option U64
  | .read, _ => none
  | .clearGuard, value => some (value &&& ~~~enableBidirProchot)
  | .setGuard, value => some (value ||| enableBidirProchot)

/-- One CPU's answers in a power-control rendezvous: MSR 0x1fc, and what it reads
back after a write. -/
structure PowerControlCPU where
  value : U64
  readback : U64 → U64

/-- The value the CPU leaves in the broadcast. -/
def PowerControlCPU.answer (cpu : PowerControlCPU) (operation : PowerControlOperation) : U64 :=
  match operation.write cpu.value with
  | some written => cpu.readback written
  | none => cpu.value

/-- One CPU's answers in an HWP-enable rendezvous. -/
structure HWPEnableCPU where
  number : ℤ
  enable : U64

/-- `HWPRequestOperation`, with the targets of a write. -/
inductive HWPRequestOperation where
  | read
  | write (targets : CPU → U64) (targetPresent : CPU → Bool)

/-- One CPU's answers in an HWP-request rendezvous. -/
structure HWPRequestCPU where
  number : ℤ
  enable : U64
  request : U64
  readback : U64 → U64

/-- What the driver does to the hardware, with the answers. -/
inductive Event where
  | rdmsr (msr : U32) (value : U64)
  | wrmsr (msr : U32) (value : U64)
  | powerControl (operation : PowerControlOperation) (cpus : List PowerControlCPU)
  | hwpEnable (cpus : List HWPEnableCPU)
  | hwpRequest (operation : HWPRequestOperation) (cpus : List HWPRequestCPU)
  | cpuid (leaf eax : U32)
  | machAbsoluteTime (value : U64)

/-- An event and the driver state at its time. -/
structure Entry where
  event : Event
  driver : Driver

/-- The hardware. -/
structure Platform where
  rdmsr : List Entry → U32 → U64
  powerControl : List Entry → PowerControlOperation → List PowerControlCPU
  hwpEnable : List Entry → List HWPEnableCPU
  hwpRequest : List Entry → HWPRequestOperation → List HWPRequestCPU
  cpuid : List Entry → U32 → U32
  machAbsoluteTime : List Entry → U64
  absolutetimeToNanoseconds : U64 → U64

/-- The driver and all that happened so far, newest first. -/
structure World where
  driver : Driver
  log : List Entry

/-- The world after an event. -/
def World.logged (w : World) (event : Event) : World := ⟨w.driver, ⟨event, w.driver⟩ :: w.log⟩

abbrev DriverM := StateM World

/-- Log an event. -/
def emit (event : Event) : DriverM Unit :=
  modify fun w => w.logged event

/-- Assign members. -/
def assign (f : Driver → Driver) : DriverM Unit := modify fun w => { w with driver := f w.driver }

/-- Assign `hwp*` members. -/
def assignHWP (f : HWP → HWP) : DriverM Unit := assign fun d => { d with hwp := f d.hwp }

/-- A C `if` with nothing after its `else`. -/
def doIf (condition : Bool) (m : DriverM Unit) : DriverM Unit := if condition then m else pure ()

def getDriver : DriverM Driver := return (← get).driver

def getHWP : DriverM HWP := return (← get).driver.hwp

section

open Program

@[simp] theorem exec_assign (f : Driver → Driver) (w : World) :
    exec (assign f) w = ((), { w with driver := f w.driver }) := rfl

@[simp] theorem exec_assignHWP (f : HWP → HWP) (w : World) :
    exec (assignHWP f) w =
      ((), { w with driver := { w.driver with hwp := f w.driver.hwp } }) := rfl

@[simp] theorem exec_getDriver (w : World) : exec getDriver w = (w.driver, w) := rfl

@[simp] theorem exec_getHWP (w : World) : exec getHWP w = (w.driver.hwp, w) := rfl

@[simp] theorem exec_doIf (condition : Bool) (m : DriverM Unit) (w : World) :
    exec (doIf condition m) w = if condition then exec m w else ((), w) := by
  cases condition <;> rfl

end

section

variable (P : Platform)

def rdmsr64 (msr : U32) : DriverM U64 := do
  let w ← get
  let value := P.rdmsr w.log msr
  emit (.rdmsr msr value)
  return value

def wrmsr64 (msr : U32) (value : U64) : DriverM Unit := emit (.wrmsr msr value)

def readAbsoluteTime : DriverM U64 := do
  let w ← get
  let value := P.machAbsoluteTime w.log
  emit (.machAbsoluteTime value)
  return value

/-- EAX of a CPUID leaf. -/
def cpuid (leaf : U32) : DriverM U32 := do
  let w ← get
  let eax := P.cpuid w.log leaf
  emit (.cpuid leaf eax)
  return eax

/-! ### `mp_rendezvous_no_intrs` with each callback

The CPUs run the callback one after another on the shared broadcast; `reserved`
fields and the atomicity of the counters have no counterpart here.
-/

/-- `PowerControlBroadcast`. -/
structure PowerControlBroadcast where
  count : ℕ
  overflow : ℕ
  operation : PowerControlOperation
  values : CPU → U64

/-- `powerControlOnCPU`. -/
def powerControlOnCPU (broadcast : PowerControlBroadcast) (cpu : PowerControlCPU) :
    PowerControlBroadcast :=
  let value := cpu.answer broadcast.operation
  let index := broadcast.count
  let broadcast := { broadcast with count := broadcast.count + 1 }
  if h : index < maximumLogicalCPUs then
    { broadcast with values := Function.update broadcast.values ⟨index, h⟩ value }
  else { broadcast with overflow := broadcast.overflow + 1 }

def rendezvousPowerControl (operation : PowerControlOperation) :
    DriverM PowerControlBroadcast := do
  let w ← get
  let cpus := P.powerControl w.log operation
  emit (.powerControl operation cpus)
  return cpus.foldl powerControlOnCPU ⟨0, 0, operation, fun _ => 0⟩

/-- `HWPEnableBroadcast`. -/
structure HWPEnableBroadcast where
  count : ℕ
  overflow : ℕ
  values : CPU → U64
  present : CPU → Bool

/-- The array index of a CPU number, if it has one that is free. -/
def freeIndex (present : CPU → Bool) (number : ℤ) : Option CPU :=
  if h : 0 ≤ number ∧ number < maximumLogicalCPUs then
    let cpu : CPU := ⟨number.toNat, by omega⟩
    if present cpu then none else some cpu
  else none

/-- `hwpEnableOnCPU`. -/
def hwpEnableOnCPU (broadcast : HWPEnableBroadcast) (cpu : HWPEnableCPU) : HWPEnableBroadcast :=
  let broadcast := { broadcast with count := broadcast.count + 1 }
  match freeIndex broadcast.present cpu.number with
  | none => { broadcast with overflow := broadcast.overflow + 1 }
  | some index =>
    { broadcast with
      values := Function.update broadcast.values index cpu.enable
      present := Function.update broadcast.present index true }

def rendezvousHWPEnable : DriverM HWPEnableBroadcast := do
  let w ← get
  let cpus := P.hwpEnable w.log
  emit (.hwpEnable cpus)
  return cpus.foldl hwpEnableOnCPU ⟨0, 0, fun _ => 0, fun _ => false⟩

/-- `HWPRequestBroadcast`; its targets are in the operation. -/
structure HWPRequestBroadcast where
  count : ℕ
  overflow : ℕ
  operation : HWPRequestOperation
  values : CPU → U64
  present : CPU → Bool

/-- `hwpRequestOnCPU`. -/
def hwpRequestOnCPU (broadcast : HWPRequestBroadcast) (cpu : HWPRequestCPU) :
    HWPRequestBroadcast :=
  let broadcast := { broadcast with count := broadcast.count + 1 }
  let overflow := { broadcast with overflow := broadcast.overflow + 1 }
  match freeIndex broadcast.present cpu.number with
  | none => overflow
  | some index =>
    match broadcast.operation with
    | .read =>
      if cpu.enable &&& hwpEnableBit = 0 then overflow
      else
        { broadcast with
          values := Function.update broadcast.values index cpu.request
          present := Function.update broadcast.present index true }
    | .write targets targetPresent =>
      if targetPresent index = false then overflow
      else if cpu.enable &&& hwpEnableBit = 0 then overflow
      else
        { broadcast with
          values := Function.update broadcast.values index (cpu.readback (targets index))
          present := Function.update broadcast.present index true }

def rendezvousHWPRequest (operation : HWPRequestOperation) : DriverM HWPRequestBroadcast := do
  let w ← get
  let cpus := P.hwpRequest w.log operation
  emit (.hwpRequest operation cpus)
  return cpus.foldl hwpRequestOnCPU ⟨0, 0, operation, fun _ => 0, fun _ => false⟩

end

end TurboMac.Kext
