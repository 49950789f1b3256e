import TurboMac.Kext.Calls

/-! # What a log says of the hardware

The guard as it was last written, and MSR 0x610 on hardware that stores what is
written; and a machine that does no more than its log says.
-/

namespace TurboMac.Kext

/-! ## The guard -/

/-- The last set or clear of the guard, with the CPUs' answers. -/
def lastGuard (log : List Entry) : Option (PowerControlOperation × List PowerControlCPU) :=
  log.findSome? fun e =>
    match e.event with
    | .powerControl .read _ => none
    | .powerControl operation cpus => some (operation, cpus)
    | _ => none

/-- The guard has not been cleared since it was last set. -/
def NotCleared (log : List Entry) : Prop := ∀ g ∈ lastGuard log, g.1 = .setGuard

/-- The guard is not written. -/
abbrev LeavesGuard : Entry → Prop := fun e => e.event.LeavesGuard

theorem lastGuard_cons {e : Entry} (h : LeavesGuard e) (log : List Entry) :
    lastGuard (e :: log) = lastGuard log := by
  unfold lastGuard
  rw [List.findSome?_cons]
  unfold LeavesGuard Event.LeavesGuard at h
  cases he : e.event with
  | powerControl operation cpus =>
      have hread : operation = .read := by simpa [he] using h
      simp [hread]
  | rdmsr | wrmsr | hwpEnable | hwpRequest | cpuid | machAbsoluteTime => rfl

theorem lastGuard_frame {D : Driver → Driver → Prop} {w w' : World}
    (h : Frame D LeavesGuard w w') : lastGuard w'.log = lastGuard w.log :=
  h.log.observe fun log _ he => lastGuard_cons he.2 log

theorem notCleared_cons {e : Entry} (h : Guarding e) {log : List Entry} (hlog : NotCleared log) :
    NotCleared (e :: log) := by
  intro g hg
  unfold lastGuard at hg
  rw [List.findSome?_cons] at hg
  unfold Guarding Event.IsGuarding at h
  cases he : e.event with
  | powerControl operation cpus =>
      cases operation with
      | clearGuard => simp [he] at h
      | read =>
          simp only [he] at hg
          exact hlog g hg
      | setGuard =>
          simp only [he, Option.mem_def, Option.some.injEq] at hg
          rw [← hg]
  | rdmsr | wrmsr | hwpEnable | hwpRequest | cpuid | machAbsoluteTime =>
      simp only [he] at hg
      exact hlog g hg

theorem NotCleared.frame {D : Driver → Driver → Prop} {w w' : World} (hw : NotCleared w.log)
    (h : Frame D Guarding w w') : NotCleared w'.log :=
  h.log.preserve hw fun _ _ he hlog => notCleared_cons he.2 hlog

theorem reads_leavesGuard {e : Entry} (h : Reads e) : LeavesGuard e :=
  (Event.IsRead.isHWP h).leavesGuard

/-! ## MSR 0x610 -/

/-- The last value written to MSR 0x610, or the one it had at first. -/
def packageLimit (initial : U64) (log : List Entry) : U64 :=
  (log.findSome? fun e =>
    match e.event with
    | .wrmsr msr value => if msr = msrPackagePowerLimit then some value else none
    | _ => none).getD initial

/-- Only the driver writes MSR 0x610, and the register stores what it writes. -/
def StoresLimit (P : Platform) (initial : U64) : Prop :=
  ∀ log, P.rdmsr log msrPackagePowerLimit = packageLimit initial log

/-- MSR 0x610 is not written. -/
def Event.LeavesLimit : Event → Prop
  | .wrmsr msr _ => msr ≠ msrPackagePowerLimit
  | _ => True

abbrev LeavesLimit : Entry → Prop := fun e => e.event.LeavesLimit

theorem Event.IsHWP.leavesLimit {e : Event} (h : e.IsHWP) : e.LeavesLimit := by
  cases e with
  | wrmsr => exact h
  | rdmsr | powerControl | hwpEnable | hwpRequest | cpuid | machAbsoluteTime => trivial

theorem Event.IsGuarding.leavesLimit {e : Event} (h : e.IsGuarding) : e.LeavesLimit := by
  cases e with
  | wrmsr => exact h
  | rdmsr | powerControl | hwpEnable | hwpRequest | cpuid | machAbsoluteTime => trivial

@[simp] theorem packageLimit_write (initial value : U64) (d : Driver) (log : List Entry) :
    packageLimit initial (⟨.wrmsr msrPackagePowerLimit value, d⟩ :: log) = value := by
  simp [packageLimit]

theorem packageLimit_cons (initial : U64) {e : Entry} (h : LeavesLimit e) (log : List Entry) :
    packageLimit initial (e :: log) = packageLimit initial log := by
  unfold packageLimit
  rw [List.findSome?_cons]
  cases he : e.event with
  | wrmsr msr value =>
      have hmsr : msr ≠ msrPackagePowerLimit := by simpa [LeavesLimit, he, Event.LeavesLimit] using h
      simp [hmsr]
  | rdmsr | powerControl | hwpEnable | hwpRequest | cpuid | machAbsoluteTime => rfl

theorem packageLimit_logged (initial : U64) {e : Event} (h : e.LeavesLimit) (w : World) :
    packageLimit initial (w.logged e).log = packageLimit initial w.log :=
  @packageLimit_cons initial ⟨e, w.driver⟩ h w.log

theorem packageLimit_frame (initial : U64) {D : Driver → Driver → Prop} {w w' : World}
    (h : Frame D LeavesLimit w w') : packageLimit initial w'.log = packageLimit initial w.log :=
  h.log.observe fun log _ he => packageLimit_cons initial he.2 log

/-! ## A machine -/

/-- A machine of one CPU that stores what it is told, with HWP on, 8 to 48 the
performance levels, and a thermal specification of 65 W. A rendezvous of HWP
requests fails where `fails` says so. -/
def machine (initial : U64) (fails : List Entry → Bool) : Platform where
  rdmsr log msr :=
    if msr = msrPackagePowerLimit then packageLimit initial log
    else if msr = msrRAPLPowerUnit then 0xa0e03
    else if msr = msrPackagePowerInfo then 0x208
    else if msr = msrHWPEnable then 1
    else if msr = msrHWPCapabilities then 0x08102430
    else 0
  powerControl log _ :=
    [⟨match lastGuard log with
      | some (.clearGuard, _) => 0
      | _ => 1, id⟩]
  hwpEnable _ := [⟨0, 1⟩]
  hwpRequest log _ :=
    if fails log then []
    else [⟨0, 1, (log.findSome? fun e =>
      match e.event with
      | .hwpRequest (.write targets _) _ => some (targets 0)
      | _ => none).getD 0x80001808, id⟩]
  cpuid _ leaf := if leaf = 0 then 22 else if leaf = 1 then 0x906ed else 0x27f7
  machAbsoluteTime log := BitVec.ofNat 64 log.length
  absolutetimeToNanoseconds ticks := ticks

/-- MSR 0x610 with 45 W, 60 W and both enable bits. -/
def firmwareLimit : U64 := 0x004281e000dc8168

/-- A request of 10 W. -/
def tenWatts (sequence : U64) : LimitRequest := ⟨3, 32, 10000, 10000, 5000, 1, sequence⟩

/-- The command of a disarm. -/
def command (sequence : U64) : CommandRequest := ⟨3, 16, sequence⟩

theorem storesLimit_machine (initial : U64) (fails : List Entry → Bool) :
    StoresLimit (machine initial fails) initial := fun _ => rfl

end TurboMac.Kext
