import TurboMac.Lib.Bytes
import TurboMac.Lib.Interleaving
import TurboMac.Kext.Settled

/-! # `TurboMacUserClient.cpp`

The clients of one driver, from `newUserClient` to the end of each, with their calls in
any order. Only what the driver does under its lock is one step: a call is on its way from
the check of `closed_` until the driver has been called, twice if it is rejected;
`closeOnce`, which several may run for one client, tests `closed_` in one step, sets it in
another and calls `clientDisconnected` in a third; and `newUserClient` reserves the driver
in one step and starts the client in the next. `IOUserClient::externalMethod` is the
comparison of the arguments with the dispatch table.
-/

namespace TurboMac.Kext

open Program Bytes

/-! ## Requests as bytes -/

/-- The bytes of a `TurboMacLimitRequest`. -/
def LimitRequest.toBytes (request : LimitRequest) : List Byte :=
  layout [(4, request.version.toNat), (4, request.size.toNat), (4, request.pl1MW.toNat),
    (4, request.pl2MW.toNat), (4, request.watchdogTimeoutMS.toNat), (4, request.hwpMode.toNat),
    (8, request.sequence.toNat)]

/-- The `bcopy` into a `TurboMacLimitRequest`. -/
def LimitRequest.ofBytes (data : List Byte) : LimitRequest where
  version := BitVec.ofNat 32 (member data 0 4)
  size := BitVec.ofNat 32 (member data 4 4)
  pl1MW := BitVec.ofNat 32 (member data 8 4)
  pl2MW := BitVec.ofNat 32 (member data 12 4)
  watchdogTimeoutMS := BitVec.ofNat 32 (member data 16 4)
  hwpMode := BitVec.ofNat 32 (member data 20 4)
  sequence := BitVec.ofNat 64 (member data 24 8)

/-- The bytes of a `TurboMacCommandRequest`. -/
def CommandRequest.toBytes (request : CommandRequest) : List Byte :=
  layout [(4, request.version.toNat), (4, request.size.toNat), (8, request.sequence.toNat)]

/-- The `bcopy` into a `TurboMacCommandRequest`. -/
def CommandRequest.ofBytes (data : List Byte) : CommandRequest where
  version := BitVec.ofNat 32 (member data 0 4)
  size := BitVec.ofNat 32 (member data 4 4)
  sequence := BitVec.ofNat 64 (member data 8 8)

/-- A request arrives as it was sent. -/
theorem LimitRequest.ofBytes_toBytes (request : LimitRequest) :
    LimitRequest.ofBytes request.toBytes = request := by
  rcases request with ⟨version, size, pl1MW, pl2MW, watchdogTimeoutMS, hwpMode, sequence⟩
  have hword : (2 : ℕ) ^ 32 ≤ 256 ^ 4 := by decide
  have hlong : (2 : ℕ) ^ 64 ≤ 256 ^ 8 := by decide
  simp only [LimitRequest.ofBytes, LimitRequest.toBytes, LimitRequest.mk.injEq]
  refine ⟨?_, ?_, ?_, ?_, ?_, ?_, ?_⟩
  · exact ofNat_member version [] _ rfl rfl hword
  · exact ofNat_member size [(4, version.toNat)] _ rfl rfl hword
  · exact ofNat_member pl1MW [(4, version.toNat), (4, size.toNat)] _ rfl rfl hword
  · exact ofNat_member pl2MW [(4, version.toNat), (4, size.toNat), (4, pl1MW.toNat)] _ rfl rfl hword
  · exact ofNat_member watchdogTimeoutMS
      [(4, version.toNat), (4, size.toNat), (4, pl1MW.toNat), (4, pl2MW.toNat)] _ rfl rfl hword
  · exact ofNat_member hwpMode
      [(4, version.toNat), (4, size.toNat), (4, pl1MW.toNat), (4, pl2MW.toNat),
        (4, watchdogTimeoutMS.toNat)] _ rfl rfl hword
  · exact ofNat_member sequence
      [(4, version.toNat), (4, size.toNat), (4, pl1MW.toNat), (4, pl2MW.toNat),
        (4, watchdogTimeoutMS.toNat), (4, hwpMode.toNat)] _ rfl rfl hlong

theorem CommandRequest.ofBytes_toBytes (request : CommandRequest) :
    CommandRequest.ofBytes request.toBytes = request := by
  rcases request with ⟨version, size, sequence⟩
  have hword : (2 : ℕ) ^ 32 ≤ 256 ^ 4 := by decide
  simp only [CommandRequest.ofBytes, CommandRequest.toBytes, CommandRequest.mk.injEq]
  refine ⟨?_, ?_, ?_⟩
  · exact ofNat_member version [] _ rfl rfl hword
  · exact ofNat_member size [(4, version.toNat)] _ rfl rfl hword
  · exact ofNat_member sequence [(4, version.toNat), (4, size.toNat)] _ rfl rfl (by decide)

/-! ## External methods -/

/-- `TurboMacSelector`, with the request that is passed in. -/
inductive Method where
  | getCapabilities
  | readTelemetry
  | arm (request : LimitRequest)
  | update (request : LimitRequest)
  | disarm (request : CommandRequest)
  | getStatus
  | getHWPStatus

/-- What the client looks at of `IOExternalMethodArguments`. A structure that is passed in
is its bytes, and of one to be filled in there are its size and whether it is there. -/
structure Arguments where
  scalarInputCount : ℕ
  structureInput : List Byte
  scalarOutputCount : ℕ
  structureOutputSize : ℕ
  structureOutput : Bool

/-- `IOExternalMethodDispatch`. All counts of scalars are zero. -/
structure Dispatch where
  /-- the static method, up to the call of the driver; none is `kIOReturnBadArgument` -/
  function : Arguments → Option Method
  checkStructureInputSize : ℕ
  checkStructureOutputSize : ℕ

/-- A method that fills in a structure. -/
def outputMethod (method : Method) (size : ℕ) : Dispatch :=
  ⟨fun arguments => if arguments.structureOutput then some method else none, 0, size⟩

/-- A method that takes a structure. -/
def inputMethod (method : List Byte → Method) (size : ℕ) : Dispatch :=
  ⟨fun arguments => some (method arguments.structureInput), size, 0⟩

/-- `dispatchTable_`. -/
def dispatchTable : List Dispatch :=
  [outputMethod .getCapabilities 112, outputMethod .readTelemetry 64,
    inputMethod (fun data => .arm (.ofBytes data)) 32,
    inputMethod (fun data => .update (.ofBytes data)) 32,
    inputMethod (fun data => .disarm (.ofBytes data)) 16,
    outputMethod .getStatus 80, outputMethod .getHWPStatus 1600]

/-- The method a client asks for; none if it is rejected before the driver is called. -/
def externalMethod (selector : ℕ) (arguments : Arguments) : Option Method := do
  let dispatch ← dispatchTable[selector]?
  guard (arguments.scalarInputCount = 0 ∧
    arguments.structureInput.length = dispatch.checkStructureInputSize ∧
    arguments.scalarOutputCount = 0 ∧
    arguments.structureOutputSize = dispatch.checkStructureOutputSize)
  dispatch.function arguments

section

variable (P : Platform)

/-- The driver's part of a method, and what it returns. -/
def Method.call : Method → DriverM IOReturn
  | .getCapabilities => do discard (copyCapabilities P); return .success
  | .readTelemetry => return if (← copyTelemetry P).isSome then .success else .unsupported
  | .arm request => Op.call P (.arm (some request))
  | .update request => Op.call P (.update (some request))
  | .disarm request => Op.call P (.disarm (some request))
  | .getStatus => do discard (copyStatus P); return .success
  | .getHWPStatus => do discard (copyHWPStatus P); return .success

end

/-! ## Clients -/

/-- How far a client has come. -/
inductive ClientPhase where
  /-- `newUserClient` has the reservation, and starts the client -/
  | starting
  | open
  /-- `closed_` is set, and `clientDisconnected` to be called -/
  | closing
  /-- `clientDisconnected` has been called -/
  | closed
  /-- did not start -/
  | failed
deriving DecidableEq, Repr

/-- It has the reservation. -/
def ClientPhase.holds : ClientPhase → Bool
  | .starting | .open | .closing => true
  | .closed | .failed => false

/-- A call of a client past the check of `closed_`. -/
inductive CallOnWay where
  | calling (method : Method)
  | rejecting

/-- A driver with the clients it has had and the calls on their way. Who runs `closeOnce` is
known by the client: in `closers` before `closed_` is set, in `disconnecting` before
`clientDisconnected` is called, and in `disconnected` after it, the latest first. -/
structure Clients where
  world : World
  phases : List ClientPhase
  onWay : List (ℕ × CallOnWay)
  closers : List ℕ
  disconnecting : List ℕ
  disconnected : List ℕ

inductive ClientStep where
  /-- `newUserClient`, up to the reservation -/
  | newUserClient (handler : Bool) (type : U32) (privileged : Bool)
  /-- the rest of it -/
  | start (client : ℕ) (started : Bool)
  /-- `externalMethod`, up to the call of the driver -/
  | externalMethod (client selector : ℕ) (arguments : Arguments)
  /-- the next call of the driver for a call on its way -/
  | callDriver (index : ℕ)
  /-- `closeOnce`, up to the test of `closed_` -/
  | checkClosed (client : ℕ)
  /-- up to the call of the driver -/
  | setClosed (client : ℕ)
  | clientDisconnected (client : ℕ)
  | watchdogFired

namespace Clients

/-- Before the first client. -/
def initial (w : World) : Clients := ⟨w, [], [], [], [], []⟩

def setPhase (s : Clients) (client : ℕ) (phase : ClientPhase) : Clients :=
  { s with phases := s.phases.set client phase }

def setReserved (s : Clients) (clientReserved : Bool) : Clients :=
  { s with world := { s.world with driver := { s.world.driver with clientReserved } } }

variable (P : Platform)

/-- A call on its way calls the driver. One that returns `kIOReturnBadArgument` is rejected. -/
def callDriver (s : Clients) (index : ℕ) (client : ℕ) : CallOnWay → Clients
  | .calling method =>
    let (code, world) := exec (method.call P) s.world
    if code = .badArgument then
      { s with world, onWay := s.onWay.set index (client, .rejecting) }
    else { s with world, onWay := s.onWay.eraseIdx index }
  | .rejecting =>
    { s with
      world := Op.invalidClientCommand.after P s.world
      onWay := s.onWay.eraseIdx index }

/-- One step; none if it cannot be taken. -/
def step (s : Clients) : ClientStep → Option Clients
  | .newUserClient handler type privileged =>
    if !handler || type != 0 || !privileged || s.world.driver.clientReserved then some s
    else some { s.setReserved true with phases := s.phases ++ [.starting] }
  | .start client started =>
    if s.phases[client]? ≠ some .starting then none
    else if started then some (s.setPhase client .open)
    else some ((s.setPhase client .failed).setReserved false)
  | .externalMethod client selector arguments =>
    match s.phases[client]? with
    | some .open =>
      let call := (Kext.externalMethod selector arguments).elim .rejecting CallOnWay.calling
      some { s with onWay := s.onWay ++ [(client, call)] }
    -- `kIOReturnNotOpen`
    | some .closing | some .closed => some s
    | some .starting | some .failed | none => none
  | .callDriver index =>
    match s.onWay[index]? with
    | some (client, call) => some (s.callDriver P index client call)
    | none => none
  | .checkClosed client =>
    match s.phases[client]? with
    | some .open => some { s with closers := client :: s.closers }
    | some .closing | some .closed => some s
    | some .starting | some .failed | none => none
  | .setClosed client =>
    if client ∉ s.closers then none
    else
      let s := { s with
        closers := s.closers.erase client
        disconnecting := client :: s.disconnecting }
      if s.phases[client]? = some .open then some (s.setPhase client .closing) else some s
  | .clientDisconnected client =>
    if client ∉ s.disconnecting then none
    else some { s.setPhase client .closed with
      world := Op.clientDisconnected.after P s.world
      disconnecting := s.disconnecting.erase client
      disconnected := client :: s.disconnected }
  | .watchdogFired => some { s with world := Op.watchdogFired.after P s.world }

/-- The clients after some steps, from the start of the driver on. -/
def run (steps : List ClientStep) : Option Clients :=
  Interleaving.run (step P) (initial (started P)) steps

end Clients

/-! ## What a method does -/

section

variable (P : Platform)

/-- A method is one of the three operations, or only reads. -/
theorem Method.after_cases (method : Method) (w : World) :
    (∃ op : Op, op.sequence.isSome = true ∧ (exec (method.call P) w).2 = op.after P w) ∨
      Frame HWPDetection Reads w (exec (method.call P) w).2 := by
  cases method with
  | arm request => exact .inl ⟨.arm (some request), rfl, rfl⟩
  | update request => exact .inl ⟨.update (some request), rfl, rfl⟩
  | disarm request => exact .inl ⟨.disarm (some request), rfl, rfl⟩
  | getCapabilities => exact .inr (keeps_copyCapabilities P w)
  | readTelemetry => exact .inr (keeps_copyTelemetry P w)
  | getStatus => exact .inr (keeps_copyStatus P w)
  | getHWPStatus => exact .inr (keeps_copyHWPStatus P w)

theorem Method.guarded (method : Method) {w : World} (hw : Guarded w) :
    Guarded (exec (method.call P) w).2 := by
  rcases method.after_cases P w with ⟨op, -, hafter⟩ | hframe
  · rw [hafter]
    exact after_guarded P op hw
  · exact hw.frame (hframe.mono (fun _ _ hd => hd.toHWPMembers.sameCore) fun _ he => reads_leavesGuard he)

/-- No method touches the reservation. -/
theorem Method.clientReserved (method : Method) (w : World) :
    (exec (method.call P) w).2.driver.clientReserved = w.driver.clientReserved := by
  rcases method.after_cases P w with ⟨op, hop, hafter⟩ | hframe
  · rw [hafter]
    rcases after_settled P op w with ⟨hsettled, -⟩ | ⟨taken, -, -, hsettled⟩
    · have hreserved := congrArg Settled.clientReserved hsettled
      cases op with
      | arm | update | disarm => exact hreserved
      | invalidClientCommand | clientDisconnected | watchdogFired => cases hop
    · exact congrArg Settled.clientReserved hsettled
  · exact congrArg Settled.clientReserved hframe.driver.toHWPMembers.settled

theorem after_identity (op : Op) (w : World) :
    (op.after P w).driver.identity = w.driver.identity := by
  rcases after_settled P op w with ⟨hsettled, -⟩ | ⟨taken, -, -, hsettled⟩
  · exact congrArg Settled.identity hsettled
  · exact congrArg Settled.identity hsettled

theorem Method.identity (method : Method) (w : World) :
    (exec (method.call P) w).2.driver.identity = w.driver.identity := by
  rcases method.after_cases P w with ⟨op, -, hafter⟩ | hframe
  · rw [hafter]
    exact after_identity P op w
  · exact congrArg Settled.identity hframe.driver.toHWPMembers.settled

/-- Whatever ends in a restore is not Armed. -/
theorem leave_restore_ne_armed (reason : RestoreReason) (onRestored onFailed : IOReturn) (w : World) :
    (exec (leave P (.restore reason onRestored onFailed)) w).2.driver.state ≠ .armed := by
  rw [exec_leave_restore]
  generalize hrestore : exec (restoreLocked P reason) w = r
  rcases r with ⟨restored, w'⟩
  rw [(restoreLocked_spec P hrestore).2]
  split <;> decide

/-- Only `arm` makes the driver Armed. -/
theorem armed_of_after (op : Op) {w : World} (hop : ∀ request, op ≠ .arm request)
    (h : (op.after P w).driver.state = .armed) : w.driver.state = .armed := by
  rw [after_eq, exec_finish] at h
  generalize hexit : exec (op.exit P) w = r at h
  rcases r with ⟨exit, w'⟩
  cases exit with
  | restore reason onRestored onFailed =>
      exact absurd h (leave_restore_ne_armed P reason onRestored onFailed w')
  | done code =>
      change w'.driver.state = .armed at h
      cases op with
      | arm request => exact absurd rfl (hop request)
      | update request =>
          rcases updateExit_cases P hexit with ⟨-, -, rfl⟩ | ⟨hopen, -⟩
          · exact h
          · exact hopen.2
      | disarm request =>
          rcases (disarmExit_cases hexit).2 with hexit | hexit <;> cases hexit
      | invalidClientCommand | clientDisconnected => cases (Prod.mk.inj hexit).1
      | watchdogFired =>
          rcases watchdogFiredExit_cases P hexit with ⟨harmed, -⟩ | ⟨-, -, hcases⟩
          · exact harmed.2
          · rcases hcases with ⟨-, hpassive⟩ | ⟨-, rfl⟩
            · -- outside Armed the watchdog leaves the state, or sets Failsafe
              rcases watchdogPassive_cases P hpassive with ⟨-, w₁, state, reason, hframe, hstate, rfl⟩
              rcases hstate with rfl | rfl
              · exact hframe.driver.toHWPMembers.sameCore.state.symm.trans h
              · cases h
            · exact h

theorem clientDisconnected_ne_armed (w : World) :
    (Op.clientDisconnected.after P w).driver.state ≠ .armed := by
  rw [after_eq, exec_finish]
  exact leave_restore_ne_armed P .clientClosed .success .success w

/-- The law of the guard says nothing of the reservation. -/
theorem Guarded.setReserved {w : World} (hw : Guarded w) (clientReserved : Bool) :
    Guarded { w with driver := { w.driver with clientReserved } } :=
  ⟨hw.supported, hw.captured_iff, hw.cleared, hw.notCleared, hw.watchdog⟩

theorem clientDisconnected_reserved (w : World) :
    (Op.clientDisconnected.after P w).driver.clientReserved = false := rfl

end

/-! ## The driver's law -/

namespace Clients

variable (P : Platform)

/-- What holds of the driver whatever its clients do. -/
structure Law (s : Clients) : Prop where
  guarded : Guarded s.world
  identity : s.world.driver.identity = (started P).driver.identity

/-- A call of the driver changes none of the clients. -/
structure Called (s s' : Clients) : Prop where
  phases : s'.phases = s.phases
  closers : s'.closers = s.closers
  disconnecting : s'.disconnecting = s.disconnecting
  disconnected : s'.disconnected = s.disconnected
  reserved : s'.world.driver.clientReserved = s.world.driver.clientReserved
  identity : s'.world.driver.identity = s.world.driver.identity
  guarded : Guarded s.world → Guarded s'.world
  onWay : ∀ call ∈ s'.onWay, ∃ call' ∈ s.onWay, call.1 = call'.1

theorem after_called (s : Clients) (op : Op) (hop : op.reservation = id) :
    Called s { s with world := op.after P s.world } where
  phases := rfl
  closers := rfl
  disconnecting := rfl
  disconnected := rfl
  reserved := by
    rcases after_settled P op s.world with ⟨hsettled, -⟩ | ⟨taken, -, -, hsettled⟩
    · have hreserved := congrArg Settled.clientReserved hsettled
      rwa [hop] at hreserved
    · exact congrArg Settled.clientReserved hsettled
  identity := after_identity P op s.world
  guarded := after_guarded P op
  onWay := fun call hcall => ⟨call, hcall, rfl⟩

theorem callDriver_called {s : Clients} {index client : ℕ} {call : CallOnWay}
    (h : s.onWay[index]? = some (client, call)) : Called s (s.callDriver P index client call) := by
  have hmem : (client, call) ∈ s.onWay := List.mem_of_getElem? h
  have herase : ∀ c ∈ s.onWay.eraseIdx index, ∃ c' ∈ s.onWay, c.1 = c'.1 :=
    fun c hc => ⟨c, List.mem_of_mem_eraseIdx hc, rfl⟩
  cases call with
  | rejecting =>
      have hinvalid := after_called P s .invalidClientCommand rfl
      exact ⟨rfl, rfl, rfl, rfl, hinvalid.reserved, hinvalid.identity, hinvalid.guarded, herase⟩
  | calling method =>
      have hreserved := method.clientReserved P s.world
      have hidentity := method.identity P s.world
      have hguarded := fun hw : Guarded s.world => method.guarded P hw
      unfold callDriver
      dsimp only
      split
      · refine ⟨rfl, rfl, rfl, rfl, hreserved, hidentity, hguarded, ?_⟩
        intro c hc
        rcases List.mem_or_eq_of_mem_set hc with hc | rfl
        · exact ⟨c, hc, rfl⟩
        · exact ⟨_, hmem, rfl⟩
      · exact ⟨rfl, rfl, rfl, rfl, hreserved, hidentity, hguarded, herase⟩

theorem step_law {s s' : Clients} {x : ClientStep} (hs : Law P s) (h : step P s x = some s') :
    Law P s' := by
  cases x with
  | newUserClient handler type privileged =>
      simp only [step] at h
      split at h
      · cases h
        exact hs
      · cases h
        exact ⟨hs.guarded.setReserved true, hs.identity⟩
  | start client started =>
      simp only [step] at h
      split at h
      · cases h
      split at h
      · cases h
        exact ⟨hs.guarded, hs.identity⟩
      · cases h
        exact ⟨hs.guarded.setReserved false, hs.identity⟩
  | externalMethod client selector arguments | checkClosed client =>
      simp only [step] at h
      split at h
      · cases h
        exact ⟨hs.guarded, hs.identity⟩
      all_goals cases h
      all_goals exact hs
  | callDriver index =>
      simp only [step] at h
      split at h
      · rename_i client call hcall
        cases h
        have hcalled := callDriver_called P hcall
        exact ⟨hcalled.guarded hs.guarded, hcalled.identity.trans hs.identity⟩
      · cases h
  | setClosed client =>
      simp only [step] at h
      split at h
      · cases h
      split at h
      all_goals cases h
      all_goals exact ⟨hs.guarded, hs.identity⟩
  | clientDisconnected client =>
      simp only [step] at h
      split at h
      · cases h
      · cases h
        exact ⟨after_guarded P .clientDisconnected hs.guarded,
          (after_identity P .clientDisconnected s.world).trans hs.identity⟩
  | watchdogFired =>
      cases h
      exact ⟨after_guarded P .watchdogFired hs.guarded,
        (after_identity P .watchdogFired s.world).trans hs.identity⟩

theorem run_law (hsupported : (started P).driver.supported = true) {steps : List ClientStep}
    {s : Clients} (hrun : run P steps = some s) : Law P s :=
  Interleaving.run_invariant (fun _ _ _ hs => step_law P hs)
    ⟨started_guarded P hsupported, rfl⟩ steps hrun

/-- Whatever the clients do, in whatever order: the guard is cleared, on every CPU, only
while the driver is Armed, a poll is pending, and the identity and the bounds
that clients read are those of the start. -/
theorem clients_guarded (hsupported : (started P).driver.supported = true)
    (steps : List ClientStep) (s : Clients) (hrun : run P steps = some s) :
    (s.world.driver.captured = true ↔ s.world.driver.state = .armed) ∧
      (s.world.driver.state = .armed → ∃ cpus,
        lastGuard s.world.log = some (.clearGuard, cpus) ∧ GuardReads .clearGuard cpus false) ∧
      (s.world.driver.state ≠ .armed → ∀ g ∈ lastGuard s.world.log, g.1 = .setGuard) ∧
      s.world.driver.watchdog = some ⟨some
        (if s.world.driver.state = .armed then watchdogPollMS else passiveGuardPollMS)⟩ ∧
      s.world.driver.identity = (started P).driver.identity := by
  have hs := run_law P hsupported hrun
  exact ⟨hs.guarded.captured_iff, hs.guarded.cleared, hs.guarded.notCleared, hs.guarded.watchdog,
    hs.identity⟩

/-- A client that arms the driver with 10 W. -/
def armingSteps : List ClientStep :=
  [.newUserClient true 0 true, .start 0 true,
    .externalMethod 0 2 ⟨0, (tenWatts 1).toBytes, 0, 0, false⟩, .callDriver 0]

theorem clients_guarded_two :
    let P := machine firmwareLimit fun _ => false
    ∃ s, run P armingSteps = some s ∧ s.world.driver.state = .armed ∧
      ∃ cpus, lastGuard s.world.log = some (.clearGuard, cpus) ∧ GuardReads .clearGuard cpus false := by
  intro P
  have hstate : (run P armingSteps).map (·.world.driver.state) = some .armed := by decide +kernel
  rcases Option.map_eq_some_iff.1 hstate with ⟨s, hrun, harmed⟩
  exact ⟨s, hrun, harmed, (clients_guarded P (by decide +kernel) armingSteps s hrun).2.1 harmed⟩

/-! ## One client at a time -/

/-- The step is a test of `closed_` by a second closer, before the first one has set it. -/
def overlaps (s : Clients) : ClientStep → Bool
  | .checkClosed client => s.closers.contains client
  | _ => false

/-- A step that does not overlap. -/
def soloStep (s : Clients) (x : ClientStep) : Option Clients :=
  if s.overlaps x then none else step P s x

/-- A run of such steps. -/
def soloRun (steps : List ClientStep) : Option Clients :=
  Interleaving.run (soloStep P) (initial (started P)) steps

/-- As many clients have the reservation as there are, and each client that is closed has
called `clientDisconnected` once, by the one closer that it had. -/
structure Owned (s : Clients) : Prop where
  holds : s.phases.countP ClientPhase.holds = s.world.driver.clientReserved.toNat
  closers : s.closers.Nodup ∧ ∀ client ∈ s.closers, s.phases[client]? = some .open
  disconnecting : s.disconnecting.Nodup ∧
    ∀ client ∈ s.disconnecting, s.phases[client]? = some .closing
  disconnected : ∀ client, client ∈ s.disconnected ↔ s.phases[client]? = some .closed
  nodup : s.disconnected.Nodup

theorem Called.owned {s s' : Clients} (h : Called s s') (hs : Owned s) : Owned s' where
  holds := by rw [h.phases, h.reserved, hs.holds]
  closers := by rw [h.phases, h.closers]; exact hs.closers
  disconnecting := by rw [h.phases, h.disconnecting]; exact hs.disconnecting
  disconnected := by rw [h.phases, h.disconnected]; exact hs.disconnected
  nodup := by rw [h.disconnected]; exact hs.nodup

/-- The clients with the reservation, after one has gone on. -/
theorem countP_set {phases : List ClientPhase} {client : ℕ} {phase : ClientPhase}
    (phase' : ClientPhase) (h : phases[client]? = some phase) :
    (phases.set client phase').countP ClientPhase.holds + phase.holds.toNat =
      phases.countP ClientPhase.holds + phase'.holds.toNat := by
  rcases List.getElem?_eq_some_iff.1 h with ⟨hlt, hget⟩
  have hpos : phase.holds = true → 0 < phases.countP ClientPhase.holds := by
    intro hholds
    exact List.countP_pos_iff.2 ⟨phase, hget ▸ List.getElem_mem hlt, hholds⟩
  rw [List.countP_set hlt, hget]
  cases hphase : phase.holds <;> cases hphase' : phase'.holds <;> simp
  all_goals
    have := hpos
    simp only [hphase, forall_const] at this
    omega

/-- Where the client is now, and where the others are. -/
theorem getElem?_setPhase {phases : List ClientPhase} {client : ℕ} {phase : ClientPhase}
    (phase' : ClientPhase) (c : ℕ) (h : phases[client]? = some phase) :
    (phases.set client phase')[c]? = if c = client then some phase' else phases[c]? := by
  rcases List.getElem?_eq_some_iff.1 h with ⟨hlt, -⟩
  by_cases heq : c = client
  · rw [heq, List.getElem?_set_self hlt, if_pos rfl]
  · rw [List.getElem?_set_ne (Ne.symm heq), if_neg heq]

/-- A client goes on to a phase in which it has neither closed nor comes from there. -/
theorem disconnected_set {s : Clients} {client : ℕ} {phase phase' : ClientPhase}
    (hs : ∀ c, c ∈ s.disconnected ↔ s.phases[c]? = some .closed)
    (h : s.phases[client]? = some phase) (hne : phase ≠ .closed) (hne' : phase' ≠ .closed) (c : ℕ) :
    c ∈ s.disconnected ↔ (s.phases.set client phase')[c]? = some .closed := by
  rw [getElem?_setPhase _ _ h, hs]
  split_ifs with heq
  · rw [heq, h]
    simp [hne, hne']
  · rfl

/-- The others stay in their phase. -/
theorem phase_set {phases : List ClientPhase} {clients : List ℕ} {client : ℕ} {phase : ClientPhase}
    (phase' : ClientPhase) (hclients : ∀ c ∈ clients, phases[c]? = some phase)
    (h : client ∉ clients) : ∀ c ∈ clients, (phases.set client phase')[c]? = some phase := by
  intro c hc
  have hne : client ≠ c := by
    rintro rfl
    exact h hc
  rw [List.getElem?_set_ne hne]
  exact hclients c hc

/-- A client is not among those of another phase. -/
theorem not_mem_of_phase {phases : List ClientPhase} {clients : List ℕ} {client : ℕ}
    {phase phase' : ClientPhase} (hclients : ∀ c ∈ clients, phases[c]? = some phase)
    (h : phases[client]? = some phase') (hne : phase' ≠ phase) : client ∉ clients := by
  intro hmem
  have heq := hclients client hmem
  rw [h] at heq
  exact hne (Option.some.inj heq)

theorem soloStep_owned {s s' : Clients} {x : ClientStep} (hs : Owned s)
    (h : soloStep P s x = some s') : Owned s' := by
  unfold soloStep at h
  split at h
  · cases h
  rename_i hsolo
  cases x with
  | newUserClient handler type privileged =>
      simp only [step] at h
      split at h
      · cases h
        exact hs
      · -- reserved: nobody has had it
        rename_i hfree
        cases h
        simp only [Bool.or_eq_true, not_or, Bool.not_eq_true] at hfree
        have hnone : s.world.driver.clientReserved = false := hfree.2
        have hold : ∀ (c : ℕ) phase, s.phases[c]? = some phase →
            (s.phases ++ [ClientPhase.starting])[c]? = some phase := by
          intro c phase hc
          rw [List.getElem?_append_left (List.getElem?_eq_some_iff.1 hc).1, hc]
        refine ⟨?_, ⟨hs.closers.1, fun c hc => hold c _ (hs.closers.2 c hc)⟩,
          ⟨hs.disconnecting.1, fun c hc => hold c _ (hs.disconnecting.2 c hc)⟩, ?_, hs.nodup⟩
        · have hholds := hs.holds
          rw [hnone] at hholds
          show (s.phases ++ [ClientPhase.starting]).countP ClientPhase.holds = 1
          rw [List.countP_append, hholds]
          rfl
        · intro client
          show client ∈ s.disconnected ↔ (s.phases ++ [ClientPhase.starting])[client]? = some .closed
          rw [hs.disconnected]
          rcases lt_trichotomy client s.phases.length with hlt | rfl | hgt
          · rw [List.getElem?_append_left hlt]
          · simp
          · rw [List.getElem?_eq_none hgt.le, List.getElem?_eq_none]
            rw [List.length_append, List.length_singleton]
            exact hgt
  | start client started =>
      simp only [step] at h
      split at h
      · cases h
      rename_i hphase
      rw [ne_eq, not_not] at hphase
      have hcloser := not_mem_of_phase hs.closers.2 hphase (by decide)
      have hdisconnecting := not_mem_of_phase hs.disconnecting.2 hphase (by decide)
      split at h
      · cases h
        refine ⟨?_, ⟨hs.closers.1, phase_set _ hs.closers.2 hcloser⟩,
          ⟨hs.disconnecting.1, phase_set _ hs.disconnecting.2 hdisconnecting⟩, ?_, hs.nodup⟩
        · have hcount := countP_set .open hphase
          have hholds := hs.holds
          simp only [setPhase, ClientPhase.holds, Bool.toNat_true] at hcount ⊢
          omega
        · exact disconnected_set hs.disconnected hphase (by decide) (by decide)
      · -- not started: it releases what it alone has had
        cases h
        refine ⟨?_, ⟨hs.closers.1, phase_set _ hs.closers.2 hcloser⟩,
          ⟨hs.disconnecting.1, phase_set _ hs.disconnecting.2 hdisconnecting⟩, ?_, hs.nodup⟩
        · have hcount := countP_set .failed hphase
          have hholds := hs.holds
          have hle := Bool.toNat_le s.world.driver.clientReserved
          simp only [setPhase, setReserved, ClientPhase.holds, Bool.toNat_true,
            Bool.toNat_false] at hcount ⊢
          omega
        · exact disconnected_set hs.disconnected hphase (by decide) (by decide)
  | externalMethod client selector arguments =>
      simp only [step] at h
      split at h
      · cases h
        exact ⟨hs.holds, hs.closers, hs.disconnecting, hs.disconnected, hs.nodup⟩
      all_goals cases h
      all_goals exact hs
  | callDriver index =>
      simp only [step] at h
      split at h
      · rename_i client call hcall
        cases h
        exact (callDriver_called P hcall).owned hs
      · cases h
  | checkClosed client =>
      simp only [step] at h
      split at h
      · rename_i hphase
        cases h
        have hfirst : client ∉ s.closers := by
          simpa [overlaps] using hsolo
        refine ⟨hs.holds, ⟨List.nodup_cons.2 ⟨hfirst, hs.closers.1⟩, ?_⟩, hs.disconnecting,
          hs.disconnected, hs.nodup⟩
        intro c hc
        rcases List.mem_cons.1 hc with rfl | hc
        · exact hphase
        · exact hs.closers.2 c hc
      all_goals cases h
      all_goals exact hs
  | setClosed client =>
      simp only [step] at h
      split at h
      · cases h
      rename_i hcloser
      rw [not_not] at hcloser
      have hphase := hs.closers.2 client hcloser
      have hdisconnecting := not_mem_of_phase hs.disconnecting.2 hphase (by decide)
      rw [if_pos hphase] at h
      cases h
      refine ⟨?_, ⟨hs.closers.1.erase client, ?_⟩,
        ⟨List.nodup_cons.2 ⟨hdisconnecting, hs.disconnecting.1⟩, ?_⟩, ?_, hs.nodup⟩
      · have hcount := countP_set .closing hphase
        have hholds := hs.holds
        simp only [setPhase, ClientPhase.holds, Bool.toNat_true] at hcount ⊢
        omega
      · -- it was the only one
        refine phase_set _ (fun c hc => hs.closers.2 c (List.mem_of_mem_erase hc)) ?_
        exact hs.closers.1.not_mem_erase
      · intro c hc
        show (s.phases.set client .closing)[c]? = _
        rw [getElem?_setPhase _ _ hphase]
        split_ifs with heq
        · rfl
        · exact hs.disconnecting.2 c ((List.mem_cons.1 hc).resolve_left heq)
      · exact disconnected_set hs.disconnected hphase (by decide) (by decide)
  | clientDisconnected client =>
      simp only [step] at h
      split at h
      · cases h
      · rename_i hdisconnecting
        rw [not_not] at hdisconnecting
        have hphase := hs.disconnecting.2 client hdisconnecting
        have hcloser := not_mem_of_phase hs.closers.2 hphase (by decide)
        cases h
        refine ⟨?_, ⟨hs.closers.1, phase_set _ hs.closers.2 hcloser⟩,
          ⟨hs.disconnecting.1.erase client, ?_⟩, ?_, ?_⟩
        · have hcount := countP_set .closed hphase
          have hholds := hs.holds
          have hle := Bool.toNat_le s.world.driver.clientReserved
          have hfree := clientDisconnected_reserved P s.world
          simp only [setPhase, ClientPhase.holds, Bool.toNat_true, Bool.toNat_false] at hcount ⊢
          rw [hfree, Bool.toNat_false]
          omega
        · refine phase_set _ (fun c hc => hs.disconnecting.2 c (List.mem_of_mem_erase hc)) ?_
          exact hs.disconnecting.1.not_mem_erase
        · intro c
          show c ∈ client :: s.disconnected ↔ (s.phases.set client .closed)[c]? = some .closed
          rw [getElem?_setPhase _ _ hphase, List.mem_cons, hs.disconnected]
          split_ifs with heq
          · simp [heq]
          · simp [heq]
        · refine List.nodup_cons.2 ⟨fun hmem => ?_, hs.nodup⟩
          -- a closed client does not close again
          have hclosed := (hs.disconnected client).1 hmem
          rw [hphase] at hclosed
          cases hclosed
  | watchdogFired =>
      cases h
      exact (after_called P s .watchdogFired rfl).owned hs

/-- As long as no two closers of one client test `closed_` before it is set: a driver that is
reserved has one client that is starting, open or closing, and one that is not has none; and
the clients that are closed are those whose `clientDisconnected` was called, each of them
once. -/
theorem one_client (steps : List ClientStep) (s : Clients) (hrun : soloRun P steps = some s) :
    s.phases.countP ClientPhase.holds = s.world.driver.clientReserved.toNat ∧
      s.disconnected.Nodup ∧
      ∀ client, client ∈ s.disconnected ↔ s.phases[client]? = some .closed := by
  have hinitial : Owned (initial (started P)) := by
    have hreserved : (started P).driver.clientReserved = false := (started_untouched P).1
    refine ⟨?_, ⟨List.nodup_nil, by simp [initial]⟩, ⟨List.nodup_nil, by simp [initial]⟩,
      by simp [initial], List.nodup_nil⟩
    rw [initial, hreserved]
    rfl
  have hs := Interleaving.run_invariant (fun _ _ _ hs => soloStep_owned P hs) hinitial steps hrun
  exact ⟨hs.holds, hs.nodup, hs.disconnected⟩

/-- Two closers that both pass the test: the second `clientDisconnected` gives away the
reservation of the next client, and a third one opens beside it. -/
example :
    (run (machine firmwareLimit fun _ => false) [.newUserClient true 0 true, .start 0 true,
      .checkClosed 0, .checkClosed 0, .setClosed 0, .setClosed 0, .clientDisconnected 0,
      .newUserClient true 0 true, .start 1 true, .clientDisconnected 0,
      .newUserClient true 0 true, .start 2 true]).map
        (fun s => (s.phases, s.disconnected)) = some ([.closed, .open, .open], [0, 0]) := by
  decide +kernel

/-- One client, another that is turned away, and, once the first has closed, a third. -/
def twoClients : List ClientStep :=
  [.newUserClient true 0 true, .newUserClient true 0 true, .start 0 true, .checkClosed 0,
    .setClosed 0, .clientDisconnected 0, .checkClosed 0, .newUserClient true 0 true, .start 1 true]

theorem one_client_two :
    let P := machine firmwareLimit fun _ => false
    ∃ s, soloRun P twoClients = some s ∧ s.phases = [.closed, .open] ∧
      s.phases.countP ClientPhase.holds = s.world.driver.clientReserved.toNat ∧
      s.disconnected.Nodup := by
  intro P
  have hphases : (soloRun P twoClients).map Clients.phases = some [.closed, .open] := by
    decide +kernel
  rcases Option.map_eq_some_iff.1 hphases with ⟨s, hrun, hphases⟩
  have hs := one_client P twoClients s hrun
  exact ⟨s, hrun, hphases, hs.1, hs.2.1⟩

/-! ## An Armed driver has a client -/

/-- The step is an `arm` of a client that is closed by now: it has passed the check of
`closed_` before `clientDisconnected` was called. -/
def stale (s : Clients) : ClientStep → Bool
  | .callDriver index =>
    match s.onWay[index]? with
    | some (client, .calling (.arm _)) => s.phases[client]? == some .closed
    | _ => false
  | _ => false

/-- A step that is not stale. -/
def promptStep (s : Clients) (x : ClientStep) : Option Clients :=
  if s.stale x then none else step P s x

/-- A run of such steps. -/
def promptRun (steps : List ClientStep) : Option Clients :=
  Interleaving.run (promptStep P) (initial (started P)) steps

/-- The client of a call on its way was open once; and an Armed driver has a client. -/
structure Held (s : Clients) : Prop where
  onWay : ∀ call ∈ s.onWay, s.phases[call.1]? = some .open ∨ s.phases[call.1]? = some .closing ∨
    s.phases[call.1]? = some .closed
  client : s.world.driver.state = .armed →
    ∃ client : ℕ, s.phases[client]? = some .open ∨ s.phases[client]? = some .closing

/-- Only `arm` makes the driver Armed, for a client as well. -/
theorem armed_of_callDriver {s : Clients} {index client : ℕ} {call : CallOnWay}
    (h : (s.callDriver P index client call).world.driver.state = .armed) :
    s.world.driver.state = .armed ∨ ∃ request, call = .calling (.arm request) := by
  cases call with
  | rejecting => exact .inl (armed_of_after P .invalidClientCommand (fun _ => nofun) h)
  | calling method =>
      have harmed : (exec (method.call P) s.world).2.driver.state = .armed := by
        unfold callDriver at h
        dsimp only at h
        split at h
        · exact h
        · exact h
      have hread : ∀ {w : World}, Frame HWPDetection Reads s.world w → w.driver.state = .armed →
          s.world.driver.state = .armed :=
        fun hframe hw => hframe.driver.toHWPMembers.sameCore.state.symm.trans hw
      cases method with
      | arm request => exact .inr ⟨request, rfl⟩
      | update request =>
          exact .inl (armed_of_after P (.update (some request)) (fun _ => nofun) harmed)
      | disarm request =>
          exact .inl (armed_of_after P (.disarm (some request)) (fun _ => nofun) harmed)
      | getCapabilities => exact .inl (hread (keeps_copyCapabilities P s.world) harmed)
      | readTelemetry => exact .inl (hread (keeps_copyTelemetry P s.world) harmed)
      | getStatus => exact .inl (hread (keeps_copyStatus P s.world) harmed)
      | getHWPStatus => exact .inl (hread (keeps_copyHWPStatus P s.world) harmed)

/-- A client goes on, and the others stay where they are. -/
theorem Held.setPhase {s : Clients} {client : ℕ} {phase phase' : ClientPhase} (hs : Held s)
    (h : s.phases[client]? = some phase)
    (honWay : phase = .starting ∨ phase' = .open ∨ phase' = .closing ∨ phase' = .closed)
    (hclient : phase = .starting ∨ phase' = .open ∨ phase' = .closing) :
    Held (s.setPhase client phase') := by
  have hset := fun c => getElem?_setPhase phase' c h
  refine ⟨fun call hcall => ?_, fun harmed => ?_⟩
  · show (s.phases.set client phase')[call.1]? = _ ∨ _
    have hbefore := hs.onWay call hcall
    simp only [Clients.setPhase, hset]
    split_ifs with heq
    · rw [heq, h] at hbefore
      rcases honWay with rfl | rfl | rfl | rfl
      · simp at hbefore
      all_goals simp
    · exact hbefore
  · rcases hs.client harmed with ⟨c, hc⟩
    by_cases heq : c = client
    · refine ⟨client, ?_⟩
      show (s.phases.set client phase')[client]? = _ ∨ (s.phases.set client phase')[client]? = _
      rw [heq, h] at hc
      rw [hset, if_pos rfl]
      rcases hclient with rfl | rfl | rfl
      · simp at hc
      all_goals simp
    · refine ⟨c, ?_⟩
      show (s.phases.set client phase')[c]? = _ ∨ (s.phases.set client phase')[c]? = _
      rw [hset, if_neg heq]
      exact hc

theorem promptStep_held {s s' : Clients} {x : ClientStep} (hs : Held s)
    (h : promptStep P s x = some s') : Held s' := by
  unfold promptStep at h
  split at h
  · cases h
  rename_i hprompt
  cases x with
  | newUserClient handler type privileged =>
      simp only [step] at h
      split at h
      · cases h
        exact hs
      · cases h
        have hold : ∀ (c : ℕ) phase, s.phases[c]? = some phase →
            (s.phases ++ [ClientPhase.starting])[c]? = some phase := by
          intro c phase hc
          rw [List.getElem?_append_left (List.getElem?_eq_some_iff.1 hc).1, hc]
        refine ⟨fun call hcall => ?_, fun harmed => ?_⟩
        · exact (hs.onWay call hcall).imp (hold _ _) (Or.imp (hold _ _) (hold _ _))
        · rcases hs.client harmed with ⟨c, hc⟩
          exact ⟨c, hc.imp (hold _ _) (hold _ _)⟩
  | start client started =>
      simp only [step] at h
      split at h
      · cases h
      rename_i hphase
      rw [ne_eq, not_not] at hphase
      split at h
      · cases h
        exact hs.setPhase hphase (.inl rfl) (.inl rfl)
      · cases h
        have hheld : Held (s.setPhase client .failed) := hs.setPhase hphase (.inl rfl) (.inl rfl)
        exact ⟨hheld.onWay, hheld.client⟩
  | externalMethod client selector arguments =>
      simp only [step] at h
      split at h
      · rename_i hphase
        cases h
        refine ⟨fun call hcall => ?_, hs.client⟩
        rcases List.mem_append.1 hcall with hcall | hcall
        · exact hs.onWay call hcall
        · rw [List.mem_singleton.1 hcall]
          exact .inl hphase
      all_goals cases h
      all_goals exact hs
  | callDriver index =>
      simp only [step] at h
      split at h
      · rename_i client call hcall
        cases h
        have hcalled := callDriver_called P hcall
        refine ⟨fun c hc => ?_, fun harmed => ?_⟩
        · rcases hcalled.onWay c hc with ⟨c', hc', heq⟩
          rw [hcalled.phases, heq]
          exact hs.onWay c' hc'
        · rw [hcalled.phases]
          rcases armed_of_callDriver P harmed with harmed | ⟨request, rfl⟩
          · exact hs.client harmed
          · -- the client of an `arm` is not closed yet
            have hopen := hs.onWay _ (List.mem_of_getElem? hcall)
            have hstale : s.phases[client]? ≠ some .closed := by
              intro hclosed
              simp [stale, hcall, hclosed] at hprompt
            exact ⟨client, hopen.imp id fun h => h.resolve_right hstale⟩
      · cases h
  | checkClosed client =>
      simp only [step] at h
      split at h
      · cases h
        exact ⟨hs.onWay, hs.client⟩
      all_goals cases h
      all_goals exact hs
  | setClosed client =>
      simp only [step] at h
      split at h
      · cases h
      split at h
      · rename_i hphase
        cases h
        have hheld : Held (s.setPhase client .closing) := hs.setPhase hphase (by simp) (by simp)
        exact ⟨hheld.onWay, hheld.client⟩
      · cases h
        exact ⟨hs.onWay, hs.client⟩
  | clientDisconnected client =>
      simp only [step] at h
      split at h
      · cases h
      · cases h
        refine ⟨fun call hcall => ?_, fun harmed => ?_⟩
        · have hbefore := hs.onWay call hcall
          show (s.phases.set client .closed)[call.1]? = _ ∨ (s.phases.set client .closed)[call.1]? = _ ∨
            (s.phases.set client .closed)[call.1]? = _
          by_cases heq : call.1 = client
          · have hlt : client < s.phases.length := by
              rw [← heq]
              rcases hbefore with hphase | hphase | hphase
              all_goals exact (List.getElem?_eq_some_iff.1 hphase).1
            rw [heq, List.getElem?_set_self hlt]
            simp
          · rw [List.getElem?_set_ne (Ne.symm heq)]
            exact hbefore
        · exact absurd harmed (clientDisconnected_ne_armed P s.world)
  | watchdogFired =>
      cases h
      exact ⟨hs.onWay, fun harmed => hs.client (armed_of_after P .watchdogFired (fun _ => nofun) harmed)⟩

/-- As long as no `arm` gets to the driver after the `clientDisconnected` of its client, an
Armed driver has a client that is open, or about to call `clientDisconnected`. -/
theorem armed_held (steps : List ClientStep) (s : Clients) (hrun : promptRun P steps = some s)
    (harmed : s.world.driver.state = .armed) :
    ∃ client : ℕ, s.phases[client]? = some .open ∨ s.phases[client]? = some .closing := by
  have hinitial : Held (initial (started P)) := by
    refine ⟨by simp [initial], fun harmed => ?_⟩
    have hstate : (started P).driver.state = .passive := (started_spec P).1.state
    rw [initial] at harmed
    rw [hstate] at harmed
    cases harmed
  exact (Interleaving.run_invariant (fun _ _ _ hs => promptStep_held P hs) hinitial steps hrun).client
    harmed

/-- An `arm` that passes the check of `closed_` just before its client closes. -/
example :
    (run (machine firmwareLimit fun _ => false) [.newUserClient true 0 true, .start 0 true,
      .externalMethod 0 2 ⟨0, (tenWatts 1).toBytes, 0, 0, false⟩, .checkClosed 0, .setClosed 0,
      .clientDisconnected 0, .callDriver 0]).map (fun s => (s.world.driver.state, s.phases)) =
        some (.armed, [.closed]) := by
  decide +kernel

theorem armed_held_arming :
    let P := machine firmwareLimit fun _ => false
    ∃ s, promptRun P armingSteps = some s ∧
      ∃ client : ℕ, s.phases[client]? = some .open ∨ s.phases[client]? = some .closing := by
  intro P
  have hstate : (promptRun P armingSteps).map (·.world.driver.state) = some .armed := by decide +kernel
  rcases Option.map_eq_some_iff.1 hstate with ⟨s, hrun, harmed⟩
  exact ⟨s, hrun, armed_held P armingSteps s hrun harmed⟩

end Clients

end TurboMac.Kext
