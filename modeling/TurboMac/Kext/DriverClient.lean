import TurboMac.Kext.UserClient

/-! # `DriverClient.cpp`: sequences

The driver takes a request only if its sequence is higher than the last it has taken, from
whatever client. A `DriverClient` takes its sequences from the clock.
-/

namespace TurboMac.Kext

open Program

section

variable (P : Platform)

/-! ## No replay -/

/-- What a call returns after others. -/
def result (ops : List Op) (op : Op) : IOReturn := (exec (op.call P) (run P ops (started P))).1

/-- The last sequence never goes down. -/
theorem lastSequence_le_after (op : Op) (w : World) :
    w.driver.lastSequence ≤ (op.after P w).driver.lastSequence := by
  rcases after_settled P op w with ⟨hsettled, -⟩ | ⟨taken, -, hlt, hsettled⟩
  · exact BitVec.le_of_eq (congrArg Settled.lastSequence hsettled).symm
  · rw [show (op.after P w).driver.lastSequence = taken from congrArg Settled.lastSequence hsettled]
    exact BitVec.le_of_lt hlt

theorem lastSequence_le_run (ops : List Op) (w : World) :
    w.driver.lastSequence ≤ (run P ops w).driver.lastSequence := by
  induction ops generalizing w with
  | nil => exact BitVec.le_refl _
  | cons op ops ih => exact BitVec.le_trans (lastSequence_le_after P op w) (ih _)

/-- A request that succeeds is newer than the last, and the last from then on. -/
theorem taken_of_success {op : Op} {sequence : U64} {w : World} (hop : op.sequence = some sequence)
    (h : (exec (op.call P) w).1 = .success) :
    w.driver.lastSequence < sequence ∧ (op.after P w).driver.lastSequence = sequence := by
  rcases after_settled P op w with ⟨-, hrefused⟩ | ⟨taken, hmem, hlt, hsettled⟩
  · exact absurd h (hrefused (by rw [hop]; rfl))
  · obtain rfl : sequence = taken := Option.some.inj (hop.symm.trans hmem)
    exact ⟨hlt, congrArg Settled.lastSequence hsettled⟩

/-- Once a request has succeeded, none with its sequence or a lower one does, whatever is
called in between and whichever of the three calls the two are. -/
theorem replay_refused (ops mid : List Op) (op op' : Op) (sequence sequence' : U64)
    (hop : op.sequence = some sequence) (hop' : op'.sequence = some sequence')
    (hle : sequence' ≤ sequence) (hsuccess : result P ops op = .success) :
    result P (ops ++ op :: mid) op' ≠ .success := by
  intro hreplayed
  have htaken := (taken_of_success P hop hsuccess).2
  have hnewer := (taken_of_success P hop' hreplayed).1
  rw [run_append, run_cons] at hnewer
  have hlast := lastSequence_le_run P mid (op.after P (run P ops (started P)))
  rw [htaken] at hlast
  exact absurd (BitVec.le_trans hle hlast) (BitVec.not_le.2 hnewer)

end

/-- The `arm` for 10 W, and the same again for an `update`. -/
theorem replay_refused_tenWatts :
    result (machine firmwareLimit fun _ => false) [.arm (some (tenWatts 1)), .watchdogFired]
      (.update (some (tenWatts 1))) ≠ .success :=
  replay_refused _ [] [.watchdogFired] (.arm (some (tenWatts 1))) (.update (some (tenWatts 1))) 1 1 rfl
    rfl (BitVec.le_refl _) (by decide +kernel)

/-! ## The client's sequences -/

/-- `DriverClient`, without the connection. -/
structure DriverClient where
  sequence : U64
deriving DecidableEq, Repr

namespace DriverClient

/-- The constructor. -/
def construct (now : U64) : DriverClient := ⟨now⟩

/-- `nextSequence`. -/
def nextSequence (c : DriverClient) (now : U64) : DriverClient :=
  ⟨if c.sequence < now then now else c.sequence + 1⟩

/-- The request of `arm`. -/
def armRequest (c : DriverClient) (pl1MW pl2MW hwpMode : U32) : LimitRequest where
  version := protocolVersion
  size := limitRequestSize
  pl1MW := pl1MW
  pl2MW := pl2MW
  watchdogTimeoutMS := 5000
  hwpMode := hwpMode
  sequence := c.sequence

/-- The request of `update`. -/
def updateRequest (c : DriverClient) (pl1MW pl2MW : U32) : LimitRequest where
  version := protocolVersion
  size := limitRequestSize
  pl1MW := pl1MW
  pl2MW := pl2MW
  watchdogTimeoutMS := 5000
  hwpMode := hwpReleaseMaximum
  sequence := c.sequence

/-- The request of `disarm`. -/
def disarmRequest (c : DriverClient) : CommandRequest := ⟨protocolVersion, commandRequestSize, c.sequence⟩

end DriverClient

/-- A call of the client that makes a request. -/
inductive ClientCommand where
  | arm (pl1MW pl2MW hwpMode : U32)
  | update (pl1MW pl2MW : U32)
  | disarm
deriving DecidableEq, Repr

/-- The method that the request of the command asks for. -/
def ClientCommand.method (command : ClientCommand) (c : DriverClient) : Method :=
  match command with
  | .arm pl1MW pl2MW hwpMode => .arm (c.armRequest pl1MW pl2MW hwpMode)
  | .update pl1MW pl2MW => .update (c.updateRequest pl1MW pl2MW)
  | .disarm => .disarm c.disarmRequest

/-- What happens around a driver: daemons come one after another, each with its client;
they make requests and read what the driver tells, are rejected and disconnect, and
the timer fires. A client is made, and a request, at a reading of the clock. -/
inductive ClientEvent where
  | construct (now : U64)
  | command (now : U64) (command : ClientCommand)
  | getCapabilities
  | readTelemetry
  | getStatus
  | getHWPStatus
  | invalidClientCommand
  | clientDisconnected
  | watchdogFired
deriving DecidableEq, Repr

/-- The reading of the clock. -/
def ClientEvent.time : ClientEvent → Option U64
  | .construct now | .command now _ => some now
  | _ => none

/-- The driver and the client of the latest daemon. -/
structure Session where
  client : Option DriverClient
  world : World

namespace Session

variable (P : Platform)

/-- Nothing comes of a command while there is no client. -/
def after (s : Session) : ClientEvent → Session
  | .construct now => { s with client := some (.construct now) }
  | .command now command =>
    match s.client with
    | some c =>
      let c := c.nextSequence now
      ⟨some c, (exec ((command.method c).call P) s.world).2⟩
    | none => s
  | .getCapabilities => { s with world := (exec (Method.getCapabilities.call P) s.world).2 }
  | .readTelemetry => { s with world := (exec (Method.readTelemetry.call P) s.world).2 }
  | .getStatus => { s with world := (exec (Method.getStatus.call P) s.world).2 }
  | .getHWPStatus => { s with world := (exec (Method.getHWPStatus.call P) s.world).2 }
  | .invalidClientCommand => { s with world := Op.invalidClientCommand.after P s.world }
  | .clientDisconnected => { s with world := Op.clientDisconnected.after P s.world }
  | .watchdogFired => { s with world := Op.watchdogFired.after P s.world }

/-- The session after some events, from the start of the driver on. -/
def run (events : List ClientEvent) : Session :=
  events.foldl (after P) ⟨none, started P⟩

/-- The sequences of the client and of the driver are behind the clock. -/
structure Behind (now : U64) (s : Session) : Prop where
  client : ∀ c ∈ s.client, c.sequence < now
  driver : s.client.isSome = true → s.world.driver.lastSequence < now
  idle : s.client = none → s.world.driver.lastSequence = 0

/-- A call without a request leaves the last sequence. -/
theorem lastSequence_after {op : Op} (hop : op.sequence = none) (w : World) :
    (op.after P w).driver.lastSequence = w.driver.lastSequence := by
  rcases after_settled P op w with ⟨hsettled, -⟩ | ⟨taken, hmem, -⟩
  · exact congrArg Settled.lastSequence hsettled
  · rw [hop] at hmem
    cases hmem

/-- A command takes its sequence, or leaves the last. -/
theorem lastSequence_command (command : ClientCommand) (c : DriverClient) (w : World) :
    (exec ((command.method c).call P) w).2.driver.lastSequence = w.driver.lastSequence ∨
      (exec ((command.method c).call P) w).2.driver.lastSequence = c.sequence := by
  have hop : ∀ op : Op, op.sequence = some c.sequence →
      (op.after P w).driver.lastSequence = w.driver.lastSequence ∨
        (op.after P w).driver.lastSequence = c.sequence := by
    intro op hop
    rcases after_settled P op w with ⟨hsettled, -⟩ | ⟨taken, hmem, -, hsettled⟩
    · exact .inl (congrArg Settled.lastSequence hsettled)
    · rw [hop] at hmem
      cases hmem
      exact .inr (congrArg Settled.lastSequence hsettled)
  cases command with
  | arm pl1MW pl2MW hwpMode => exact hop (.arm (some (c.armRequest pl1MW pl2MW hwpMode))) rfl
  | update pl1MW pl2MW => exact hop (.update (some (c.updateRequest pl1MW pl2MW))) rfl
  | disarm => exact hop (.disarm (some c.disarmRequest)) rfl

/-- A later reading of the clock is the next sequence. -/
theorem nextSequence_later {c : DriverClient} {now : U64} (h : c.sequence < now) :
    c.nextSequence now = ⟨now⟩ := by
  unfold DriverClient.nextSequence
  rw [if_pos h]

/-- What leaves the client and the last sequence leaves both behind the clock. -/
theorem Behind.same {s : Session} {now : U64} (h : Behind now s) {w : World}
    (hw : w.driver.lastSequence = s.world.driver.lastSequence) : Behind now { s with world := w } :=
  ⟨h.client, fun hc => hw ▸ h.driver hc, fun hc => hw.trans (h.idle hc)⟩

theorem Behind.untimed {s : Session} {now : U64} (h : Behind now s) {event : ClientEvent}
    (htime : event.time = none) : Behind now (s.after P event) := by
  have hread : ∀ {m : DriverM IOReturn}, Keeps (Frame HWPDetection Reads) m →
      (exec m s.world).2.driver.lastSequence = s.world.driver.lastSequence :=
    fun hm => congrArg Settled.lastSequence (settles_of_hwpDetection hm s.world)
  cases event with
  | construct now | command now command => cases htime
  | getCapabilities => exact h.same (hread ((keeps_copyCapabilities P).bind fun _ => keeps_pure _))
  | readTelemetry => exact h.same (hread ((keeps_copyTelemetry P).bind fun _ => keeps_pure _))
  | getStatus => exact h.same (hread ((keeps_copyStatus P).bind fun _ => keeps_pure _))
  | getHWPStatus => exact h.same (hread ((keeps_copyHWPStatus P).bind fun _ => keeps_pure _))
  | invalidClientCommand => exact h.same (lastSequence_after P rfl s.world)
  | clientDisconnected => exact h.same (lastSequence_after P rfl s.world)
  | watchdogFired => exact h.same (lastSequence_after P rfl s.world)

/-- A client that is made at a reading of the clock, or makes a request, is not ahead of
it; nor is the driver after that. -/
theorem Behind.timed {s : Session} {time now : U64} (h : Behind time s) {event : ClientEvent}
    (htime : event.time = some time) (hlt : time < now) : Behind now (s.after P event) := by
  have hpos : (0 : U64) < now := by bv_omega
  cases event with
  | getCapabilities | readTelemetry | getStatus | getHWPStatus | invalidClientCommand
  | clientDisconnected | watchdogFired => cases htime
  | construct now' =>
      obtain rfl : now' = time := Option.some.inj htime
      refine ⟨fun c hc => ?_, fun _ => ?_, fun hnone => by cases hnone⟩
      · rw [← Option.some.inj hc]
        exact hlt
      · show s.world.driver.lastSequence < now
        cases hclient : s.client with
        | none =>
            rw [h.idle hclient]
            exact hpos
        | some c =>
            have hlast := h.driver (by rw [hclient]; rfl)
            bv_omega
  | command now' command =>
      obtain rfl : now' = time := Option.some.inj htime
      cases hclient : s.client with
      | none =>
          have hafter : s.after P (.command now' command) = s := by simp only [after, hclient]
          rw [hafter]
          refine ⟨fun c hc => ?_, fun hsome => ?_, h.idle⟩
          · rw [hclient] at hc
            cases hc
          · rw [hclient] at hsome
            cases hsome
      | some c =>
          have hnext := nextSequence_later (h.client c hclient)
          have hafter : s.after P (.command now' command) =
              ⟨some ⟨now'⟩, (exec ((command.method ⟨now'⟩).call P) s.world).2⟩ := by
            simp only [after, hclient, hnext]
          rw [hafter]
          refine ⟨fun c hc => ?_, fun _ => ?_, fun hnone => by cases hnone⟩
          · rw [← Option.some.inj hc]
            exact hlt
          · have hlast := h.driver (by rw [hclient]; rfl)
            rcases lastSequence_command P command ⟨now'⟩ s.world with htaken | htaken
            · dsimp only
              rw [htaken]
              bv_omega
            · dsimp only
              rw [htaken]
              exact hlt

/-- Where the clock reads more each time, it stays ahead. -/
theorem run_behind (events : List ClientEvent)
    (htimes : (events.filterMap ClientEvent.time).Pairwise (· < ·)) (now : U64)
    (hnow : ∀ time ∈ events.filterMap ClientEvent.time, time < now) : Behind now (run P events) := by
  induction events using List.reverseRecOn generalizing now with
  | nil =>
      have hnone : (run P []).client = none := rfl
      refine ⟨fun c hc => ?_, fun hsome => ?_, fun _ => (started_untouched P).2⟩
      · rw [hnone] at hc
        cases hc
      · rw [hnone] at hsome
        cases hsome
  | append_singleton events event ih =>
      have hrun : run P (events ++ [event]) = (run P events).after P event := by
        simp [run, List.foldl_append]
      rw [hrun]
      rw [List.filterMap_append, List.pairwise_append] at htimes
      rw [List.filterMap_append] at hnow
      cases htime : event.time with
      | none =>
          refine Behind.untimed P (ih htimes.1 now fun time hmem => ?_) htime
          exact hnow time (List.mem_append_left _ hmem)
      | some time =>
          have hmem : time ∈ [event].filterMap ClientEvent.time := by simp [htime]
          have hbehind := ih htimes.1 time fun earlier hearlier => htimes.2.2 earlier hearlier time hmem
          exact hbehind.timed P htime (hnow time (List.mem_append_right _ hmem))

/-- Whatever daemons there have been before, and whatever they have asked for: as long as
the clock reads more each time, no request of a client is turned down for its sequence.
An `arm` or `update` is valid if its limits are in bounds, and every `disarm` is a
restore as requested. -/
theorem command_fresh (events : List ClientEvent) (now : U64)
    (htimes : (events.filterMap ClientEvent.time ++ [now]).Pairwise (· < ·)) (c : DriverClient)
    (hclient : (run P events).client = some c) :
    let w := (run P events).world
    let next := c.nextSequence now
    (∀ pl1MW pl2MW hwpMode floorMW ceilingPL1MW ceilingPL2MW : U32,
      validateLimitRequest (some (next.armRequest pl1MW pl2MW hwpMode)) w.driver.lastSequence floorMW
          ceilingPL1MW ceilingPL2MW watchdogTimeoutMS =
        decide ((hwpMode = hwpReleaseMaximum ∨ hwpMode = hwpBootstrapAndReleaseMaximum) ∧
          floorMW ≤ pl1MW ∧ pl1MW ≤ pl2MW ∧ 0 < ceilingPL1MW ∧ 0 < ceilingPL2MW ∧
          pl1MW ≤ ceilingPL1MW ∧ pl2MW ≤ ceilingPL2MW)) ∧
      (∀ pl1MW pl2MW, next.updateRequest pl1MW pl2MW = next.armRequest pl1MW pl2MW hwpReleaseMaximum) ∧
      (exec (disarmExit (some next.disarmRequest)) w).1 = .restore .requested .success .error := by
  intro w next
  rw [List.pairwise_append] at htimes
  have hbehind := run_behind P events htimes.1 now fun time hmem =>
    htimes.2.2 time hmem now List.mem_cons_self
  have hnext : next = ⟨now⟩ := nextSequence_later (hbehind.client c hclient)
  have hlast : w.driver.lastSequence < now := hbehind.driver (by rw [hclient]; rfl)
  refine ⟨fun pl1MW pl2MW hwpMode floorMW ceilingPL1MW ceilingPL2MW => ?_, fun _ _ => rfl, ?_⟩
  · rw [hnext, validateLimitRequest, decide_eq_decide]
    constructor
    · rintro ⟨-, -, -, hmode, -, hbounds⟩
      exact ⟨hmode, hbounds⟩
    · rintro ⟨hmode, hbounds⟩
      exact ⟨rfl, rfl, rfl, hmode, hlast, hbounds⟩
  · have hvalid : ¬ (protocolVersion ≠ protocolVersion ∨ commandRequestSize ≠ commandRequestSize ∨
        now ≤ w.driver.lastSequence) := by
      simp only [ne_eq, not_true_eq_false, false_or, BitVec.not_le]
      exact hlast
    rw [hnext]
    generalize hexec : exec (disarmExit (some (DriverClient.disarmRequest ⟨now⟩))) w = r
    unfold disarmExit at hexec
    rw [exec_bind, exec_getDriver] at hexec
    rcases exec_ite_cases hexec with ⟨hinvalid, -⟩ | ⟨-, hexec⟩
    · exact absurd hinvalid hvalid
    · rw [← hexec]
      rfl

/-- A daemon that arms the driver and goes, and the next one. -/
def restart : List ClientEvent :=
  [.construct 100, .command 200 (.arm 10000 10000 hwpReleaseMaximum), .clientDisconnected,
    .construct 300]

theorem command_fresh_restart :
    (exec (disarmExit (some ((DriverClient.construct 300).nextSequence 400).disarmRequest))
      (run (machine firmwareLimit fun _ => false) restart).world).1 =
        .restore .requested .success .error := by
  have hfresh := command_fresh (machine firmwareLimit fun _ => false) restart 400 (by decide +kernel)
    (.construct 300) rfl
  exact hfresh.2.2

end Session

end TurboMac.Kext
