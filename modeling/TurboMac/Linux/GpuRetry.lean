import Mathlib.Algebra.Order.Ring.Rat
import Mathlib.Tactic.Linarith
import TurboMac.Lib.Interleaving
import TurboMac.Linux.Gpu

/-! # `main.py`: the startup retries of the GPU mode

`_maybe_retry_gpu`, `_apply_gpu_from_config`, and what else touches their two fields:
`set_gpu` and the side effect of `gpu.cap_w`. No lock guards the fields, so each read and
each write of one is a step of its own, and the control loop, the threads that apply a mode
and the requests take their steps in any order. The configuration, and what a mode change
comes to, are in the result that `apply_mode` returns.
-/

namespace TurboMac.Linux

def gpuRetryEveryS : ℚ := 15
def gpuRetries : ℤ := 12

def gpuRetryable : List String :=
  ["amdgpu device not found", "amdgpu hwmon not found", "vga_switcheroo not available"]

/-- `retryable` of `_apply_gpu_from_config`. -/
def GpuResult.retryable (res : GpuResult) : Bool :=
  !res.ok && gpuRetryable.any fun r => decide (r.toList <:+: res.reason.toList)

/-- Who calls `apply_mode`: a thread with its attempt, 0 for the startup or a new cap, or a
request. -/
inductive GpuCaller where
  | attempt (number : ℤ)
  | request
deriving DecidableEq, Repr

/-- What sets `gpu_retry_left`: attempt 0 has failed and is to be retried, a retry counts down,
and what ends the retries sets it to 0. -/
inductive RetryEvent where
  | scheduled
  | retry (attempt : ℤ) (now : ℚ)
  | succeeded (attempt : ℤ)
  | gaveUp (attempt : ℤ)
  | request
deriving DecidableEq, Repr

/-- How far a call has come. -/
inductive GpuPhase where
  /-- of a new cap, past the check of `gpu.busy` -/
  | admitted
  | starting
  /-- in `apply_mode`, with `Gpu.lock` -/
  | locked
  | returned (res : GpuResult)
  /-- about to write `gpu_retry_left` -/
  | writing (e : RetryEvent)
  /-- about to write `gpu_retry_next` -/
  | clearing
  | done
deriving DecidableEq, Repr

/-- How far the control loop has come in `_maybe_retry_gpu`. -/
inductive LoopPhase where
  | idle
  /-- the three conditions of the first `if` -/
  | left
  | busy
  | alive
  /-- whether `gpu_retry_next` is none -/
  | next
  | due
  | attempt
  /-- `-= 1`: the read, and the write -/
  | count (attempt : ℤ)
  | store (attempt left : ℤ)
  | schedule (attempt : ℤ)
  | start (attempt : ℤ)
deriving DecidableEq, Repr

namespace LoopPhase

/-- Due: past the comparison with `gpu_retry_next`, and the retry not yet counted. -/
def isDue : LoopPhase → Bool
  | .attempt | .count _ | .store _ _ => true
  | _ => false

/-- Past the test of `gpu_retry_left`, and the retry not yet counted. -/
def isChecked : LoopPhase → Bool
  | .busy | .alive | .next | .due | .attempt | .count _ | .store _ _ => true
  | _ => false

/-- An attempt in hand. -/
def number : LoopPhase → Option ℤ
  | .count n | .store n _ => some n
  | _ => none

end LoopPhase

/-- The two fields, the calls, which of them is `gpu_thread`, the control loop with its clock,
and the writes of `gpu_retry_left`, newest first. -/
structure GpuRetry where
  retryLeft : ℤ
  retryNext : Option ℚ
  calls : List (GpuCaller × GpuPhase)
  thread : ℕ
  loop : LoopPhase
  clock : ℚ
  events : List RetryEvent
deriving DecidableEq, Repr

/-- A tick, a step of the control loop in it or of a call, or a new call by `_side_effects` or a
request. -/
inductive RetryStep where
  | tick (now : ℚ)
  | loop
  | start (call : ℕ)
  | lock (call : ℕ)
  | applied (call : ℕ) (res : GpuResult)
  /-- `apply_mode` raises -/
  | raised (call : ℕ)
  | finish (call : ℕ)
  | write (call : ℕ)
  | clear (call : ℕ)
  | capChanged
  | setGpu
deriving DecidableEq, Repr

namespace GpuRetry

variable (s : GpuRetry)

/-- `gpu.busy`. -/
def busy : Bool := s.calls.any fun call => call.2 = .locked

/-- `gpu_thread.is_alive()`. -/
def threadAlive : Bool := s.calls[s.thread]?.any fun call => call.2 ≠ .done

/-- The daemon after `setup`, its startup thread just started. -/
def init (now : ℚ) : GpuRetry := ⟨0, none, [(.attempt 0, .starting)], 0, .idle, now, []⟩

/-- A call in another phase. -/
def setPhase (call : ℕ) (caller : GpuCaller) (phase : GpuPhase) : GpuRetry :=
  { s with calls := s.calls.set call (caller, phase) }

/-- The next step of `_maybe_retry_gpu`. -/
def maybeRetryGpu : GpuRetry :=
  match s.loop with
  | .idle => s
  | .left => { s with loop := if s.retryLeft ≤ 0 then .idle else .busy }
  | .busy => { s with loop := if s.busy then .idle else .alive }
  | .alive => { s with loop := if s.threadAlive then .idle else .next }
  | .next =>
    match s.retryNext with
    | none => { s with retryNext := some (s.clock + gpuRetryEveryS), loop := .idle }
    | some _ => { s with loop := .due }
  | .due =>
    match s.retryNext with
    -- `now < None` raises, and `loop_once` goes on
    | none => { s with loop := .idle }
    | some next => { s with loop := if s.clock < next then .idle else .attempt }
  | .attempt => { s with loop := .count (gpuRetries - s.retryLeft + 1) }
  | .count attempt => { s with loop := .store attempt s.retryLeft }
  | .store attempt left =>
    { s with
      retryLeft := left - 1
      loop := .schedule attempt
      events := .retry attempt s.clock :: s.events }
  | .schedule attempt =>
    { s with retryNext := some (s.clock + gpuRetryEveryS), loop := .start attempt }
  | .start attempt =>
    { s with
      calls := s.calls ++ [(.attempt attempt, .starting)]
      thread := s.calls.length
      loop := .idle }

/-- What the end of `_apply_gpu_from_config` goes on to. -/
def afterApplied (attempt : ℤ) (res : GpuResult) : GpuPhase :=
  if attempt = 0 then if res.retryable then .writing .scheduled else .done
  else if res.ok then .writing (.succeeded attempt)
  else if !res.retryable || decide (s.retryLeft ≤ 0) then .writing (.gaveUp attempt)
  else .done

/-- A write of `gpu_retry_left` by a call. -/
def writeLeft (e : RetryEvent) : GpuRetry :=
  { s with
    retryLeft := if e = .scheduled then gpuRetries else 0
    events := e :: s.events }

/-- The state after a step, if the step can be taken. -/
def step (s : GpuRetry) : RetryStep → Option GpuRetry
  | .tick now =>
    if s.loop ≠ .idle ∨ now < s.clock then none else some { s with clock := now, loop := .left }
  | .loop => if s.loop = .idle then none else some s.maybeRetryGpu
  | .start call =>
    match s.calls[call]? with
    | some (caller, .admitted) => some { s.setPhase call caller .starting with thread := call }
    | _ => none
  | .lock call =>
    match s.calls[call]? with
    | some (caller, .starting) => if s.busy then none else some (s.setPhase call caller .locked)
    | _ => none
  | .applied call res =>
    match s.calls[call]? with
    | some (caller, .locked) => some (s.setPhase call caller (.returned res))
    | _ => none
  | .raised call =>
    match s.calls[call]? with
    | some (caller, .locked) => some (s.setPhase call caller .done)
    | _ => none
  | .finish call =>
    match s.calls[call]? with
    | some (.attempt number, .returned res) =>
      some (s.setPhase call (.attempt number) (s.afterApplied number res))
    | some (.request, .returned _) => some (s.setPhase call .request .done)
    | _ => none
  | .write call =>
    match s.calls[call]? with
    | some (.attempt number, .writing e) =>
      some ((s.setPhase call (.attempt number)
        (if e = .scheduled then .clearing else .done)).writeLeft e)
    -- a request sets the field before it applies its mode
    | some (.request, .writing e) => some ((s.setPhase call .request .starting).writeLeft e)
    | _ => none
  | .clear call =>
    match s.calls[call]? with
    | some (caller, .clearing) => some { s.setPhase call caller .done with retryNext := none }
    | _ => none
  | .capChanged =>
    if s.busy then some s else some { s with calls := s.calls ++ [(.attempt 0, .admitted)] }
  | .setGpu =>
    -- a request that finds a change running is turned down
    if s.busy then some s
    else some { s with calls := s.calls ++ [(.request, .writing .request)] }

/-- Only a retry. -/
def RetryEvent.IsRetry (e : RetryEvent) : Prop := ∃ attempt now, e = .retry attempt now

/-- What is about to be written is not a retry. -/
def Quiet (calls : List (GpuCaller × GpuPhase)) : Prop :=
  ∀ caller e, (caller, GpuPhase.writing e) ∈ calls → ∀ attempt now, e ≠ .retry attempt now

/-! ## Apart -/

/-- The attempts are at least 15 s apart, and none is over 13. -/
def Apart (events : List RetryEvent) : Prop :=
  ∀ newer attempt now older, events = newer ++ .retry attempt now :: older →
    1 ≤ attempt ∧ attempt ≤ 13 ∧
    ∀ attempt' now', .retry attempt' now' ∈ older → gpuRetryEveryS ≤ now - now'

/-- `gpu_retry_left` is from -1 to 12, and the next retry is 15 s after the last one. -/
structure Timed (s : GpuRetry) : Prop where
  quiet : Quiet s.calls
  left : -1 ≤ s.retryLeft ∧ s.retryLeft ≤ 12
  /-- nobody else counts down, and it is not below 0 where it has been tested -/
  checked : s.loop.isChecked = true → 0 ≤ s.retryLeft
  stored : ∀ attempt left, s.loop = .store attempt left → 0 ≤ left ∧ left ≤ 12
  number : ∀ attempt ∈ s.loop.number, 1 ≤ attempt ∧ attempt ≤ 13
  next : (∀ attempt, s.loop ≠ .schedule attempt) → ∀ next ∈ s.retryNext,
    ∀ attempt now, .retry attempt now ∈ s.events → now + gpuRetryEveryS ≤ next
  due : s.loop.isDue = true → ∀ attempt now, .retry attempt now ∈ s.events →
    now + gpuRetryEveryS ≤ s.clock
  clock : ∀ attempt now, .retry attempt now ∈ s.events → now ≤ s.clock
  apart : Apart s.events

section

variable {s s' : GpuRetry} {events : List RetryEvent}

theorem apart_cons {e : RetryEvent} (h : Apart events) (he : ∀ attempt now, e ≠ .retry attempt now) :
    Apart (e :: events) := by
  intro newer attempt now older heq
  cases newer with
  | nil => exact absurd (List.cons.inj heq).1 (he attempt now)
  | cons e' newer => exact h newer attempt now older (List.cons.inj heq).2

theorem apart_retry {attempt : ℤ} {now : ℚ} (h : Apart events) (hattempt : 1 ≤ attempt ∧ attempt ≤ 13)
    (hapart : ∀ attempt' now', .retry attempt' now' ∈ events → gpuRetryEveryS ≤ now - now') :
    Apart (.retry attempt now :: events) := by
  intro newer attempt' now' older heq
  cases newer with
  | nil =>
      rcases List.cons.inj heq with ⟨hretry, rfl⟩
      cases hretry
      exact ⟨hattempt.1, hattempt.2, hapart⟩
  | cons e' newer => exact h newer attempt' now' older (List.cons.inj heq).2

/-- A retry is a step of the control loop's, whoever else has written since. -/
theorem mem_of_cons {e : RetryEvent} (he : ∀ attempt now, e ≠ .retry attempt now) {attempt : ℤ}
    {now : ℚ} (h : .retry attempt now ∈ e :: events) : .retry attempt now ∈ events :=
  (List.mem_cons.1 h).resolve_left fun heq => he attempt now heq.symm

theorem Quiet.set {calls : List (GpuCaller × GpuPhase)} (h : Quiet calls) (call : ℕ)
    (caller : GpuCaller) {phase : GpuPhase}
    (hphase : ∀ e, phase = .writing e → ∀ attempt now, e ≠ .retry attempt now) :
    Quiet (calls.set call (caller, phase)) := by
  intro caller' e hmem
  rcases List.mem_or_eq_of_mem_set hmem with hold | hnew
  · exact h caller' e hold
  · exact hphase e (Prod.mk.inj hnew).2.symm

theorem Quiet.append {calls : List (GpuCaller × GpuPhase)} (h : Quiet calls) (caller : GpuCaller)
    {phase : GpuPhase} (hphase : ∀ e, phase = .writing e → ∀ attempt now, e ≠ .retry attempt now) :
    Quiet (calls ++ [(caller, phase)]) := by
  intro caller' e hmem
  rcases List.mem_append.1 hmem with hold | hnew
  · exact h caller' e hold
  · exact hphase e (Prod.mk.inj (List.mem_singleton.1 hnew)).2.symm

theorem quiet_afterApplied (s : GpuRetry) (number : ℤ) (res : GpuResult) :
    ∀ e, s.afterApplied number res = .writing e → ∀ attempt now, e ≠ .retry attempt now := by
  intro e
  unfold afterApplied
  split_ifs
  all_goals
    intro heq
    cases heq
    try exact nofun

/-- What leaves the fields and the control loop keeps the times. -/
theorem Timed.frame (h : Timed s) (hquiet : Quiet s'.calls) (hleft : s'.retryLeft = s.retryLeft)
    (hnext : s'.retryNext = s.retryNext ∨ s'.retryNext = none) (hloop : s'.loop = s.loop)
    (hclock : s'.clock = s.clock) (hevents : s'.events = s.events) : Timed s' := by
  refine ⟨hquiet, ?_, ?_, ?_, ?_, ?_, ?_, ?_, ?_⟩
  · rw [hleft]
    exact h.left
  · rw [hleft, hloop]
    exact h.checked
  · rw [hloop]
    exact h.stored
  · rw [hloop]
    exact h.number
  · rw [hloop, hevents]
    rcases hnext with hnext | hnext
    · rw [hnext]
      exact h.next
    · rw [hnext]
      exact nofun
  · rw [hloop, hclock, hevents]
    exact h.due
  · rw [hclock, hevents]
    exact h.clock
  · rw [hevents]
    exact h.apart

/-- A call that writes `gpu_retry_left`. -/
theorem Timed.write (h : Timed s) {e : RetryEvent} (he : ∀ attempt now, e ≠ .retry attempt now) :
    Timed (s.writeLeft e) := by
  have hleft : 0 ≤ (s.writeLeft e).retryLeft ∧ (s.writeLeft e).retryLeft ≤ 12 := by
    unfold writeLeft gpuRetries
    dsimp only
    split <;> omega
  refine ⟨h.quiet, ⟨by omega, hleft.2⟩, fun _ => hleft.1, h.stored, h.number, ?_, ?_, ?_, ?_⟩
  · intro hloop next hnext attempt now hmem
    exact h.next hloop next hnext attempt now (mem_of_cons he hmem)
  · intro hdue attempt now hmem
    exact h.due hdue attempt now (mem_of_cons he hmem)
  · intro attempt now hmem
    exact h.clock attempt now (mem_of_cons he hmem)
  · exact apart_cons h.apart he

/-- A step of the control loop that only goes on. -/
theorem Timed.goOn (h : Timed s) {phase : LoopPhase}
    (hchecked : phase.isChecked = true → 0 ≤ s.retryLeft)
    (hstored : ∀ attempt left, phase ≠ .store attempt left) (hnumber : phase.number = none)
    (hnext : ∀ attempt, s.loop ≠ .schedule attempt)
    (hdue : phase.isDue = true → ∀ attempt now, .retry attempt now ∈ s.events →
      now + gpuRetryEveryS ≤ s.clock) : Timed { s with loop := phase } := by
  refine ⟨h.quiet, h.left, hchecked, ?_, ?_, fun _ => h.next hnext, hdue, h.clock, h.apart⟩
  · exact fun attempt left heq => absurd heq (hstored attempt left)
  · intro attempt hmem
    rw [show ({ s with loop := phase } : GpuRetry).loop.number = none from hnumber] at hmem
    cases hmem

theorem Timed.stop (h : Timed s) (hnext : ∀ attempt, s.loop ≠ .schedule attempt) :
    Timed { s with loop := .idle } :=
  h.goOn nofun nofun rfl hnext nofun

/-- The next retry is 15 s after now. -/
theorem Timed.scheduled (h : Timed s) {phase : LoopPhase}
    (hphase : phase.isChecked = false ∧ phase.isDue = false ∧ phase.number = none) :
    Timed { s with retryNext := some (s.clock + gpuRetryEveryS), loop := phase } := by
  refine ⟨h.quiet, h.left, ?_, ?_, ?_, ?_, ?_, h.clock, h.apart⟩
  · intro hchecked
    exact absurd hchecked (by rw [show _ = false from hphase.1]; decide)
  · intro attempt left hstore
    have hloop : phase = .store attempt left := hstore
    rw [hloop] at hphase
    cases hphase.1
  · intro attempt hmem
    rw [show _ = none from hphase.2.2] at hmem
    cases hmem
  · intro _ next hnext attempt now hmem
    obtain rfl := Option.some.inj hnext
    have hle := h.clock attempt now hmem
    linarith
  · intro hdue
    exact absurd hdue (by rw [show _ = false from hphase.2.1]; decide)

theorem Timed.maybeRetryGpu (h : Timed s) : Timed s.maybeRetryGpu := by
  unfold GpuRetry.maybeRetryGpu
  cases hloop : s.loop with
  | idle => exact h
  | left =>
      dsimp only
      split_ifs with hleft
      · exact h.stop (by rw [hloop]; exact nofun)
      · exact h.goOn (fun _ => by omega) nofun rfl (by rw [hloop]; exact nofun) nofun
  | busy =>
      dsimp only
      split_ifs
      · exact h.stop (by rw [hloop]; exact nofun)
      · exact h.goOn (fun _ => h.checked (by rw [hloop]; rfl)) nofun rfl (by rw [hloop]; exact nofun)
          nofun
  | alive =>
      dsimp only
      split_ifs
      · exact h.stop (by rw [hloop]; exact nofun)
      · exact h.goOn (fun _ => h.checked (by rw [hloop]; rfl)) nofun rfl (by rw [hloop]; exact nofun)
          nofun
  | next =>
      dsimp only
      split
      · exact h.scheduled ⟨rfl, rfl, rfl⟩
      · exact h.goOn (fun _ => h.checked (by rw [hloop]; rfl)) nofun rfl (by rw [hloop]; exact nofun)
          nofun
  | due =>
      have hphase : ∀ attempt, s.loop ≠ .schedule attempt := by
        rw [hloop]
        exact nofun
      dsimp only
      split
      · exact h.stop hphase
      · rename_i next hnext
        split_ifs with hearly
        · exact h.stop hphase
        · -- whatever has been retried, it was 15 s before
          refine h.goOn (fun _ => h.checked (by rw [hloop]; rfl)) nofun rfl hphase ?_
          intro _ attempt now hmem
          exact (h.next hphase next hnext attempt now hmem).trans (not_lt.1 hearly)
  | attempt =>
      have hleft := h.checked (by rw [hloop]; rfl)
      have hbound := h.left.2
      show Timed { s with loop := .count (gpuRetries - s.retryLeft + 1) }
      refine ⟨h.quiet, h.left, fun _ => hleft, nofun, ?_, ?_, ?_, h.clock, h.apart⟩
      · intro attempt hmem
        obtain rfl := Option.some.inj hmem
        unfold gpuRetries
        omega
      · exact fun _ => h.next (by rw [hloop]; exact nofun)
      · exact fun _ => h.due (by rw [hloop]; rfl)
  | count attempt =>
      have hleft := h.checked (by rw [hloop]; rfl)
      show Timed { s with loop := .store attempt s.retryLeft }
      refine ⟨h.quiet, h.left, fun _ => hleft, ?_, ?_, ?_, ?_, h.clock, h.apart⟩
      · intro attempt' left' heq
        cases heq
        exact ⟨hleft, h.left.2⟩
      · exact fun attempt' hmem => h.number attempt' (by rw [hloop]; exact hmem)
      · exact fun _ => h.next (by rw [hloop]; exact nofun)
      · exact fun _ => h.due (by rw [hloop]; rfl)
  | store attempt left =>
      have hstored := h.stored attempt left hloop
      have hnumber := h.number attempt (by rw [hloop]; rfl)
      have hdue := h.due (by rw [hloop]; rfl)
      refine ⟨h.quiet, ⟨?_, ?_⟩, nofun, nofun, nofun, ?_, nofun, ?_, ?_⟩
      · show -1 ≤ left - 1
        omega
      · show left - 1 ≤ 12
        omega
      · exact fun hphase => absurd rfl (hphase attempt)
      · intro attempt' now hmem
        rcases List.mem_cons.1 hmem with heq | hold
        · cases heq
          exact le_refl _
        · exact h.clock attempt' now hold
      · apply apart_retry h.apart hnumber
        intro attempt' now hmem
        have hle := hdue attempt' now hmem
        linarith
  | schedule attempt => exact h.scheduled ⟨rfl, rfl, rfl⟩
  | start attempt =>
      have hstopped := h.stop (by rw [hloop]; exact nofun)
      exact hstopped.frame (h.quiet.append _ nofun) rfl (.inl rfl) rfl rfl rfl

theorem Timed.step {x : RetryStep} (h : Timed s) (hstep : s.step x = some s') : Timed s' := by
  have hphase : ∀ call caller phase, (∀ e, phase = .writing e → ∀ attempt now, e ≠ .retry attempt now) →
      Timed (s.setPhase call caller phase) := fun call caller phase hquiet =>
    h.frame (h.quiet.set call caller hquiet) rfl (.inl rfl) rfl rfl rfl
  cases x with
  | tick now =>
      rw [GpuRetry.step] at hstep
      split at hstep
      · cases hstep
      · rename_i hclock
        push Not at hclock
        obtain rfl := Option.some.inj hstep
        have hnext := h.next (by rw [hclock.1]; exact nofun)
        refine ⟨h.quiet, h.left, nofun, nofun, nofun, fun _ => hnext, nofun, ?_, h.apart⟩
        exact fun attempt now' hmem => (h.clock attempt now' hmem).trans hclock.2
  | loop =>
      rw [GpuRetry.step] at hstep
      split at hstep
      · cases hstep
      · obtain rfl := Option.some.inj hstep
        exact h.maybeRetryGpu
  | start call =>
      rw [GpuRetry.step] at hstep
      split at hstep
      · obtain rfl := Option.some.inj hstep
        exact h.frame (h.quiet.set call _ nofun) rfl (.inl rfl) rfl rfl rfl
      · cases hstep
  | lock call =>
      rw [GpuRetry.step] at hstep
      split at hstep
      · split at hstep
        · cases hstep
        · obtain rfl := Option.some.inj hstep
          exact hphase _ _ _ nofun
      · cases hstep
  | applied call res | raised call =>
      rw [GpuRetry.step] at hstep
      split at hstep
      · obtain rfl := Option.some.inj hstep
        exact hphase _ _ _ nofun
      · cases hstep
  | finish call =>
      rw [GpuRetry.step] at hstep
      split at hstep
      · obtain rfl := Option.some.inj hstep
        exact hphase _ _ _ (quiet_afterApplied s _ _)
      · obtain rfl := Option.some.inj hstep
        exact hphase _ _ _ nofun
      · cases hstep
  | write call =>
      rw [GpuRetry.step] at hstep
      split at hstep
      · rename_i number e hcall
        obtain rfl := Option.some.inj hstep
        have he := h.quiet _ e (List.mem_of_getElem? hcall)
        refine (hphase _ _ _ ?_).write he
        split_ifs
        · exact nofun
        · exact nofun
      · rename_i e hcall
        obtain rfl := Option.some.inj hstep
        have hstarting := hphase call .request .starting nofun
        exact hstarting.write (h.quiet _ e (List.mem_of_getElem? hcall))
      · cases hstep
  | clear call =>
      rw [GpuRetry.step] at hstep
      split at hstep
      · obtain rfl := Option.some.inj hstep
        exact h.frame (h.quiet.set call _ nofun) rfl (.inr rfl) rfl rfl rfl
      · cases hstep
  | capChanged =>
      rw [GpuRetry.step] at hstep
      split at hstep
      · obtain rfl := Option.some.inj hstep
        exact h
      · obtain rfl := Option.some.inj hstep
        exact h.frame (h.quiet.append _ nofun) rfl (.inl rfl) rfl rfl rfl
  | setGpu =>
      rw [GpuRetry.step] at hstep
      split at hstep
      · obtain rfl := Option.some.inj hstep
        exact h
      · obtain rfl := Option.some.inj hstep
        refine h.frame (h.quiet.append _ ?_) rfl (.inl rfl) rfl rfl rfl
        intro e heq
        cases heq
        exact nofun

theorem timed_init (now : ℚ) : Timed (init now) := by
  refine ⟨?_, ?_, nofun, nofun, nofun, nofun, nofun, nofun, ?_⟩
  · intro caller e hmem
    cases List.mem_singleton.1 hmem
  · show (-1 : ℤ) ≤ 0 ∧ (0 : ℤ) ≤ 12
    omega
  · intro newer attempt now' older heq
    cases newer <;> cases heq

end

/-! ## Numbered -/

/-- Each attempt is the next of at most 12 since attempt 0 has failed. -/
def Numbered (events : List RetryEvent) : Prop :=
  ∀ newer attempt now older, events = newer ++ .retry attempt now :: older →
    attempt ≤ gpuRetries ∧
    ∃ retries before, older = retries ++ .scheduled :: before ∧
      (∀ e ∈ retries, RetryEvent.IsRetry e) ∧ (retries.length : ℤ) + 1 = attempt

/-- Nobody writes `gpu_retry_left` between the test of the control loop and its write. -/
def Solo (s : GpuRetry) (x : RetryStep) : Prop := s.loop.isChecked = true → ∀ call, x ≠ .write call

/-- While retries are left, there have been only retries since they were scheduled, and the control
loop has one of them in hand. -/
structure Counted (s : GpuRetry) : Prop where
  left : 0 < s.retryLeft → ∃ retries older, s.events = retries ++ .scheduled :: older ∧
    (∀ e ∈ retries, RetryEvent.IsRetry e) ∧ (retries.length : ℤ) + s.retryLeft = gpuRetries
  checked : s.loop.isChecked = true → 0 < s.retryLeft
  number : ∀ attempt ∈ s.loop.number, attempt = gpuRetries - s.retryLeft + 1
  stored : ∀ attempt left, s.loop = .store attempt left → left = s.retryLeft
  numbered : Numbered s.events

section

variable {s s' : GpuRetry} {events : List RetryEvent}

theorem numbered_cons {e : RetryEvent} (h : Numbered events)
    (he : ∀ attempt now, e ≠ .retry attempt now) : Numbered (e :: events) := by
  intro newer attempt now older heq
  cases newer with
  | nil => exact absurd (List.cons.inj heq).1 (he attempt now)
  | cons e' newer => exact h newer attempt now older (List.cons.inj heq).2

theorem numbered_retry {attempt : ℤ} {now : ℚ} (h : Numbered events) (hattempt : attempt ≤ gpuRetries)
    (hbefore : ∃ retries before, events = retries ++ .scheduled :: before ∧
      (∀ e ∈ retries, RetryEvent.IsRetry e) ∧ (retries.length : ℤ) + 1 = attempt) :
    Numbered (.retry attempt now :: events) := by
  intro newer attempt' now' older heq
  cases newer with
  | nil =>
      rcases List.cons.inj heq with ⟨hretry, rfl⟩
      cases hretry
      exact ⟨hattempt, hbefore⟩
  | cons e' newer => exact h newer attempt' now' older (List.cons.inj heq).2

/-- What leaves the count and the control loop. -/
theorem Counted.frame (h : Counted s) (hleft : s'.retryLeft = s.retryLeft) (hloop : s'.loop = s.loop)
    (hevents : s'.events = s.events) : Counted s' := by
  constructor
  · rw [hleft, hevents]
    exact h.left
  · rw [hleft, hloop]
    exact h.checked
  · rw [hleft, hloop]
    exact h.number
  · rw [hleft, hloop]
    exact h.stored
  · rw [hevents]
    exact h.numbered

/-- A step of the control loop up to its write, with what it has in hand. -/
theorem Counted.goOn (h : Counted s) (hleft : s'.retryLeft = s.retryLeft)
    (hevents : s'.events = s.events) (hchecked : s'.loop.isChecked = true → 0 < s.retryLeft)
    (hnumber : ∀ attempt ∈ s'.loop.number, attempt = gpuRetries - s.retryLeft + 1)
    (hstored : ∀ attempt left, s'.loop = .store attempt left → left = s.retryLeft) : Counted s' := by
  constructor
  · rw [hleft, hevents]
    exact h.left
  · rw [hleft]
    exact hchecked
  · rw [hleft]
    exact hnumber
  · rw [hleft]
    exact hstored
  · rw [hevents]
    exact h.numbered

theorem Counted.maybeRetryGpu (h : Counted s) : Counted s.maybeRetryGpu := by
  unfold GpuRetry.maybeRetryGpu
  cases hloop : s.loop with
  | idle => exact h
  | left =>
      dsimp only
      split_ifs with hleft
      · exact h.goOn rfl rfl nofun nofun nofun
      · exact h.goOn rfl rfl (fun _ => not_le.1 hleft) nofun nofun
  | busy =>
      dsimp only
      split_ifs
      · exact h.goOn rfl rfl nofun nofun nofun
      · exact h.goOn rfl rfl (fun _ => h.checked (by rw [hloop]; rfl)) nofun nofun
  | alive =>
      dsimp only
      split_ifs
      · exact h.goOn rfl rfl nofun nofun nofun
      · exact h.goOn rfl rfl (fun _ => h.checked (by rw [hloop]; rfl)) nofun nofun
  | next =>
      dsimp only
      split
      · exact h.goOn rfl rfl nofun nofun nofun
      · exact h.goOn rfl rfl (fun _ => h.checked (by rw [hloop]; rfl)) nofun nofun
  | due =>
      dsimp only
      split
      · exact h.goOn rfl rfl nofun nofun nofun
      · split_ifs
        · exact h.goOn rfl rfl nofun nofun nofun
        · exact h.goOn rfl rfl (fun _ => h.checked (by rw [hloop]; rfl)) nofun nofun
  | attempt =>
      show Counted { s with loop := .count (gpuRetries - s.retryLeft + 1) }
      refine h.goOn rfl rfl (fun _ => h.checked (by rw [hloop]; rfl)) ?_ nofun
      intro attempt hmem
      exact (Option.some.inj hmem).symm
  | count attempt =>
      have hnumber := h.number attempt (by rw [hloop]; rfl)
      show Counted { s with loop := .store attempt s.retryLeft }
      refine h.goOn rfl rfl (fun _ => h.checked (by rw [hloop]; rfl)) ?_ ?_
      · intro attempt' hmem
        rw [← Option.some.inj hmem]
        exact hnumber
      · intro attempt' left' heq
        cases heq
        rfl
  | store attempt left =>
      -- one retry more, and one less is left
      have hleft := h.stored attempt left hloop
      have hpos := h.checked (by rw [hloop]; rfl)
      have hnumber := h.number attempt (by rw [hloop]; rfl)
      rcases h.left hpos with ⟨retries, older, hevents, hall, hlength⟩
      refine ⟨fun _ => ⟨.retry attempt s.clock :: retries, older, ?_, ?_, ?_⟩, nofun, nofun, nofun, ?_⟩
      · show _ :: s.events = _
        rw [hevents]
        rfl
      · intro e he
        rcases List.mem_cons.1 he with rfl | he
        · exact ⟨_, _, rfl⟩
        · exact hall e he
      · show ((retries.length + 1 : ℕ) : ℤ) + (left - 1) = gpuRetries
        push_cast
        omega
      · apply numbered_retry h.numbered
        · omega
        · exact ⟨retries, older, hevents, hall, by omega⟩
  | schedule attempt => exact h.goOn rfl rfl nofun nofun nofun
  | start attempt => exact h.goOn rfl rfl nofun nofun nofun

/-- A write by a call, while the control loop is outside. -/
theorem Counted.write (h : Counted s) {e : RetryEvent} (he : ∀ attempt now, e ≠ .retry attempt now)
    (hloop : s.loop.isChecked = false) : Counted (s.writeLeft e) := by
  have hunchecked : ∀ phase : LoopPhase, phase.isChecked = false →
      phase.number = none ∧ ∀ attempt left, phase ≠ .store attempt left := by
    intro phase hphase
    cases phase
    all_goals
      first
      | exact ⟨rfl, nofun⟩
      | cases hphase
  obtain ⟨hnumber, hstore⟩ := hunchecked s.loop hloop
  refine ⟨?_, ?_, ?_, ?_, numbered_cons h.numbered he⟩
  · intro hpos
    unfold writeLeft at hpos ⊢
    dsimp only at hpos ⊢
    split at hpos
    · rename_i hscheduled
      rw [hscheduled]
      refine ⟨[], s.events, rfl, nofun, ?_⟩
      rw [if_pos rfl]
      rfl
    · exact absurd hpos (lt_irrefl 0)
  · intro hchecked
    rw [show (s.writeLeft e).loop.isChecked = false from hloop] at hchecked
    cases hchecked
  · intro attempt hmem
    rw [show (s.writeLeft e).loop.number = none from hnumber] at hmem
    cases hmem
  · exact fun attempt left heq => absurd heq (hstore attempt left)

theorem Counted.step {x : RetryStep} (h : Counted s) (htimed : Timed s) (hsolo : Solo s x)
    (hstep : s.step x = some s') : Counted s' := by
  cases x with
  | tick now =>
      rw [GpuRetry.step] at hstep
      split at hstep
      · cases hstep
      · obtain rfl := Option.some.inj hstep
        exact h.goOn rfl rfl nofun nofun nofun
  | loop =>
      rw [GpuRetry.step] at hstep
      split at hstep
      · cases hstep
      · obtain rfl := Option.some.inj hstep
        exact h.maybeRetryGpu
  | lock call =>
      rw [GpuRetry.step] at hstep
      split at hstep
      · split at hstep
        · cases hstep
        · obtain rfl := Option.some.inj hstep
          exact h.frame rfl rfl rfl
      · cases hstep
  | start call | applied call res | raised call | clear call =>
      rw [GpuRetry.step] at hstep
      split at hstep
      · obtain rfl := Option.some.inj hstep
        exact h.frame rfl rfl rfl
      · cases hstep
  | finish call =>
      rw [GpuRetry.step] at hstep
      split at hstep
      · obtain rfl := Option.some.inj hstep
        exact h.frame rfl rfl rfl
      · obtain rfl := Option.some.inj hstep
        exact h.frame rfl rfl rfl
      · cases hstep
  | write call =>
      have houtside : s.loop.isChecked = false := by
        by_contra hchecked
        exact hsolo (Bool.eq_true_of_not_eq_false hchecked) call rfl
      rw [GpuRetry.step] at hstep
      split at hstep
      · rename_i number e hcall
        obtain rfl := Option.some.inj hstep
        have he := htimed.quiet _ e (List.mem_of_getElem? hcall)
        have hset : Counted (s.setPhase call (.attempt number)
            (if e = .scheduled then .clearing else .done)) := h.frame rfl rfl rfl
        exact hset.write he houtside
      · rename_i e hcall
        obtain rfl := Option.some.inj hstep
        have he := htimed.quiet _ e (List.mem_of_getElem? hcall)
        have hset : Counted (s.setPhase call .request .starting) := h.frame rfl rfl rfl
        exact hset.write he houtside
      · cases hstep
  | capChanged | setGpu =>
      rw [GpuRetry.step] at hstep
      split at hstep
      · obtain rfl := Option.some.inj hstep
        exact h
      · obtain rfl := Option.some.inj hstep
        exact h.frame rfl rfl rfl

theorem counted_init (now : ℚ) : Counted (init now) := by
  refine ⟨fun hpos => absurd hpos (lt_irrefl 0), nofun, nofun, nofun, ?_⟩
  intro newer attempt now' older heq
  cases newer <;> cases heq

end

/-! ## Runs -/

/-- However the control loop, the threads and the requests interleave, retries are at least 15 s
apart. Unless somebody writes `gpu_retry_left` between the test of the control loop and its own
write, each is the next of at most 12 since attempt 0 has failed: in between none has succeeded or
given up, and nobody has asked for a mode. -/
theorem retries_law (now : ℚ) (steps : List RetryStep) (s : GpuRetry)
    (hrun : Interleaving.run step (init now) steps = some s) :
    Apart s.events ∧
    ((∀ pre x s₁, pre ++ [x] <+: steps → Interleaving.run step (init now) pre = some s₁ → Solo s₁ x) →
      Numbered s.events) := by
  constructor
  · exact (Interleaving.run_invariant (fun s x s' hs hstep => Timed.step hs hstep) (timed_init now)
      steps hrun).apart
  · intro hsolo
    have hboth := @Interleaving.run_invariant_of _ _ step (fun s => Timed s ∧ Counted s) Solo
      (fun s x s' hs hgood hstep => ⟨hs.1.step hstep, hs.2.step hs.1 hgood hstep⟩) _ _
      ⟨timed_init now, counted_init now⟩ steps hrun hsolo
    exact hboth.2.numbered

/-- So many steps of the control loop. -/
def loops (n : ℕ) : List RetryStep := List.replicate n .loop

/-- Attempt 0 finds no GPU; the first retry is due 15 s after the next tick. -/
def lateGpu : List RetryStep :=
  [.lock 0, .applied 0 ⟨false, .auto, "amdgpu device not found"⟩, .finish 0, .write 0, .clear 0,
    .tick 1] ++ loops 4 ++ [.tick 15] ++ loops 5 ++ [.tick 16] ++ loops 5

theorem retries_law_lateGpu :
    ∃ s, Interleaving.run step (init 0) (lateGpu ++ loops 5) = some s ∧
      s.events = [.retry 1 16, .scheduled] ∧ Apart s.events := by
  refine ⟨(Interleaving.run step (init 0) (lateGpu ++ loops 5)).get (by decide +kernel),
    by decide +kernel, by decide +kernel, ?_⟩
  exact (retries_law 0 (lateGpu ++ loops 5) _ (by decide +kernel)).1

/-- A request between the test and the number of the attempt: attempt 13 of 12, after somebody has
asked for a mode. -/
example : (Interleaving.run step (init 0) (lateGpu ++ [.setGpu, .write 1] ++ loops 5)).map
    (fun s => (s.retryLeft, s.events)) = some (-1, [.retry 13 16, .request, .scheduled]) := by
  decide +kernel

end GpuRetry

end TurboMac.Linux
