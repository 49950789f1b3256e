import TurboMac.Lib.Timing
import TurboMac.Linux.LoopSamples

/-! # What systemd hears of the control loop

The loop pings the watchdog exactly as long as steps of the governor succeed: a ping has
had one in the 5 s before it, and while there has been one, no 2 s pass without a ping.
-/

namespace TurboMac.Linux

open Timing (Stamp)

namespace LoopRun

variable {σ : Type} (r : LoopRun σ)

/-- The step of iteration `n` succeeds. -/
def Steps (n : ℕ) : Prop := (r.inputs n).stepRaises = false

/-- A step has succeeded within `WATCHDOG_MAX_STEP_AGE_S` of iteration `n`. -/
def Alive (n : ℕ) : Prop := ∃ m ≤ n, r.Steps m ∧ r.time n - r.time m ≤ watchdogMaxStepAgeS

/-- The loop of iteration `n` after its tick. -/
def ticked (n : ℕ) : Loop σ :=
  { ((r.state n).tick r.setup (r.inputs n) (slow n)).1 with
    loopStart := some ((r.state n).loopStart.getD (r.time n)) }

/-- The samples and the actions leave what the messages go by. -/
theorem tick_frame (l : Loop σ) (x : LoopInput σ) (s : Bool) :
    (l.tick r.setup x s).1.lastStepOk = (if x.stepRaises then l.lastStepOk else some x.now) ∧
      (l.tick r.setup x s).1.ready = l.ready ∧ (l.tick r.setup x s).1.lastWd = l.lastWd := by
  have hfold : ∀ (outcome : ApplyOutcome σ) (actions : List Action) (l : Loop σ),
      (actions.foldl (Loop.apply r.setup outcome) l).ready = l.ready ∧
        (actions.foldl (Loop.apply r.setup outcome) l).lastWd = l.lastWd := by
    intro outcome actions
    induction actions with
    | nil => exact fun l => ⟨rfl, rfl⟩
    | cons action actions ih =>
        intro l
        rw [List.foldl_cons]
        refine ⟨(ih _).1.trans ?_, (ih _).2.trans ?_⟩
        · unfold Loop.apply
          rcases action with ⟨pl1W, pl2W, reason⟩ | e
          · cases outcome <;> rfl
          · rfl
        · unfold Loop.apply
          rcases action with ⟨pl1W, pl2W, reason⟩ | e
          · cases outcome <;> rfl
          · rfl
  unfold Loop.tick
  dsimp only
  split
  · exact ⟨rfl, rfl, rfl⟩
  · exact ⟨rfl, hfold _ _ _⟩

/-- `last_step_ok`, after the tick of the iteration. -/
theorem lastStepOk_stamp : Stamp r.time r.Steps fun n => (r.state n).lastStepOk where
  init := rfl
  set n h := by
    show (r.ticked n).lastStepOk = _
    have hframe := (r.tick_frame (r.state n) (r.inputs n) (slow n)).1
    rw [h] at hframe
    exact hframe
  keep n h := by
    show (r.ticked n).lastStepOk = _
    have hframe := (r.tick_frame (r.state n) (r.inputs n) (slow n)).1
    rw [Bool.eq_true_of_not_eq_false h] at hframe
    exact hframe

theorem stepOk_iff (n : ℕ) : (r.ticked n).stepOk (r.time n) = true ↔ r.Alive n := by
  have hlast : (r.ticked n).lastStepOk = (r.state (n + 1)).lastStepOk := rfl
  unfold Loop.stepOk
  rw [hlast, Option.any_eq_true]
  constructor
  · rintro ⟨t, ht, hage⟩
    rcases r.lastStepOk_stamp.eq_some ht with ⟨m, hm, hstep, rfl⟩
    exact ⟨m, Nat.le_of_lt_succ hm, hstep, of_decide_eq_true hage⟩
  · rintro ⟨m, hm, hstep, hage⟩
    rcases r.lastStepOk_stamp.ge r.mono hstep (Nat.lt_succ_of_le hm) with ⟨t, ht, hle⟩
    refine ⟨t, ht, decide_eq_true ?_⟩
    exact (sub_le_sub_left hle _).trans hage

/-- Iteration `n` pings the watchdog. -/
def Pings (n : ℕ) : Prop := .watchdog ∈ r.notify n

/-- Iteration `n` reports that the daemon is ready. -/
def Readies (n : ℕ) : Prop := .ready ∈ r.notify n

theorem pings_iff (n : ℕ) : r.Pings n ↔ (r.ticked n).watchdogDue (r.time n) = true := by
  show Notify.watchdog ∈ (if (r.ticked n).readyDue (r.inputs n) _ then [Notify.ready] else []) ++
    (if (r.ticked n).watchdogDue (r.time n) then [Notify.watchdog] else []) ↔ _
  rw [List.mem_append]
  constructor
  · rintro (h | h)
    · split at h
      · rcases List.mem_singleton.1 h with ⟨⟩
      · cases h
    · split at h
      · assumption
      · cases h
  · intro h
    rw [if_pos h]
    exact .inr List.mem_cons_self

theorem readies_iff (n : ℕ) : r.Readies n ↔
    (r.ticked n).readyDue (r.inputs n) ((r.state n).loopStart.getD (r.time n)) = true := by
  show Notify.ready ∈ (if (r.ticked n).readyDue (r.inputs n) _ then [Notify.ready] else []) ++
    (if (r.ticked n).watchdogDue (r.time n) then [Notify.watchdog] else []) ↔ _
  rw [List.mem_append]
  constructor
  · rintro (h | h)
    · split at h
      · assumption
      · cases h
    · split at h
      · rcases List.mem_singleton.1 h with ⟨⟩
      · cases h
  · intro h
    rw [show (r.inputs n).now = r.time n from rfl, if_pos h]
    exact .inl List.mem_cons_self

/-- `last_wd`. -/
theorem lastWd_stamp : Stamp r.time r.Pings fun n => (r.state n).lastWd where
  init := rfl
  set n h := by
    show (if (r.ticked n).watchdogDue (r.time n) then some (r.time n) else (r.ticked n).lastWd) = _
    rw [if_pos ((r.pings_iff n).1 h)]
  keep n h := by
    show (if (r.ticked n).watchdogDue (r.time n) then some (r.time n) else (r.ticked n).lastWd) = _
    rw [if_neg (mt (r.pings_iff n).2 h)]
    exact (r.tick_frame (r.state n) (r.inputs n) (slow n)).2.2

/-! ## The watchdog -/

/-- Two pings are 2 s apart. -/
theorem pings_apart {m n : ℕ} (hm : r.Pings m) (hn : r.Pings n) (hmn : m < n) :
    watchdogEveryS ≤ r.time n - r.time m := by
  rcases r.lastWd_stamp.ge r.mono hm hmn with ⟨last, hlast, hle⟩
  have hdue := (r.pings_iff n).1 hn
  rw [Loop.watchdogDue, Bool.and_eq_true, decide_eq_true_eq] at hdue
  have hold : (r.ticked n).lastWd = some last :=
    (r.tick_frame (r.state n) (r.inputs n) (slow n)).2.2.trans hlast
  have helapsed := hdue.2 last hold
  linarith

/-- While a step has succeeded in time, the last ping is less than 2 s old. -/
theorem pinged_of_alive {n : ℕ} (h : r.Alive n) :
    ∃ m ≤ n, r.Pings m ∧ r.time n - r.time m < watchdogEveryS := by
  by_cases hping : r.Pings n
  · refine ⟨n, le_refl n, hping, ?_⟩
    norm_num [watchdogEveryS]
  · -- not due yet
    have hdue := mt (r.pings_iff n).2 hping
    rw [Loop.watchdogDue, (r.stepOk_iff n).2 h, Bool.true_and, decide_eq_true_eq, Elapsed] at hdue
    push Not at hdue
    rcases hdue with ⟨last, hlast, hlt⟩
    have hstate : (r.state n).lastWd = some last :=
      (r.tick_frame (r.state n) (r.inputs n) (slow n)).2.2.symm.trans hlast
    rcases r.lastWd_stamp.eq_some hstate with ⟨m, hm, hpinged, rfl⟩
    exact ⟨m, hm.le, hpinged, hlt⟩

/-! ## Readiness -/

/-- There is something to be ready for: a valid sample, or no hope of one. -/
def Settled (n : ℕ) : Prop :=
  (r.sampled n).latest.valid = true ∨ (r.inputs n).staleTimeoutS + 1 < r.time n - r.time 0

theorem ready_iff (n : ℕ) : (r.state n).ready = true ↔ ∃ m < n, r.Readies m := by
  induction n with
  | zero => simp [state, Loop.init]
  | succ n ih =>
      have hready : (r.state (n + 1)).ready = ((r.ticked n).ready ||
          (r.ticked n).readyDue (r.inputs n) ((r.state n).loopStart.getD (r.time n))) := rfl
      have hframe : (r.ticked n).ready = (r.state n).ready :=
        (r.tick_frame (r.state n) (r.inputs n) (slow n)).2.1
      rw [hready, hframe, Bool.or_eq_true, ih, ← readies_iff]
      constructor
      · rintro (⟨m, hm, hreadies⟩ | hreadies)
        · exact ⟨m, Nat.lt_succ_of_lt hm, hreadies⟩
        · exact ⟨n, Nat.lt_succ_self n, hreadies⟩
      · rintro ⟨m, hm, hreadies⟩
        rcases Nat.lt_or_eq_of_le (Nat.le_of_lt_succ hm) with hlt | rfl
        · exact .inl ⟨m, hlt, hreadies⟩
        · exact .inr hreadies

/-- The loop starts with its first iteration. -/
theorem loopStart_eq (n : ℕ) : (r.state n).loopStart.getD (r.time n) = r.time 0 := by
  have hstart : ∀ n, (r.state (n + 1)).loopStart = some (r.time 0) := by
    intro n
    induction n with
    | zero => rfl
    | succ n ih =>
        show some ((r.state (n + 1)).loopStart.getD (r.time (n + 1))) = _
        rw [ih]
        rfl
  cases n with
  | zero => rfl
  | succ n =>
      rw [hstart n]
      rfl

theorem readies_cases (n : ℕ) :
    r.Readies n ↔ r.Alive n ∧ (∀ m < n, ¬ r.Readies m) ∧ r.Settled n := by
  have hframe : (r.ticked n).ready = (r.state n).ready :=
    (r.tick_frame (r.state n) (r.inputs n) (slow n)).2.1
  have hsampler : (r.ticked n).sampler = r.sampled n :=
    Loop.loopOnce_sampler r.setup (r.state n) (r.inputs n) (slow n)
  have hfirst : (∀ m < n, ¬ r.Readies m) ↔ ¬ (r.state n).ready = true := by
    rw [ready_iff]
    push Not
    rfl
  rw [readies_iff, loopStart_eq, Loop.readyDue, hframe, hsampler, hfirst, ← stepOk_iff]
  simp only [Bool.and_eq_true, Bool.or_eq_true, Bool.not_eq_true', decide_eq_true_eq,
    Bool.not_eq_true, and_assoc]
  rfl

/-- Whatever fails or raises: an iteration pings the watchdog only if a step has succeeded
in the 5 s before, and 2 s or more after the ping before; as long as one has, the last ping
is less than 2 s old; and the daemon reports ready once, as soon as a step has succeeded
and there is a valid sample, or has been none for long enough. -/
theorem notify_law (n : ℕ) :
    (r.Pings n → r.Alive n ∧ ∀ m < n, r.Pings m → watchdogEveryS ≤ r.time n - r.time m) ∧
      (r.Alive n → ∃ m ≤ n, r.Pings m ∧ r.time n - r.time m < watchdogEveryS) ∧
      (r.Readies n → ∀ m < n, ¬ r.Readies m) ∧
      ((∃ m ≤ n, r.Readies m) ↔ ∃ m ≤ n, r.Alive m ∧ r.Settled m) := by
  refine ⟨fun h => ⟨?_, fun m hm hping => r.pings_apart hping h hm⟩, r.pinged_of_alive,
    fun h => ((r.readies_cases n).1 h).2.1, ?_⟩
  · have hdue := (r.pings_iff n).1 h
    rw [Loop.watchdogDue, Bool.and_eq_true] at hdue
    exact (r.stepOk_iff n).1 hdue.1
  · constructor
    · rintro ⟨m, hm, hreadies⟩
      have hcases := (r.readies_cases m).1 hreadies
      exact ⟨m, hm, hcases.1, hcases.2.2⟩
    · rintro ⟨m, hm, halive, hsettled⟩
      -- it reports then, unless it has before
      by_cases hbefore : ∃ k < m, r.Readies k
      · rcases hbefore with ⟨k, hk, hreadies⟩
        exact ⟨k, hk.le.trans hm, hreadies⟩
      · push Not at hbefore
        exact ⟨m, hm, (r.readies_cases m).2 ⟨halive, hbefore, hsettled⟩⟩

end LoopRun

end TurboMac.Linux
