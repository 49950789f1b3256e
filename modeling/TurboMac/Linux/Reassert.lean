import TurboMac.Linux.Fallback

/-! # Reassertion

The limits are rewritten at least every `REASSERT_S`. Outside the FALLBACK wait
each step checks its stamp; the wait only ends in time because a failed readback
comes at most 2 s after its write, and the backoff is at most 8 s
(`Asserted.retry`).
-/

namespace TurboMac.Linux

/-- A retry, if one is scheduled, comes while the last write is still good. -/
structure GovState.Asserted (s : GovState) : Prop where
  retry : ∀ retryAt ∈ s.retryAt, ∃ last, s.lastWrite = some last ∧ retryAt ≤ last + reassertS

namespace Step

variable {w w' u : Step} {sample : Sample}

/-- The last write of `w'` is the one of `w` or of this step, and less than
`REASSERT_S` old; a retry time it keeps is the one of `w`. -/
structure Reasserts (w w' : Step) : Prop where
  lastWrite : ∃ last, w'.s.lastWrite = some last ∧ (last = w.now ∨ w.s.lastWrite = some last) ∧
    w.now - last < reassertS
  retryAt : ∀ retryAt ∈ w'.s.retryAt, retryAt ∈ w.s.retryAt

theorem Reasserts.congr (h : Reasserts u w') (hnow : u.now = w.now)
    (hlast : u.s.lastWrite = w.s.lastWrite) (hretry : ∀ t ∈ u.s.retryAt, t ∈ w.s.retryAt) :
    Reasserts w w' := by
  constructor
  · simpa [hnow, hlast] using h.lastWrite
  · intro t ht
    exact hretry t (h.retryAt t ht)

theorem Reasserts.stamp (h : Reasserts w w') :
    w'.s.lastWrite = w.s.lastWrite ∨ w'.s.lastWrite = some w.now := by
  rcases h.lastWrite with ⟨last, hlast, rfl | hold, -⟩
  · exact Or.inr hlast
  · exact Or.inl (hlast.trans hold.symm)

theorem reasserts_write (w : Step) (pl1 pl2 : ℚ) (reason : WriteReason) (force : Bool) :
    Reasserts w (w.write pl1 pl2 reason force) := by
  constructor
  · rcases w.write_cases pl1 pl2 reason force with ⟨-, hlast, hdue⟩ | ⟨-, hlast⟩
    · -- skipped: the stamp is not due
      rw [hlast]
      cases hold : w.s.lastWrite with
      | none => simp [Elapsed, hold] at hdue
      | some last =>
          rw [hold, elapsed_some, not_le] at hdue
          exact ⟨last, rfl, Or.inr rfl, hdue⟩
    · refine ⟨w.now, hlast, Or.inl rfl, ?_⟩
      norm_num [reassertS]
  · intro t ht
    simpa using ht

theorem reasserts_fallback (w : Step) (reason : FallbackReason) (static : ℚ) :
    Reasserts w (w.fallback reason static) := by
  unfold fallback
  dsimp only
  refine (reasserts_write _ _ _ _ _).congr ?_ ?_ ?_
  all_goals split <;> simp [clearBelow]

theorem reasserts_runStatic (w : Step) (force : Bool) : Reasserts w (w.runStatic force) := by
  unfold runStatic
  exact (reasserts_write _ _ _ _ _).congr (by simp) (by simp) (by simp)

theorem reasserts_runStale (w : Step) (retried : Bool) : Reasserts w (w.runStale retried) := by
  unfold runStale
  dsimp only
  split
  · exact (reasserts_fallback _ _ _).congr rfl rfl (by simp)
  · exact (reasserts_write _ _ _ _ _).congr rfl rfl (by simp)

theorem reasserts_control (w : Step) (sample : Sample) (force : Bool) :
    Reasserts w (w.control sample force) := by
  have hd := (decision_outcome (w := (w.thermal sample.pkgC w.floor w.top).2) sample
    (w.thermal sample.pkgC w.floor w.top).1).stamps
  have hu := w.thermal_frame sample.pkgC w.floor w.top
  rw [control_eq]
  unfold settle
  refine (reasserts_write _ _ _ _ _).congr ?_ ?_ ?_
  · rw [(enter_frame _ _ _).2.1]
    exact hd.1.trans hu.2.1
  · rw [(enter_frame _ _ _).2.2.2.2.2.1]
    exact hd.2.2.2.1.trans hu.2.2.2.2.2.2.1
  · intro t ht
    simpa [hd.2.2.2.2.1] using ht

theorem reasserts_govern (w : Step) (sample : Sample) (force retried : Bool) :
    Reasserts w (w.govern sample force retried) := by
  unfold govern
  split_ifs
  · exact w.reasserts_runStatic force
  · exact w.reasserts_runStale retried
  · exact w.reasserts_control sample force

/-- Only waiting steps may go without a check of the stamp. -/
theorem retry_reasserts (w : Step) (sample : Sample) (force : Bool) :
    (w.Waiting ∧ w.retry sample force = w.wait sample) ∨
      Reasserts w (w.retry sample force) := by
  unfold retry
  split
  · rename_i retryAt hretryAt
    split_ifs with hstate hnow
    · exact Or.inl ⟨⟨hstate, retryAt, hretryAt, hnow⟩, rfl⟩
    · right
      exact (reasserts_govern _ _ _ _).congr rfl rfl (by simp [event])
    · exact Or.inr (w.reasserts_govern sample force false)
  · exact Or.inr (w.reasserts_govern sample force false)

theorem wait_stamps (w : Step) (sample : Sample) :
    (w.wait sample).s.retryAt = w.s.retryAt ∧
      ((w.wait sample).s.lastWrite = w.s.lastWrite ∨
        (w.wait sample).s.lastWrite = some w.now) := by
  unfold wait
  split
  · dsimp only
    split
    · exact ⟨by simp, (reasserts_write _ _ _ _ _).stamp⟩
    · exact ⟨rfl, Or.inl rfl⟩
  · exact ⟨rfl, Or.inl rfl⟩

/-- A failed readback schedules a retry in `BACKOFF_MAX_S` at most. -/
theorem readbackFailed_stamps (w : Step) (rb : Readback) :
    (∃ backoff ≤ backoffMaxS, (w.readbackFailed rb).s.retryAt = some (w.now + backoff)) ∧
      ((w.readbackFailed rb).s.lastWrite = w.s.lastWrite ∨
        (w.readbackFailed rb).s.lastWrite = some w.now) := by
  have hbackoff : (if w.s.backoffS ≤ 0 then 1 else min backoffMaxS (w.s.backoffS * 2)) ≤
      backoffMaxS := by
    split
    · norm_num [backoffMaxS]
    · exact min_le_left _ _
  unfold readbackFailed
  dsimp only
  generalize (if w.s.backoffS ≤ 0 then (1 : ℚ) else min backoffMaxS (w.s.backoffS * 2)) = backoff
    at hbackoff ⊢
  split
  · exact ⟨⟨backoff, hbackoff, by simp [fallback_spec]⟩, (reasserts_fallback _ _ _).stamp⟩
  · exact ⟨⟨backoff, hbackoff, rfl⟩, Or.inl rfl⟩

/-- `w'` ends a step of `w` with the limits asserted. -/
structure Asserts (w w' : Step) : Prop where
  asserted : w'.s.Asserted
  lastWrite : ∃ last, w'.s.lastWrite = some last ∧ last ≤ w.now ∧ w.now - last < reassertS

/-- A reassertion keeps the invariant. -/
theorem Reasserts.asserts (h : Reasserts w w') (hw : w.s.Asserted)
    (hpast : ∀ last ∈ w.s.lastWrite, last ≤ w.now) : Asserts w w' := by
  rcases h.lastWrite with ⟨last, hlast, horigin, hfresh⟩
  have hle : last ≤ w.now := by
    rcases horigin with rfl | hold
    · exact le_refl _
    · exact hpast last hold
  refine ⟨⟨?_⟩, last, hlast, hle, hfresh⟩
  intro retryAt hretryAt
  rcases hw.retry retryAt (h.retryAt retryAt hretryAt) with ⟨old, hold, hbound⟩
  refine ⟨last, hlast, ?_⟩
  rcases horigin with rfl | hsame
  · exact hbound.trans (by linarith [hpast old hold])
  · cases hold.symm.trans hsame
    exact hbound

/-- Waiting keeps it: the retry time is not over yet. -/
theorem wait_asserts (hw : w.s.Asserted) (hpast : ∀ last ∈ w.s.lastWrite, last ≤ w.now)
    (hwait : w.Waiting) : Asserts w (w.wait sample) := by
  rcases hwait with ⟨-, retryAt, hretryAt, hlt⟩
  rcases hw.retry retryAt hretryAt with ⟨old, hold, hbound⟩
  have hpast := hpast old hold
  rcases wait_stamps w sample with ⟨hretry, hlast⟩
  -- kept or renewed, the stamp is not older
  have hstamp : ∃ last, (w.wait sample).s.lastWrite = some last ∧ old ≤ last ∧ last ≤ w.now := by
    rcases hlast with hkeep | hnow
    · exact ⟨old, hkeep.trans hold, le_refl _, hpast⟩
    · exact ⟨w.now, hnow, hpast, le_refl _⟩
  rcases hstamp with ⟨last, hlast, hnewer, hle⟩
  refine ⟨⟨?_⟩, last, hlast, hle, by linarith⟩
  intro t ht
  rw [hretry] at ht
  cases ht.symm.trans hretryAt
  exact ⟨last, hlast, by linarith⟩

/-- A failed readback keeps it if its write is at most 2 s old. -/
theorem readbackFailed_asserts (rb : Readback) {last : ℚ} (hlast : w.s.lastWrite = some last)
    (hpast : last ≤ w.now) (hlate : w.now - last ≤ 2) : Asserts w (w.readbackFailed rb) := by
  rcases w.readbackFailed_stamps rb with ⟨⟨backoff, hbackoff, hretry⟩, hstamp⟩
  have hnew : ∃ new, (w.readbackFailed rb).s.lastWrite = some new ∧ last ≤ new ∧ new ≤ w.now := by
    rcases hstamp with hkeep | hnow
    · exact ⟨last, hkeep.trans hlast, le_refl _, hpast⟩
    · exact ⟨w.now, hnow, hpast, le_refl _⟩
  rcases hnew with ⟨new, hnew, hnewer, hle⟩
  norm_num [backoffMaxS] at hbackoff
  refine ⟨⟨?_⟩, new, hnew, hle, ?_⟩
  · intro t ht
    rw [hretry] at ht
    cases ht
    refine ⟨new, hnew, ?_⟩
    norm_num [reassertS]
    linarith
  · norm_num [reassertS]
    linarith

theorem retry_asserts (hw : w.s.Asserted) (hpast : ∀ last ∈ w.s.lastWrite, last ≤ w.now)
    (sample : Sample) (force : Bool) : Asserts w (w.retry sample force) := by
  rcases w.retry_reasserts sample force with ⟨hwait, heq⟩ | h
  · rw [heq]
    exact wait_asserts hw hpast hwait
  · exact h.asserts hw hpast

/-- One step of static or dynamic mode. -/
theorem run_asserts (w : Step) (sample : Sample) (hmode : w.g.mode ≠ .off)
    (hw : w.s.Asserted) (hpast : ∀ last ∈ w.s.lastWrite, last ≤ w.now)
    (hrb : ∀ rb, sample.Failed rb → ∃ last, w.s.lastWrite = some last ∧ w.now - last ≤ 2) :
    Asserts w (w.run sample) := by
  unfold run
  rw [if_neg hmode]
  dsimp only
  split
  · rename_i rb hreadback
    split_ifs with hok
    · -- only the backoff is reset
      have hsame := same_readbackOk w
      have hok : Asserts w.readbackOk (w.readbackOk.retry sample
          (decide (w.s.state = .off ∨ w.s.state = .fallback))) := by
        apply retry_asserts
        · constructor
          rw [readbackOk_retryAt, hsame.lastWrite]
          exact hw.retry
        · rw [hsame.lastWrite, hsame.now]
          exact hpast
      refine ⟨hok.asserted, ?_⟩
      simpa [hsame.now] using hok.lastWrite
    · rcases hrb rb ⟨hreadback, by simpa using hok⟩ with ⟨last, hlast, hlate⟩
      exact readbackFailed_asserts rb hlast (hpast last hlast) hlate
  · exact retry_asserts hw hpast sample _

end Step

namespace Run

variable {r : Run}

/-- The readback of each write comes with exactly the next step. -/
structure ReadsBack (r : Run) : Prop where
  first : (r.ticks 0).sample.readback = none
  next : ∀ n, (r.ticks (n + 1)).sample.readback.isSome ↔ commanded (r.actions n) ≠ []

/-- A tick that commands stamps its write. -/
theorem lastWrite_of_commanded (n : ℕ) (h : commanded (r.actions n) ≠ []) :
    (r.state (n + 1)).lastWrite = some (r.time n) := by
  rcases List.exists_mem_of_ne_nil _ h with ⟨limits, hmem⟩
  rcases (r.path n).inForce limits hmem with hold | ⟨-, -, hstamp⟩
  · simp [commanded] at hold
  · exact hstamp

theorem asserts (hmode : ∀ n, (r.ticks n).config.mode ≠ .off) (hrb : r.ReadsBack)
    (hgap : ∀ n, r.time (n + 1) - r.time n ≤ 2) (n : ℕ) :
    Step.Asserts (r.before n) (r.after n) := by
  induction n with
  | zero =>
      refine Step.run_asserts _ _ (hmode 0) ⟨?_⟩ ?_ ?_
      · intro retryAt hretryAt
        cases hretryAt
      · intro last hlast
        cases hlast
      · rintro rb ⟨hsome, -⟩
        simp [hrb.first] at hsome
  | succ n ih =>
      have hstep : r.time n ≤ r.time (n + 1) := r.mono (Nat.le_succ n)
      rcases ih.lastWrite with ⟨last, hlast, hle, -⟩
      refine Step.run_asserts _ _ (hmode (n + 1)) ⟨ih.asserted.retry⟩ ?_ ?_
      · intro last' hlast'
        cases hlast.symm.trans hlast'
        exact hle.trans hstep
      · rintro rb ⟨hsome, -⟩
        have hwrote := (hrb.next n).1 (by simp [hsome])
        exact ⟨r.time n, lastWrite_of_commanded n hwrote, hgap n⟩

/-- Reassertion. In a run of static and dynamic ticks at most 2 s apart, with the
readback of each write in exactly the next one, the last write is less than
`REASSERT_S` old after every tick. -/
theorem reassertion (r : Run) (hmode : ∀ n, (r.ticks n).config.mode ≠ .off)
    (hrb : r.ReadsBack) (hgap : ∀ n, r.time (n + 1) - r.time n ≤ 2) (n : ℕ) :
    ∃ last, (r.state (n + 1)).lastWrite = some last ∧ r.time n - last < reassertS := by
  rcases (asserts hmode hrb hgap n).lastWrite with ⟨last, hlast, -, hfresh⟩
  exact ⟨last, hlast, hfresh⟩

/-! ## The daemon's loop -/

/-- The readback a tick finds: `Daemon.apply` leaves one for each write. -/
def delivered (wrote : Bool) (outcome : Readback) : Option Readback :=
  if wrote then some outcome else none

/-- The governor state of `Daemon.tick`, and whether its last tick wrote. -/
def loopState (started : ℚ) (firmware : Firmware) (inputs : ℕ → Tick) (outcome : ℕ → Readback) :
    ℕ → GovState × Bool
  | 0 => (initial started firmware, false)
  | n + 1 =>
    let (s, wrote) := loopState started firmware inputs outcome n
    let sample := { (inputs n).sample with readback := delivered wrote (outcome n) }
    let (s, actions) := step s sample (inputs n).config (inputs n).now
    (s, !(commanded actions).isEmpty)

/-- The run of the daemon's loop on any inputs and any outcomes of its writes. -/
def loop (started : ℚ) (firmware : Firmware) (inputs : ℕ → Tick) (outcome : ℕ → Readback)
    (mono : Monotone fun n => (inputs n).now) : Run where
  started := started
  firmware := firmware
  ticks n :=
    { inputs n with
      sample :=
        { (inputs n).sample with
          readback := delivered (loopState started firmware inputs outcome n).2 (outcome n) } }
  mono := mono

section Loop

variable (started : ℚ) (firmware : Firmware) (inputs : ℕ → Tick) (outcome : ℕ → Readback)
  (mono : Monotone fun n => (inputs n).now)

theorem loop_state (n : ℕ) :
    (loop started firmware inputs outcome mono).state n =
      (loopState started firmware inputs outcome n).1 := by
  induction n with
  | zero => rfl
  | succ n ih =>
      rw [state, ih]
      rfl

/-- The loop delivers each readback with the next tick. -/
theorem loop_readsBack : (loop started firmware inputs outcome mono).ReadsBack := by
  constructor
  · rfl
  · intro n
    have hwrote : (loopState started firmware inputs outcome (n + 1)).2 =
        !(commanded ((loop started firmware inputs outcome mono).actions n)).isEmpty := by
      rw [actions, loop_state]
      rfl
    show (delivered (loopState started firmware inputs outcome (n + 1)).2 _).isSome ↔ _
    rw [hwrote]
    cases commanded ((loop started firmware inputs outcome mono).actions n) with
    | nil => simp [delivered]
    | cons limits rest => simp [delivered]

end Loop

/-- A write that never takes, under a mode that changes every third second. -/
def flaky : Run :=
  loop 0 ⟨none, none⟩
    (fun n =>
      { sample := ⟨.num 40, .none, .num 80, .none, none⟩
        config :=
          { GovernorConfig.defaults with mode := if n % 3 = 0 then .static else .dynamic }
        now := n })
    (fun _ => ⟨false, none⟩) mono_seconds

theorem reassertion_flaky :
    ∃ last, (flaky.state 12).lastWrite = some last ∧ 11 - last < reassertS := by
  refine reassertion flaky ?_ (loop_readsBack _ _ _ _ _) ?_ 11
  · intro n
    show (if n % 3 = 0 then Mode.static else Mode.dynamic) ≠ .off
    split <;> simp
  · intro n
    show ((n + 1 : ℕ) : ℚ) - n ≤ 2
    push_cast
    linarith

end Run

end TurboMac.Linux
