import Mathlib.Data.List.Infix
import TurboMac.Daemon.Band

/-! # How long the bands last

A look is a ready evaluation. A policy keeps that its timers speak for every look
since their start, and that the way down from `emergency` takes its time.
-/

namespace TurboMac.Daemon

open Dwell

/-- A ready evaluation: the band before it, and the snapshot after it. -/
structure Look where
  time : ℚ
  before : GovernorBand
  snapshot : PolicySnapshot

namespace Look

/-- There is an emergency. -/
def Emergency (k : Look) : Prop :=
  k.snapshot.emergencyW ≤ k.snapshot.inputW ∨ k.snapshot.emergencyW ≤ k.snapshot.predictedInputW

/-- The policy recovers in a band. -/
def Recovering (band : GovernorBand) (k : Look) : Prop :=
  ¬ k.Emergency ∧ k.snapshot.filteredInputW < k.snapshot.recoveryW band

/-- The input has reached a threshold, or there is an emergency. -/
def High (threshold : PolicySnapshot → ℚ) (k : Look) : Prop :=
  k.Emergency ∨ threshold k.snapshot ≤ k.snapshot.filteredInputW

/-- From when the way down from `emergency` is counted: that of a look which only
finds the policy there may have begun up to a dwell before it. -/
def Origin (k : Look) (o : ℚ) : Prop :=
  (k.Emergency ∧ o = k.time) ∨
    (k.snapshot.band = .emergency ∧ o = k.time - GovernorBand.dwell .emergency)

/-- What a look may find, after the looks before it. -/
structure Lawful (k : Look) (older : List Look) : Prop where
  down : k.snapshot.band.rank < k.before.rank → k.snapshot.band = k.before.lower ∧
    ∀ j ∈ k :: older, k.time - k.before.dwell < j.time → j.Recovering k.before
  guard : k.before = .cruise → k.snapshot.band = .guard →
    ∀ j ∈ k :: older, k.time - 2 < j.time → j.snapshot.guardW ≤ j.snapshot.filteredInputW
  shed : k.before = .cruise ∨ k.before = .guard → k.snapshot.band = .shed →
    ∀ j ∈ k :: older, k.time - 1 < j.time → j.snapshot.shedW ≤ j.snapshot.filteredInputW
  cruise : k.snapshot.band = .cruise → ∀ j ∈ older, ∀ o, j.Origin o → o + 30 ≤ k.time

end Look

/-- What a policy keeps of its looks. -/
structure Banded (clock : ℚ) (looks : List Look) (p : GovernorPolicy) : Prop where
  past : ∀ k ∈ looks, k.time ≤ clock
  guardHigh : Held Look.time (Look.High PolicySnapshot.guardW) looks (running p.guardHighSince)
  shedHigh : Held Look.time (Look.High PolicySnapshot.shedW) looks (running p.shedHighSince)
  recovery : ∀ band, Held Look.time (Look.Recovering band) looks (running (p.recoverySince band))
  stopped : ∀ band, band ≠ p.snapshot.band → p.recoverySince band = unset
  due : ∀ k ∈ looks, ∀ o, k.Origin o → o + p.snapshot.band.due ≤ clock
  recoveryDue : ∀ k ∈ looks, ∀ o, k.Origin o → ∀ s,
    running (p.recoverySince p.snapshot.band) = some s → o + p.snapshot.band.due ≤ s

section

variable {clock now : ℚ} {looks : List Look} {k : Look} {p q r : GovernorPolicy}

theorem banded_reset (config : PolicyConfig) (clock : ℚ) : Banded clock [] (.reset config) := by
  constructor
  · simp
  · exact held_none
  · exact held_none
  · intro band
    cases band <;> exact held_none
  · intro band _
    cases band <;> rfl
  · simp
  · simp

theorem Banded.wait (h : Banded clock looks p) (hclock : clock ≤ now) : Banded now looks p :=
  ⟨fun k hk => (h.past k hk).trans hclock, h.guardHigh, h.shedHigh, h.recovery, h.stopped,
    fun k hk o ho => (h.due k hk o ho).trans hclock, h.recoveryDue⟩

theorem Banded.same (h : Banded clock looks p) (hsame : p.SameBand q) : Banded clock looks q := by
  rcases hsame with ⟨hband, hguardHigh, hshedHigh, hrecovery⟩
  refine ⟨h.past, hguardHigh ▸ h.guardHigh, hshedHigh ▸ h.shedHigh, hrecovery ▸ h.recovery, ?_, ?_, ?_⟩
  · rw [hband, hrecovery]
    exact h.stopped
  · rw [hband]
    exact h.due
  · rw [hband, hrecovery]
    exact h.recoveryDue

/-! ## One look -/

/-- The policy evaluates `q`, and is in the band of `r` after it. -/
structure Looked (k : Look) (q r : GovernorPolicy) (now : ℚ) : Prop where
  time : k.time = now
  before : k.before = q.snapshot.band
  after : k.snapshot.band = r.snapshot.band
  input : GovernorPolicy.SameInput q.snapshot k.snapshot

namespace Looked

variable (hlooked : Looked k q r now)
include hlooked

theorem emergency_iff : k.Emergency ↔ q.emergency = true := by
  unfold Look.Emergency GovernorPolicy.emergency
  rw [hlooked.input.emergency, hlooked.input.input, hlooked.input.predicted, decide_eq_true_eq]

theorem recovering (hcalm : q.emergency = false)
    (h : q.snapshot.filteredInputW < q.snapshot.recoveryW q.snapshot.band) :
    k.Recovering q.snapshot.band := by
  constructor
  · rw [hlooked.emergency_iff, hcalm]
    exact Bool.false_ne_true
  · have hrecovery : k.snapshot.recoveryW = q.snapshot.recoveryW := by
      funext band
      cases band with
      | cruise => rfl
      | guard =>
          show k.snapshot.guardW - 3 / 100 * k.snapshot.capacityW = _
          rw [hlooked.input.guard, hlooked.input.capacity]
          rfl
      | shed => exact hlooked.input.guard
      | emergency => exact hlooked.input.shed
    rw [hrecovery, hlooked.input.filtered]
    exact h

end Looked

/-! ### Timers after a look -/

section

variable (h : Banded clock looks q) (hclock : clock ≤ now) (hlooked : Looked k q r now)

include h hclock hlooked in
theorem Banded.past_cons : ∀ j ∈ k :: looks, j.time ≤ now := by
  intro j hj
  rcases List.mem_cons.1 hj with rfl | hj
  · exact hlooked.time.le
  · exact (h.past j hj).trans hclock

include h hclock hlooked in
/-- A timer of high input. -/
theorem Banded.high (hnow : 0 ≤ now) {threshold : PolicySnapshot → ℚ} {since : ℚ}
    (hheld : Held Look.time (Look.High threshold) looks (running since))
    (hthreshold : threshold k.snapshot = threshold q.snapshot) :
    Held Look.time (Look.High threshold) (k :: looks) (running
      (updateCondition (decide (threshold q.snapshot ≤ q.snapshot.filteredInputW)) now since)) := by
  rw [running_updateCondition hnow]
  apply hheld.update
  · intro hhigh
    rw [decide_eq_true_eq] at hhigh
    refine .inr ?_
    rw [hthreshold, hlooked.input.filtered]
    exact hhigh
  · exact hlooked.time.le
  · intro j hj
    exact (h.past j hj).trans hclock

include h hclock hlooked in
/-- The timer of the way down. -/
theorem Banded.recovering (hnow : 0 ≤ now) (hcalm : q.emergency = false) :
    Held Look.time (Look.Recovering q.snapshot.band) (k :: looks) (running (q.recovery now)) := by
  unfold GovernorPolicy.recovery
  rw [running_updateCondition hnow]
  apply (h.recovery q.snapshot.band).update
  · intro hlow
    rw [decide_eq_true_eq] at hlow
    exact hlooked.recovering hcalm hlow
  · exact hlooked.time.le
  · intro j hj
    exact (h.past j hj).trans hclock

include h hclock in
/-- The timer of the way down was started in the band, or is started now. -/
theorem Banded.recovery_due (hnow : 0 ≤ now) {j : Look} (hj : j ∈ looks) {o s : ℚ}
    (ho : j.Origin o) (hs : running (q.recovery now) = some s) : o + q.snapshot.band.due ≤ s := by
  unfold GovernorPolicy.recovery at hs
  rw [running_updateCondition hnow] at hs
  unfold update at hs
  split at hs
  · cases hsince : running (q.recoverySince q.snapshot.band) with
    | none =>
        rw [hsince] at hs
        cases hs
        exact (h.due j hj o ho).trans hclock
    | some s' =>
        rw [hsince] at hs
        cases hs
        exact h.recoveryDue j hj o ho _ hsince
  · cases hs

include h hclock hlooked in
/-- A timer of high input that has run its time, where no emergency is as recent. -/
theorem Banded.high_elapsed (hcalm : q.emergency = false) {threshold : PolicySnapshot → ℚ}
    {since d : ℚ} (hd : 0 < d) (hdue : d ≤ q.snapshot.band.due)
    (hheld : Held Look.time (Look.High threshold) (k :: looks) (running since))
    (helapsed : d ≤ elapsedOrZero now since) :
    ∀ j ∈ k :: looks, k.time - d < j.time → threshold j.snapshot ≤ j.snapshot.filteredInputW := by
  rcases running_of_elapsed hd helapsed with ⟨hrunning, hage⟩
  rw [hrunning] at hheld
  intro j hj hlate
  rw [hlooked.time] at hlate
  rcases hheld.of_elapsed hage j hj hlate with hemergency | hhigh
  · rcases List.mem_cons.1 hj with rfl | hj
    · rw [hlooked.emergency_iff, hcalm] at hemergency
      cases hemergency
    · have hold := h.due j hj j.time (.inl ⟨hemergency, rfl⟩)
      linarith
  · exact hhigh

end

/-! ### Moves -/

/-- Out of `emergency` a look counts from nothing. -/
theorem Looked.no_origin (hlooked : Looked k q r now) (hcalm : q.emergency = false)
    (hband : r.snapshot.band ≠ .emergency) (o : ℚ) : ¬ k.Origin o := by
  rintro (⟨hemergency, -⟩ | ⟨hafter, -⟩)
  · rw [hlooked.emergency_iff, hcalm] at hemergency
    cases hemergency
  · rw [hlooked.after] at hafter
    exact hband hafter

/-- A band that has just been entered has no timer running. -/
theorem Banded.enter (hpast : ∀ k ∈ looks, k.time ≤ clock)
    (hguardHigh : Held Look.time (Look.High PolicySnapshot.guardW) looks (running p.guardHighSince))
    (hshedHigh : Held Look.time (Look.High PolicySnapshot.shedW) looks (running p.shedHighSince))
    (hcleared : ∀ band, p.recoverySince band = unset)
    (hdue : ∀ k ∈ looks, ∀ o, k.Origin o → o + p.snapshot.band.due ≤ clock) :
    Banded clock looks p := by
  refine ⟨hpast, hguardHigh, hshedHigh, ?_, ?_, hdue, ?_⟩
  · intro band
    rw [hcleared]
    exact held_none
  · intro band _
    exact hcleared band
  · intro k _ o _ s hs
    rw [hcleared] at hs
    cases hs

/-- `enter` from another band, where there is no emergency. -/
theorem Banded.move (h : Banded clock looks q) (hclock : clock ≤ now) (hnow : 0 ≤ now)
    (hlooked : Looked k q r now) (hcalm : q.Calm r now) (hband : r.snapshot.band ≠ .emergency)
    (hleft : r.recoverySince q.snapshot.band = unset)
    (hdue : ∀ j ∈ looks, ∀ o, j.Origin o → o + r.snapshot.band.due ≤ now) :
    Banded now (k :: looks) r := by
  apply Banded.enter (h.past_cons hclock hlooked)
  · rw [hcalm.guardHigh]
    exact h.high hclock hlooked hnow h.guardHigh hlooked.input.guard
  · rw [hcalm.shedHigh]
    exact h.high hclock hlooked hnow h.shedHigh hlooked.input.shed
  · intro band
    by_cases hsame : band = q.snapshot.band
    · rw [hsame]
      exact hleft
    · rw [hcalm.others band hsame]
      exact h.stopped band hsame
  · intro j hj o ho
    rcases List.mem_cons.1 hj with rfl | hj
    · exact absurd ho (hlooked.no_origin hcalm.emergency hband o)
    · exact hdue j hj o ho

/-- A higher band is due sooner. -/
theorem Banded.due_of_rank (h : Banded clock looks q) (hclock : clock ≤ now)
    (hrank : q.snapshot.band.rank ≤ r.snapshot.band.rank) :
    ∀ j ∈ looks, ∀ o, j.Origin o → o + r.snapshot.band.due ≤ now := by
  intro j hj o ho
  have hold := h.due j hj o ho
  have hle := GovernorBand.due_le_of_rank hrank
  linarith

/-- The next band down is due once the dwell has passed. -/
theorem Banded.due_lower (h : Banded clock looks q) (hclock : clock ≤ now) (hnow : 0 ≤ now)
    (hne : q.snapshot.band ≠ .cruise) (hband : r.snapshot.band = q.snapshot.band.lower)
    (helapsed : q.snapshot.band.dwell ≤ elapsedOrZero now (q.recovery now)) :
    ∀ j ∈ looks, ∀ o, j.Origin o → o + r.snapshot.band.due ≤ now := by
  intro j hj o ho
  rcases running_of_elapsed (GovernorBand.dwell_pos hne) helapsed with ⟨hrunning, hage⟩
  have hstart := h.recovery_due hclock hnow hj ho hrunning
  rw [hband, GovernorBand.due_lower hne]
  linarith

/-- An emergency. -/
theorem Banded.emergency (h : Banded clock looks q) (hclock : clock ≤ now)
    (hlooked : Looked k q r now) (hemergency : q.emergency = true)
    (hband : r.snapshot.band = .emergency) (hguardHigh : r.guardHighSince = q.guardHighSince)
    (hshedHigh : r.shedHighSince = q.shedHighSince)
    (hcleared : ∀ band, r.recoverySince band = unset) : Banded now (k :: looks) r := by
  have hfound : k.Emergency := hlooked.emergency_iff.2 hemergency
  apply Banded.enter (h.past_cons hclock hlooked)
  · rw [hguardHigh]
    exact h.guardHigh.cons (.inl hfound)
  · rw [hshedHigh]
    exact h.shedHigh.cons (.inl hfound)
  · exact hcleared
  · have hdue : r.snapshot.band.due = 0 := by
      rw [hband]
      rfl
    intro j hj o ho
    rcases List.mem_cons.1 hj with rfl | hj
    · have htime := hlooked.time
      have hdwell : 0 < GovernorBand.dwell .emergency := GovernorBand.dwell_pos (by decide)
      rcases ho with ⟨-, rfl⟩ | ⟨-, rfl⟩ <;> linarith
    · have hold := h.due j hj o ho
      have hnonneg := q.snapshot.band.due_nonneg
      linarith

/-- The policy stays in its band. -/
theorem Banded.stay (h : Banded clock looks q) (hclock : clock ≤ now) (hnow : 0 ≤ now)
    (hlooked : Looked k q r now) (hcalm : q.Calm r now) (hband : r.snapshot.band = q.snapshot.band)
    (hsince : q.snapshot.band ≠ .cruise → r.recoverySince q.snapshot.band = q.recovery now ∧
      ¬ q.snapshot.band.dwell ≤ elapsedOrZero now (q.recovery now)) :
    Banded now (k :: looks) r := by
  refine ⟨h.past_cons hclock hlooked, ?_, ?_, ?_, ?_, ?_, ?_⟩
  · rw [hcalm.guardHigh]
    exact h.high hclock hlooked hnow h.guardHigh hlooked.input.guard
  · rw [hcalm.shedHigh]
    exact h.high hclock hlooked hnow h.shedHigh hlooked.input.shed
  · intro band
    by_cases hsame : band = q.snapshot.band
    · subst hsame
      by_cases hne : q.snapshot.band = .cruise
      · rw [hne]
        exact held_none
      · rw [(hsince hne).1]
        exact h.recovering hclock hlooked hnow hcalm.emergency
    · rw [hcalm.others band hsame, h.stopped band hsame]
      exact held_none
  · rw [hband]
    intro band hne
    rw [hcalm.others band hne]
    exact h.stopped band hne
  · intro j hj o ho
    rw [hband]
    rcases List.mem_cons.1 hj with rfl | hj
    · -- the look finds the policy in `emergency`, without one
      by_cases hin : r.snapshot.band = .emergency
      · rcases ho with ⟨hemergency, -⟩ | ⟨-, rfl⟩
        · rw [hlooked.emergency_iff, hcalm.emergency] at hemergency
          cases hemergency
        · rw [← hband, hin, hlooked.time]
          have hdwell : 0 < GovernorBand.dwell .emergency := GovernorBand.dwell_pos (by decide)
          have hdue : GovernorBand.due .emergency = 0 := rfl
          linarith
      · exact absurd ho (hlooked.no_origin hcalm.emergency hin o)
    · have hold := h.due j hj o ho
      linarith
  · intro j hj o ho s hs
    rw [hband] at hs ⊢
    have hne : q.snapshot.band ≠ .cruise := by
      intro hcruise
      rw [hcruise] at hs
      cases hs
    rcases hsince hne with ⟨hrecovery, hshort⟩
    rw [hrecovery] at hs
    rcases List.mem_cons.1 hj with rfl | hj
    · by_cases hin : r.snapshot.band = .emergency
      · rcases ho with ⟨hemergency, -⟩ | ⟨-, rfl⟩
        · rw [hlooked.emergency_iff, hcalm.emergency] at hemergency
          cases hemergency
        · -- it is still there, so its timer has not run for the dwell
          have hs' := eq_of_running hs
          rw [← hs'] at hs
          have hyoung : ¬ q.snapshot.band.dwell ≤ now - q.recovery now := by
            intro hage
            exact hshort (elapsed_of_running hs hage (GovernorBand.dwell_pos hne).le)
          rw [← hband, hin] at hyoung ⊢
          rw [hlooked.time, ← hs']
          have hdue : GovernorBand.due .emergency = 0 := rfl
          linarith
      · exact absurd ho (hlooked.no_origin hcalm.emergency hin o)
    · exact h.recovery_due hclock hnow hj ho hs

/-! ### The law -/

theorem Looked.down_of_rank (hlooked : Looked k q r now)
    (hrank : q.snapshot.band.rank ≤ r.snapshot.band.rank) :
    ¬ k.snapshot.band.rank < k.before.rank := by
  rw [hlooked.after, hlooked.before]
  exact not_lt.2 hrank

/-- A look keeps what the policy keeps. -/
theorem Banded.next (h : Banded clock looks q) (hclock : clock ≤ now) (hnow : 0 ≤ now)
    (hlooked : Looked k q r now) (hstep : q.BandStep r now) : Banded now (k :: looks) r := by
  cases hstep with
  | emergency hemergency hband hguardHigh hshedHigh hrecovery =>
      exact h.emergency hclock hlooked hemergency hband hguardHigh hshedHigh hrecovery
  | toGuard hcalm hbefore hband helapsed =>
      apply h.move hclock hnow hlooked hcalm
      · rw [hband]
        decide
      · rw [hbefore]
        rfl
      · apply h.due_of_rank hclock
        rw [hbefore]
        exact Nat.zero_le _
  | toShed hcalm hbefore hband helapsed hleft =>
      apply h.move hclock hnow hlooked hcalm
      · rw [hband]
        decide
      · exact hleft
      · apply h.due_of_rank hclock
        rcases hbefore with hbefore | hbefore <;> rw [hbefore, hband] <;> decide
  | stay hcalm hband hsince => exact h.stay hclock hnow hlooked hcalm hband hsince
  | fall hcalm hne hband helapsed hleft =>
      apply h.move hclock hnow hlooked hcalm
      · rw [hband]
        exact GovernorBand.lower_ne_emergency _
      · exact hleft
      · exact h.due_lower hclock hnow hne hband helapsed

/-- A lower band is the next one down, after a dwell of recovery: only `fall` goes down. -/
theorem Banded.down (h : Banded clock looks q) (hclock : clock ≤ now) (hnow : 0 ≤ now)
    (hlooked : Looked k q r now) (hstep : q.BandStep r now)
    (hdown : k.snapshot.band.rank < k.before.rank) :
    k.snapshot.band = k.before.lower ∧
      ∀ j ∈ k :: looks, k.time - k.before.dwell < j.time → j.Recovering k.before := by
  have hnotUp : ¬ q.snapshot.band.rank ≤ r.snapshot.band.rank := fun hrank =>
    hlooked.down_of_rank hrank hdown
  cases hstep with
  | emergency _ hband =>
      apply absurd _ hnotUp
      rw [hband]
      cases q.snapshot.band <;> decide
  | toGuard _ hbefore =>
      apply absurd _ hnotUp
      rw [hbefore]
      exact Nat.zero_le _
  | toShed _ hbefore hband =>
      apply absurd _ hnotUp
      rcases hbefore with hbefore | hbefore <;> rw [hbefore, hband] <;> decide
  | stay _ hband =>
      apply absurd _ hnotUp
      rw [hband]
  | fall hcalm hne hband helapsed =>
      rw [hlooked.after, hlooked.before, hlooked.time]
      refine ⟨hband, ?_⟩
      -- the timer has run for the dwell, and while it ran every look was one of recovery
      rcases running_of_elapsed (GovernorBand.dwell_pos hne) helapsed with ⟨hrunning, hage⟩
      have hheld := h.recovering hclock hlooked hnow hcalm.emergency
      rw [hrunning] at hheld
      exact hheld.of_elapsed hage

/-- `guard` is entered from `cruise` after two seconds above its threshold. -/
theorem Banded.guarded (h : Banded clock looks q) (hclock : clock ≤ now)
    (hlooked : Looked k q r now) (hstep : q.BandStep r now) (hnext : Banded now (k :: looks) r)
    (hbefore : k.before = .cruise) (hafter : k.snapshot.band = .guard) :
    ∀ j ∈ k :: looks, k.time - 2 < j.time → j.snapshot.guardW ≤ j.snapshot.filteredInputW := by
  rw [hlooked.before] at hbefore
  rw [hlooked.after] at hafter
  cases hstep with
  | toGuard hcalm _ _ helapsed =>
      refine h.high_elapsed hclock hlooked hcalm.emergency (by decide) ?_ hnext.guardHigh helapsed
      rw [hbefore]
      decide +kernel
  | emergency _ hband | toShed _ _ hband =>
      rw [hafter] at hband
      cases hband
  | stay _ hband =>
      rw [hafter, hbefore] at hband
      cases hband
  | fall _ hne => exact absurd hbefore hne

/-- `shed` is entered from below after one second above its threshold. -/
theorem Banded.shed (h : Banded clock looks q) (hclock : clock ≤ now)
    (hlooked : Looked k q r now) (hstep : q.BandStep r now) (hnext : Banded now (k :: looks) r)
    (hbefore : k.before = .cruise ∨ k.before = .guard) (hafter : k.snapshot.band = .shed) :
    ∀ j ∈ k :: looks, k.time - 1 < j.time → j.snapshot.shedW ≤ j.snapshot.filteredInputW := by
  rw [hlooked.before] at hbefore
  rw [hlooked.after] at hafter
  cases hstep with
  | toShed hcalm _ _ helapsed =>
      refine h.high_elapsed hclock hlooked hcalm.emergency (by decide) ?_ hnext.shedHigh helapsed
      rcases hbefore with hbefore | hbefore <;> rw [hbefore] <;> decide +kernel
  | emergency _ hband | toGuard _ _ hband =>
      rw [hafter] at hband
      cases hband
  | stay _ hband =>
      rw [hafter] at hband
      rcases hbefore with hbefore | hbefore <;> rw [hbefore] at hband <;> cases hband
  | fall _ _ hband =>
      -- the band below `cruise` or `guard` is `cruise`
      rw [hafter] at hband
      rcases hbefore with hbefore | hbefore <;> rw [hbefore] at hband <;> cases hband

/-- A look keeps what the policy keeps, and finds what it may. -/
theorem Banded.look (h : Banded clock looks q) (hclock : clock ≤ now) (hnow : 0 ≤ now)
    (hlooked : Looked k q r now) (hstep : q.BandStep r now) :
    Banded now (k :: looks) r ∧ k.Lawful looks := by
  have hnext := h.next hclock hnow hlooked hstep
  refine ⟨hnext, ?_, ?_, ?_, ?_⟩
  · exact h.down hclock hnow hlooked hstep
  · exact h.guarded hclock hlooked hstep hnext
  · exact h.shed hclock hlooked hstep hnext
  · intro hcruise j hj o ho
    have hdue := hnext.due j (List.mem_cons_of_mem k hj) o ho
    rw [← hlooked.after, hcruise] at hdue
    rw [hlooked.time]
    exact hdue

end

/-! ## Runs -/

/-- The look of a call. -/
def PolicyCall.look (exp : ℚ → ℚ) (call : PolicyCall) (p : GovernorPolicy) : Option Look :=
  match call with
  | .updateSMC _ _ _ | .updatePackagePower _ _ => none
  | .evaluate now =>
    if (p.evaluate exp now).snapshot.ready then
      some ⟨now, p.snapshot.band, (p.evaluate exp now).snapshot⟩
    else none

/-- The looks of a run, newest first, after those seen before it. -/
def looks (exp : ℚ → ℚ) : List PolicyCall → Fed → List Look → List Look
  | [], _, seen => seen
  | call :: calls, f, seen =>
    looks exp calls (call.after exp f) ((call.look exp f.policy).toList ++ seen)

section

variable {exp : ℚ → ℚ} {clock : ℚ} {seen : List Look} {f : Fed}

/-- A call takes at most one look. -/
theorem PolicyCall.banded (call : PolicyCall) (h : Banded clock seen f.policy)
    (hclock : clock ≤ call.time) :
    Banded call.time ((call.look exp f.policy).toList ++ seen) (call.after exp f).policy ∧
      ∀ k ∈ call.look exp f.policy, k.Lawful seen := by
  have hwait := h.wait hclock
  cases call with
  | updateSMC now inputW capacityW =>
      refine ⟨?_, fun k hk => by cases hk⟩
      unfold PolicyCall.after
      dsimp only
      split
      · rename_i hexec
        exact hwait.same (GovernorPolicy.sameBand_updateSMC hexec)
      · exact hwait
  | updatePackagePower now packageW =>
      refine ⟨?_, fun k hk => by cases hk⟩
      unfold PolicyCall.after
      dsimp only
      split
      · rename_i hexec
        exact hwait.same (GovernorPolicy.sameBand_updatePackagePower hexec)
      · exact hwait
  | evaluate now =>
      by_cases hready : (f.policy.evaluate exp now).snapshot.ready = true
      · -- a ready policy takes a step of the bands, which is a look
        rcases GovernorPolicy.evaluate_band f.policy hready with
          ⟨hnow, q, r, hbefore, hstep, hafter, hinput⟩
        have hlooked : Looked ⟨now, f.policy.snapshot.band, (f.policy.evaluate exp now).snapshot⟩
            q r now := ⟨rfl, hbefore.band.symm, hafter.band, hinput⟩
        rcases (h.same hbefore).look hclock hnow hlooked hstep with ⟨hbanded, hlawful⟩
        simp only [PolicyCall.look, PolicyCall.after, if_pos hready]
        refine ⟨hbanded.same hafter, ?_⟩
        intro k hk
        cases hk
        exact hlawful
      · simp only [PolicyCall.look, PolicyCall.after, if_neg hready]
        refine ⟨hwait.same (GovernorPolicy.sameBand_evaluate f.policy hready), ?_⟩
        intro k hk
        cases hk

/-- In a run every look is lawful. -/
theorem lawful_looks (calls : List PolicyCall) (h : Banded clock seen f.policy)
    (hclock : ∀ call ∈ calls, clock ≤ call.time)
    (htimes : (calls.map PolicyCall.time).Pairwise (· ≤ ·))
    (hseen : ∀ k older, k :: older <:+ seen → k.Lawful older) :
    ∀ k older, k :: older <:+ looks exp calls f seen → k.Lawful older := by
  induction calls generalizing clock seen f with
  | nil => exact hseen
  | cons call calls ih =>
      rw [List.map_cons, List.pairwise_cons] at htimes
      rcases call.banded h (hclock call List.mem_cons_self) with ⟨hbanded, hlawful⟩
      apply ih hbanded
      · intro later hlater
        exact htimes.1 later.time (List.mem_map_of_mem hlater)
      · exact htimes.2
      · intro k older hsuffix
        cases hlook : call.look exp f.policy with
        | none =>
            rw [hlook] at hsuffix
            exact hseen k older hsuffix
        | some look =>
            rw [hlook] at hsuffix
            rcases List.suffix_cons_iff.1 hsuffix with hsame | hold
            · cases hsame
              exact hlawful k hlook
            · exact hseen k older hold

end

/-- In every run from a reset, a look that finds the band lower than it was finds it
one lower, and has found the policy recovering for the dwell of the band it left;
one that finds it climb to `guard` or `shed` has found the input high for two seconds
or one; and one that finds `cruise` is 30 s after every emergency, and 25 s after
every look that found `emergency`. -/
theorem band_hysteresis (exp : ℚ → ℚ) (config : PolicyConfig) (calls : List PolicyCall)
    (htimes : (calls.map PolicyCall.time).Pairwise (· ≤ ·)) (newer older : List Look) (k : Look)
    (hlooks : looks exp calls ⟨.reset config, none, none⟩ [] = newer ++ k :: older) :
    (k.snapshot.band.rank < k.before.rank → k.before.rank = k.snapshot.band.rank + 1 ∧
      ∀ j ∈ k :: older, k.time - k.before.dwell < j.time →
        ¬ j.Emergency ∧ j.snapshot.filteredInputW < j.snapshot.recoveryW k.before) ∧
    (k.before = .cruise → k.snapshot.band = .guard →
      ∀ j ∈ k :: older, k.time - 2 < j.time → j.snapshot.guardW ≤ j.snapshot.filteredInputW) ∧
    (k.before = .cruise ∨ k.before = .guard → k.snapshot.band = .shed →
      ∀ j ∈ k :: older, k.time - 1 < j.time → j.snapshot.shedW ≤ j.snapshot.filteredInputW) ∧
    (k.snapshot.band = .cruise → ∀ j ∈ older,
      (j.Emergency → 30 ≤ k.time - j.time) ∧
        (j.snapshot.band = .emergency → 25 ≤ k.time - j.time)) := by
  have hlawful : k.Lawful older := by
    have hsuffix : k :: older <:+ looks exp calls ⟨.reset config, none, none⟩ [] := ⟨newer, hlooks.symm⟩
    have hnone : ∀ k older, k :: older <:+ ([] : List Look) → k.Lawful older := by
      intro k older h
      cases List.suffix_nil.1 h
    -- the policy starts with no look, which is lawful
    cases calls with
    | nil => exact hnone k older hsuffix
    | cons call calls =>
        refine lawful_looks (call :: calls) (banded_reset config call.time) ?_ htimes hnone k older
          hsuffix
        intro later hlater
        rw [List.map_cons, List.pairwise_cons] at htimes
        rcases List.mem_cons.1 hlater with rfl | hlater
        · exact le_refl _
        · exact htimes.1 later.time (List.mem_map_of_mem hlater)
  refine ⟨?_, hlawful.guard, hlawful.shed, ?_⟩
  · intro hdown
    rcases hlawful.down hdown with ⟨hlower, hrecovering⟩
    refine ⟨?_, hrecovering⟩
    have hne : k.before ≠ .cruise := by
      intro hcruise
      rw [hcruise] at hdown
      exact absurd hdown (Nat.not_lt_zero _)
    rw [hlower]
    exact GovernorBand.rank_lower hne
  · intro hcruise j hj
    constructor
    · intro hemergency
      have hdue := hlawful.cruise hcruise j hj j.time (.inl ⟨hemergency, rfl⟩)
      linarith
    · intro hband
      have hdue := hlawful.cruise hcruise j hj _ (.inr ⟨hband, rfl⟩)
      have hdwell : GovernorBand.dwell .emergency = 5 := rfl
      linarith

/-- Samples of an input that is all package power, and a look. -/
def steadyLook (now watts : ℚ) : List PolicyCall :=
  [.updateSMC now watts 100, .updatePackagePower now watts, .evaluate now]

/-- An input of 80 W of 100 W, and 10 W from two seconds on. -/
def steadyRun : List PolicyCall :=
  steadyLook 0 80 ++
    [2, 69 / 10, 7, 7, 17, 17, 32].flatMap fun now => steadyLook now 10

def steadyLooks : List Look := looks sampleExp steadyRun ⟨.reset {}, none, none⟩ []

/-- The band is `emergency` at 6.9 s, where there has been none for 4.9 s, and `cruise`
25.1 s later. -/
theorem cruise_early : (steadyRun.map PolicyCall.time).Pairwise (· ≤ ·) ∧
    (looks sampleExp steadyRun ⟨.reset {}, none, none⟩ []).map (fun k => (k.time, k.snapshot.band)) =
      [(32, .cruise), (17, .guard), (17, .guard), (7, .shed), (7, .shed), (69 / 10, .emergency),
        (2, .emergency), (0, .emergency)] ∧
    ¬ (30 : ℚ) ≤ 32 - 69 / 10 := by
  decide +kernel

theorem band_hysteresis_steadyRun :
    let k := steadyLooks.head (by decide +kernel)
    (k.snapshot.band.rank < k.before.rank → k.before.rank = k.snapshot.band.rank + 1 ∧
      ∀ j ∈ k :: steadyLooks.tail, k.time - k.before.dwell < j.time →
        ¬ j.Emergency ∧ j.snapshot.filteredInputW < j.snapshot.recoveryW k.before) ∧
    (k.before = .cruise → k.snapshot.band = .guard → ∀ j ∈ k :: steadyLooks.tail,
      k.time - 2 < j.time → j.snapshot.guardW ≤ j.snapshot.filteredInputW) ∧
    (k.before = .cruise ∨ k.before = .guard → k.snapshot.band = .shed →
      ∀ j ∈ k :: steadyLooks.tail, k.time - 1 < j.time →
        j.snapshot.shedW ≤ j.snapshot.filteredInputW) ∧
    (k.snapshot.band = .cruise → ∀ j ∈ steadyLooks.tail,
      (j.Emergency → 30 ≤ k.time - j.time) ∧
        (j.snapshot.band = .emergency → 25 ≤ k.time - j.time)) := by
  intro k
  refine band_hysteresis sampleExp {} steadyRun (by decide +kernel) [] steadyLooks.tail k ?_
  exact (List.cons_head_tail (by decide +kernel)).symm

end TurboMac.Daemon
