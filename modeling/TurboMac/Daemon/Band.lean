import TurboMac.Daemon.Readiness
import TurboMac.Lib.Dwell

/-! # The bands of the policy

The policy climbs to `emergency` at once and to the bands between after one or
two seconds; it comes down one band at a time, each after its dwell. Its five
timers are cleared by `unset`; those of the way down are only ever running in the
band they belong to.
-/

namespace TurboMac.Daemon

open Dwell

/-! ## Timers -/

/-- A timer of the policy. -/
def running (since : ℚ) : Option ℚ := if since = unset then none else some since

section

variable {now since d : ℚ}

theorem running_updateCondition (hnow : 0 ≤ now) (condition : Bool) :
    running (updateCondition condition now since) = update condition now (running since) := by
  have hstart : running now = some now := if_neg (ne_unset hnow)
  unfold updateCondition update
  cases condition with
  | false => rfl
  | true =>
      by_cases hsince : since = unset
      · rw [if_neg (by decide), if_pos hsince, hstart, hsince]
        rfl
      · simp [hsince, running]

/-- A timer that has run for some time is running. -/
theorem running_of_elapsed (hd : 0 < d) (h : d ≤ elapsedOrZero now since) :
    running since = some since ∧ d ≤ now - since := by
  unfold elapsedOrZero at h
  split at h
  · exact absurd hd (not_lt.2 h)
  · rename_i hrunning
    rw [not_or] at hrunning
    exact ⟨if_neg hrunning.1, h⟩

theorem elapsed_of_running (h : running since = some since) (hd : d ≤ now - since) (hpos : 0 ≤ d) :
    d ≤ elapsedOrZero now since := by
  unfold elapsedOrZero
  unfold running at h
  split at h
  · cases h
  · rename_i hunset
    rw [if_neg]
    · exact hd
    · rintro (hs | hs)
      · exact hunset hs
      · linarith

theorem eq_of_running {s : ℚ} (h : running since = some s) : since = s := by
  unfold running at h
  split at h
  · cases h
  · exact Option.some.inj h

end

/-! ## Bands -/

namespace GovernorBand

def rank : GovernorBand → ℕ
  | .cruise => 0
  | .guard => 1
  | .shed => 2
  | .emergency => 3

/-- The next band down. -/
def lower : GovernorBand → GovernorBand
  | .cruise => .cruise
  | .guard => .cruise
  | .shed => .guard
  | .emergency => .shed

/-- How long the policy recovers in a band before it leaves it downward. -/
def dwell : GovernorBand → ℚ
  | .cruise => 0
  | .guard => 15
  | .shed => 10
  | .emergency => 5

/-- How long the way down takes to a band. -/
def due : GovernorBand → ℚ
  | .cruise => 30
  | .guard => 15
  | .shed => 5
  | .emergency => 0

theorem due_lower {band : GovernorBand} (h : band ≠ .cruise) : band.lower.due = band.due + band.dwell := by
  cases band with
  | cruise => exact absurd rfl h
  | guard | shed | emergency => decide +kernel

theorem dwell_pos {band : GovernorBand} (h : band ≠ .cruise) : 0 < band.dwell := by
  cases band with
  | cruise => exact absurd rfl h
  | guard | shed | emergency => decide +kernel

theorem due_nonneg (band : GovernorBand) : 0 ≤ band.due := by
  cases band <;> decide +kernel

theorem due_le_of_rank {band band' : GovernorBand} (h : band.rank ≤ band'.rank) :
    band'.due ≤ band.due := by
  revert h
  cases band <;> cases band' <;> decide +kernel

theorem rank_lower {band : GovernorBand} (h : band ≠ .cruise) : band.rank = band.lower.rank + 1 := by
  cases band with
  | cruise => exact absurd rfl h
  | guard | shed | emergency => rfl

theorem lower_ne_emergency (band : GovernorBand) : band.lower ≠ .emergency := by
  cases band <;> decide

end GovernorBand

/-- The input below which the policy recovers in a band. -/
def PolicySnapshot.recoveryW (s : PolicySnapshot) : GovernorBand → ℚ
  | .cruise => 0
  | .guard => s.guardW - 3 / 100 * s.capacityW
  | .shed => s.guardW
  | .emergency => s.shedW

namespace GovernorPolicy

/-- The timer of the way down from a band. -/
def recoverySince (p : GovernorPolicy) : GovernorBand → ℚ
  | .cruise => unset
  | .guard => p.belowCruiseSince
  | .shed => p.belowGuardSince
  | .emergency => p.belowShedSince

/-- The timer of the way down from the band the policy is in, after an evaluation. -/
def recovery (p : GovernorPolicy) (now : ℚ) : ℚ :=
  updateCondition (decide (p.snapshot.filteredInputW < p.snapshot.recoveryW p.snapshot.band)) now
    (p.recoverySince p.snapshot.band)

/-- What `updateBand` does to its timers where there is no emergency. -/
structure Calm (p p' : GovernorPolicy) (now : ℚ) : Prop where
  emergency : p.emergency = false
  guardHigh : p'.guardHighSince =
    updateCondition (decide (p.snapshot.guardW ≤ p.snapshot.filteredInputW)) now p.guardHighSince
  shedHigh : p'.shedHighSince =
    updateCondition (decide (p.snapshot.shedW ≤ p.snapshot.filteredInputW)) now p.shedHighSince
  others : ∀ band, band ≠ p.snapshot.band → p'.recoverySince band = p.recoverySince band

/-- What `updateBand` does: it climbs to `emergency`, or to `guard` or `shed` on a high
input, stays in its band, or falls to the next one down. -/
inductive BandStep (p p' : GovernorPolicy) (now : ℚ) : Prop
  | emergency (hemergency : p.emergency = true) (hband : p'.snapshot.band = .emergency)
      (hguardHigh : p'.guardHighSince = p.guardHighSince)
      (hshedHigh : p'.shedHighSince = p.shedHighSince)
      (hrecovery : ∀ band, p'.recoverySince band = unset)
  | toGuard (hcalm : Calm p p' now) (hbefore : p.snapshot.band = .cruise)
      (hband : p'.snapshot.band = .guard) (helapsed : 2 ≤ elapsedOrZero now p'.guardHighSince)
  | toShed (hcalm : Calm p p' now) (hbefore : p.snapshot.band = .cruise ∨ p.snapshot.band = .guard)
      (hband : p'.snapshot.band = .shed) (helapsed : 1 ≤ elapsedOrZero now p'.shedHighSince)
      (hleft : p'.recoverySince p.snapshot.band = unset)
  | stay (hcalm : Calm p p' now) (hband : p'.snapshot.band = p.snapshot.band)
      (hsince : p.snapshot.band ≠ .cruise → p'.recoverySince p.snapshot.band = p.recovery now ∧
        ¬ p.snapshot.band.dwell ≤ elapsedOrZero now (p.recovery now))
  | fall (hcalm : Calm p p' now) (hne : p.snapshot.band ≠ .cruise)
      (hband : p'.snapshot.band = p.snapshot.band.lower)
      (helapsed : p.snapshot.band.dwell ≤ elapsedOrZero now (p.recovery now))
      (hleft : p'.recoverySince p.snapshot.band = unset)

section

variable {p p' : GovernorPolicy} {now : ℚ}

/-- The timers of the other bands, one by one. -/
theorem recoverySince_eq (hguard : p.snapshot.band ≠ .guard → p'.belowCruiseSince = p.belowCruiseSince)
    (hshed : p.snapshot.band ≠ .shed → p'.belowGuardSince = p.belowGuardSince)
    (hemergency : p.snapshot.band ≠ .emergency → p'.belowShedSince = p.belowShedSince) :
    ∀ band, band ≠ p.snapshot.band → p'.recoverySince band = p.recoverySince band := by
  intro band hne
  cases band with
  | cruise => rfl
  | guard => exact hguard hne.symm
  | shed => exact hshed hne.symm
  | emergency => exact hemergency hne.symm

/-- The bands with a way down, which the policy takes after its dwell. -/
theorem BandStep.recover (hcalm : Calm p p' now) (hne : p.snapshot.band ≠ .cruise)
    (h : (p.snapshot.band.dwell ≤ elapsedOrZero now (p.recovery now) ∧
        p'.snapshot.band = p.snapshot.band.lower ∧ p'.recoverySince p.snapshot.band = unset) ∨
      (¬ p.snapshot.band.dwell ≤ elapsedOrZero now (p.recovery now) ∧
        p'.snapshot.band = p.snapshot.band ∧
        p'.recoverySince p.snapshot.band = p.recovery now)) : BandStep p p' now := by
  rcases h with ⟨helapsed, hband, hleft⟩ | ⟨hshort, hband, hsince⟩
  · exact .fall hcalm hne hband helapsed hleft
  · exact .stay hcalm hband fun _ => ⟨hsince, hshort⟩

/-- From `cruise` the policy goes up or stays. -/
theorem bandStep_cruise (hcalm : p.emergency = false) (hband : p.snapshot.band = .cruise) :
    BandStep p (p.updateBand now) now := by
  unfold updateBand
  rw [if_neg (Bool.eq_false_iff.1 hcalm)]
  unfold switchBand
  simp only [hband]
  split
  · rename_i hhigh
    refine .toShed ⟨hcalm, rfl, rfl, ?_⟩ (.inl hband) rfl hhigh ?_
    · exact recoverySince_eq (fun _ => rfl) (fun _ => rfl) (fun _ => rfl)
    · rw [hband]
      rfl
  · split
    · rename_i hhigh
      refine .toGuard ⟨hcalm, rfl, rfl, ?_⟩ hband rfl hhigh
      exact recoverySince_eq (fun _ => rfl) (fun _ => rfl) (fun _ => rfl)
    · refine .stay ⟨hcalm, rfl, rfl, ?_⟩ rfl ?_
      · exact recoverySince_eq (fun _ => rfl) (fun _ => rfl) (fun _ => rfl)
      · intro hne
        exact absurd hband hne

/-- From `guard` it goes up to `shed`, or falls after the dwell. -/
theorem bandStep_guard (hcalm : p.emergency = false) (hband : p.snapshot.band = .guard) :
    BandStep p (p.updateBand now) now := by
  unfold updateBand
  rw [if_neg (Bool.eq_false_iff.1 hcalm)]
  have hrecovery : p.recovery now = updateCondition (decide (p.snapshot.filteredInputW <
      p.snapshot.guardW - 3 / 100 * p.snapshot.capacityW)) now p.belowCruiseSince := by
    rw [recovery, hband]
    rfl
  unfold switchBand
  simp only [hband, ← hrecovery]
  split
  · rename_i hhigh
    refine .toShed ⟨hcalm, rfl, rfl, ?_⟩ (.inr hband) rfl hhigh ?_
    · exact recoverySince_eq (fun hne => absurd hband hne) (fun _ => rfl) (fun _ => rfl)
    · rw [hband]
      rfl
  · split
    · rename_i hlow
      refine .recover ⟨hcalm, rfl, rfl, ?_⟩ (by rw [hband]; decide) (.inl ?_)
      · exact recoverySince_eq (fun hne => absurd hband hne) (fun _ => rfl) (fun _ => rfl)
      · rw [hband]
        exact ⟨hlow, rfl, rfl⟩
    · rename_i hlow
      refine .recover ⟨hcalm, rfl, rfl, ?_⟩ (by rw [hband]; decide) (.inr ?_)
      · exact recoverySince_eq (fun hne => absurd hband hne) (fun _ => rfl) (fun _ => rfl)
      · rw [hband]
        exact ⟨hlow, rfl, rfl⟩

/-- `shed` has only a way down. -/
theorem bandStep_shed (hcalm : p.emergency = false) (hband : p.snapshot.band = .shed) :
    BandStep p (p.updateBand now) now := by
  unfold updateBand
  rw [if_neg (Bool.eq_false_iff.1 hcalm)]
  have hrecovery : p.recovery now = updateCondition (decide (p.snapshot.filteredInputW <
      p.snapshot.guardW)) now p.belowGuardSince := by
    rw [recovery, hband]
    rfl
  unfold switchBand
  simp only [hband, ← hrecovery]
  split
  · rename_i hlow
    refine .recover ⟨hcalm, rfl, rfl, ?_⟩ (by rw [hband]; decide) (.inl ?_)
    · exact recoverySince_eq (fun _ => rfl) (fun hne => absurd hband hne) (fun _ => rfl)
    · rw [hband]
      exact ⟨hlow, rfl, rfl⟩
  · rename_i hlow
    refine .recover ⟨hcalm, rfl, rfl, ?_⟩ (by rw [hband]; decide) (.inr ?_)
    · exact recoverySince_eq (fun _ => rfl) (fun hne => absurd hband hne) (fun _ => rfl)
    · rw [hband]
      exact ⟨hlow, rfl, rfl⟩

/-- So has `emergency`, once there is none. -/
theorem bandStep_emergency (hcalm : p.emergency = false) (hband : p.snapshot.band = .emergency) :
    BandStep p (p.updateBand now) now := by
  unfold updateBand
  rw [if_neg (Bool.eq_false_iff.1 hcalm)]
  have hrecovery : p.recovery now = updateCondition (decide (p.snapshot.filteredInputW <
      p.snapshot.shedW)) now p.belowShedSince := by
    rw [recovery, hband]
    rfl
  unfold switchBand
  simp only [hband, ← hrecovery]
  split
  · rename_i hlow
    refine .recover ⟨hcalm, rfl, rfl, ?_⟩ (by rw [hband]; decide) (.inl ?_)
    · exact recoverySince_eq (fun _ => rfl) (fun _ => rfl) (fun hne => absurd hband hne)
    · rw [hband]
      exact ⟨hlow, rfl, rfl⟩
  · rename_i hlow
    refine .recover ⟨hcalm, rfl, rfl, ?_⟩ (by rw [hband]; decide) (.inr ?_)
    · exact recoverySince_eq (fun _ => rfl) (fun _ => rfl) (fun hne => absurd hband hne)
    · rw [hband]
      exact ⟨hlow, rfl, rfl⟩

end

theorem bandStep_updateBand (p : GovernorPolicy) (now : ℚ) : BandStep p (p.updateBand now) now := by
  by_cases hemergency : p.emergency = true
  · apply BandStep.emergency hemergency
    all_goals
      unfold updateBand
      rw [if_pos hemergency]
    · rfl
    · rfl
    · rfl
    · intro band
      cases band <;> rfl
  · have hcalm := Bool.eq_false_iff.2 hemergency
    cases hband : p.snapshot.band with
    | cruise => exact bandStep_cruise hcalm hband
    | guard => exact bandStep_guard hcalm hband
    | shed => exact bandStep_shed hcalm hband
    | emergency => exact bandStep_emergency hcalm hband

/-! ## Readiness -/

/-- The rest of `evaluate` leaves the band, its timers and what they rest on. -/
structure SameBand (p p' : GovernorPolicy) : Prop where
  band : p'.snapshot.band = p.snapshot.band
  guardHigh : p'.guardHighSince = p.guardHighSince
  shedHigh : p'.shedHighSince = p.shedHighSince
  recovery : p'.recoverySince = p.recoverySince

/-- What the bands rest on. -/
structure SameInput (s s' : PolicySnapshot) : Prop where
  input : s'.inputW = s.inputW
  predicted : s'.predictedInputW = s.predictedInputW
  filtered : s'.filteredInputW = s.filteredInputW
  capacity : s'.capacityW = s.capacityW
  guard : s'.guardW = s.guardW
  shed : s'.shedW = s.shedW
  emergency : s'.emergencyW = s.emergencyW

instance : IsPreorder PolicySnapshot SameInput where
  refl _ := ⟨rfl, rfl, rfl, rfl, rfl, rfl, rfl⟩
  trans _ _ _ h h' :=
    ⟨h'.input.trans h.input, h'.predicted.trans h.predicted, h'.filtered.trans h.filtered,
      h'.capacity.trans h.capacity, h'.guard.trans h.guard, h'.shed.trans h.shed,
      h'.emergency.trans h.emergency⟩

variable {exp : ℚ → ℚ} {now : ℚ}

theorem sameBand_predict (p : GovernorPolicy) :
    SameBand p ((p.refresh now).updateNonCPU exp now).predict := by
  unfold updateNonCPU
  split <;> exact ⟨rfl, rfl, rfl, rfl⟩

theorem sameInput_updateBand (p : GovernorPolicy) :
    SameInput p.snapshot (p.updateBand now).snapshot := by
  obtain ⟨_, _, _, _, _, _, hframe⟩ := p.updateBand_frame now
  rw [hframe]
  exact ⟨rfl, rfl, rfl, rfl, rfl, rfl, rfl⟩

theorem same_updateLimits (p : GovernorPolicy) :
    SameBand p (p.updateLimits now).flagOverBudget ∧
      SameInput p.snapshot (p.updateLimits now).flagOverBudget.snapshot :=
  ⟨⟨rfl, rfl, rfl, rfl⟩, ⟨rfl, rfl, rfl, rfl, rfl, rfl, rfl⟩⟩

/-- A ready evaluation moves the band once. -/
theorem evaluate_band (p : GovernorPolicy) (h : (p.evaluate exp now).snapshot.ready = true) :
    0 ≤ now ∧ ∃ q r, SameBand p q ∧ BandStep q r now ∧ SameBand r (p.evaluate exp now) ∧
      SameInput q.snapshot (p.evaluate exp now).snapshot := by
  unfold evaluate at h ⊢
  split at h
  · cases h
  · rename_i hnow
    rw [if_neg hnow]
    dsimp only at h ⊢
    split at h
    · rename_i hready
      rw [hready] at h
      cases h
    · rename_i hready
      rw [if_neg hready]
      generalize hq : ((p.refresh now).updateNonCPU exp now).predict = q
      have hsame : SameBand p q := by
        rw [← hq]
        exact sameBand_predict p
      have hlimits := @same_updateLimits now (q.updateBand now)
      exact ⟨not_lt.1 hnow, q, q.updateBand now, hsame, bandStep_updateBand q now, hlimits.1,
        trans_of _ (sameInput_updateBand q) hlimits.2⟩

/-- One that is not ready does not. -/
theorem sameBand_evaluate (p : GovernorPolicy) (h : (p.evaluate exp now).snapshot.ready ≠ true) :
    SameBand p (p.evaluate exp now) := by
  unfold evaluate at h ⊢
  split
  · exact ⟨rfl, rfl, rfl, rfl⟩
  · rename_i hnow
    rw [if_neg hnow] at h
    dsimp only at h ⊢
    split
    · exact ⟨rfl, rfl, rfl, rfl⟩
    · rename_i hready
      rw [if_neg hready] at h
      have hevaluate := sameReadiness_evaluate exp p (not_lt.1 hnow)
      unfold evaluate at hevaluate
      rw [if_neg hnow] at hevaluate
      dsimp only at hevaluate
      rw [if_neg hready] at hevaluate
      rw [hevaluate.ready] at h
      exact absurd (Bool.not_eq_false _ ▸ hready) h

theorem sameBand_updateSMC {p p' : GovernorPolicy} {inputW capacityW : ℚ}
    (h : p.updateSMC now inputW capacityW = some p') : SameBand p p' := by
  unfold updateSMC at h
  split at h
  · cases h
  · cases h
    exact ⟨rfl, rfl, rfl, rfl⟩

theorem sameBand_updatePackagePower {p p' : GovernorPolicy} {packageW : ℚ}
    (h : p.updatePackagePower now packageW = some p') : SameBand p p' := by
  unfold updatePackagePower at h
  split at h
  · cases h
  · cases h
    exact ⟨rfl, rfl, rfl, rfl⟩

end GovernorPolicy

end TurboMac.Daemon
