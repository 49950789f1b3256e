import TurboMac.Lib.Timing
import TurboMac.Linux.FanLadder

/-! # The release of the fan floor

A rule is to let go only of what its input has been below for `step_down_interval_s`.
The power rule does. The ladder has one timer for all steps, and starts it again with
each release: the sample that released a step then counts for the next one, which it
need not have been below.
-/

namespace TurboMac.Linux

/-- The inputs of one call of `decide`, both numbers. -/
structure FanSample where
  now : ℚ
  tempC : ℚ
  pkgW : ℚ

/-- Calls of `decide` with one section, at increasing times. -/
structure FanRun where
  config : FanConfig
  validated : config.Validated
  samples : ℕ → FanSample
  mono : StrictMono fun n => (samples n).now

namespace FanRun

variable (r : FanRun)

/-- The state before sample `n`. -/
def state : ℕ → FanState
  | 0 => {}
  | n + 1 => (decideFloor (state n) (some (r.samples n).tempC) (some (r.samples n).pkgW) r.config
      (r.samples n).now).1

def time (n : ℕ) : ℚ := (r.samples n).now

/-- From some sample, an interval before sample `n` or more, up to that one all are below. -/
def LongBelow (n : ℕ) (below : FanSample → Prop) : Prop :=
  ∃ m, r.time m ≤ r.time n - r.config.stepDownIntervalS ∧
    ∀ j, r.time m ≤ r.time j → r.time j ≤ r.time n → below (r.samples j)

/-- What a release at sample `n` has to wait for. -/
structure ReleaseLaw (n : ℕ) : Prop where
  temp : ∀ k, (r.state n).level = k → (r.state (n + 1)).level + 1 = k →
    r.LongBelow n fun s => s.tempC < r.config.releaseC k
  power : (r.state n).powerOn = true → (r.state (n + 1)).powerOn = false →
    r.LongBelow n fun s => s.pkgW < r.config.releaseW

/-- Sample `n` finds the ladder on a step that it is below, with a timer that sample `m`
has started an interval ago. -/
structure Due (n m : ℕ) : Prop where
  level : 0 < (r.state n).level
  since : (r.state n).tempBelowSince = some (r.time m)
  below : (r.samples n).tempC < r.config.releaseC (r.state n).level
  elapsed : r.config.stepDownIntervalS ≤ r.time n - r.time m

variable {r : FanRun} {m n : ℕ} {b : ℚ}

/-! ## The timers -/

theorem state_succ (n : ℕ) : r.state (n + 1) =
    ⟨(powerRule (r.state n) (some (r.samples n).pkgW) r.config (r.time n)).1,
      (powerRule (r.state n) (some (r.samples n).pkgW) r.config (r.time n)).2,
      (tempRule (r.state n) (some (r.samples n).tempC) r.config (r.time n)).1,
      (tempRule (r.state n) (some (r.samples n).tempC) r.config (r.time n)).2⟩ :=
  decideFloor_state (r.state n) r.config (r.time n) _ _

theorem power_stopwatch : Timing.Stopwatch r.time fun n => (r.state n).powerBelowSince where
  init := rfl
  step n := by
    rw [state_succ]
    dsimp only
    rcases powerRule_cases (r.state n) r.config (r.time n) (r.samples n).pkgW with
      ⟨-, h⟩ | ⟨-, -, h⟩ | ⟨-, -, -, h⟩ | ⟨-, -, -, h⟩
    · rw [h]
      exact .inl rfl
    · rw [h]
      exact .inl rfl
    · rw [h]
      exact Timing.moves_getD _ _
    · rw [h]
      exact .inl rfl

theorem temp_stopwatch : Timing.Stopwatch r.time fun n => (r.state n).tempBelowSince where
  init := rfl
  step n := by
    rw [state_succ]
    dsimp only
    rcases tempRule_cases (r.state n) r.config (r.time n) (r.samples n).tempC with
      ⟨-, h⟩ | ⟨-, -, h⟩ | ⟨-, -, -, h⟩ | ⟨-, -, -, h⟩
    · rw [h]
      exact .inl rfl
    · rw [h]
      exact .inl rfl
    · rw [h]
      exact Timing.moves_getD _ _
    · rw [h]
      dsimp only
      split
      · exact .inr (.inr rfl)
      · exact .inl rfl

/-- A sample after which the power timer runs was below. -/
theorem pkgW_of_running (h : (r.state (n + 1)).powerBelowSince = some b) :
    (r.samples n).pkgW < r.config.releaseW := by
  rw [state_succ] at h
  dsimp only at h
  rcases powerRule_cases (r.state n) r.config (r.time n) (r.samples n).pkgW with
    ⟨-, hrule⟩ | ⟨-, -, hrule⟩ | ⟨-, hbelow, -, -⟩ | ⟨-, hbelow, -, -⟩
  · rw [hrule] at h
    cases h
  · rw [hrule] at h
    cases h
  · exact hbelow
  · exact hbelow

/-- A sample that leaves a running timer as it is was below the step of the ladder, and
leaves that as it is. -/
theorem tempC_of_kept (hb : b ≠ r.time n) (h : (r.state (n + 1)).tempBelowSince = some b) :
    (r.state (n + 1)).level = (r.state n).level ∧
      (r.samples n).tempC < r.config.releaseC (r.state n).level := by
  rw [state_succ] at h ⊢
  dsimp only at h ⊢
  rcases tempRule_cases (r.state n) r.config (r.time n) (r.samples n).tempC with
    ⟨-, hrule⟩ | ⟨-, -, hrule⟩ | ⟨-, hbelow, -, hrule⟩ | ⟨-, -, -, hrule⟩
  · rw [hrule] at h
    cases h
  · rw [hrule] at h
    cases h
  · rw [hrule]
    exact ⟨rfl, hbelow⟩
  · rw [hrule] at h
    dsimp only at h
    split at h
    · cases h
      exact absurd rfl hb
    · cases h

/-! ## The releases -/

theorem le_of_time (h : r.time m ≤ r.time n) : m ≤ n := r.mono.le_iff_le.1 h

/-- The power rule has been below since its timer was started. -/
theorem power_release (hon : (r.state n).powerOn = true) (hoff : (r.state (n + 1)).powerOn = false) :
    r.LongBelow n fun s => s.pkgW < r.config.releaseW := by
  rw [state_succ] at hoff
  dsimp only at hoff
  rcases powerRule_cases (r.state n) r.config (r.time n) (r.samples n).pkgW with
    ⟨-, h⟩ | ⟨-, -, h⟩ | ⟨-, -, -, h⟩ | ⟨-, hbelow, hdue, -⟩
  · rw [h] at hoff
    cases hoff
  · rw [h] at hoff
    rw [hon] at hoff
    cases hoff
  · rw [h] at hoff
    cases hoff
  · have hpos := r.validated.stepDownIntervalS_pos
    cases hsince : (r.state n).powerBelowSince with
    | none =>
        rw [hsince, Option.getD_none] at hdue
        linarith
    | some b =>
        rw [hsince, Option.getD_some] at hdue
        rcases power_stopwatch.started_strict r.mono hsince with ⟨m, hm, htime, -, hrun⟩
        refine ⟨m, by linarith, ?_⟩
        intro j hmj hjn
        rcases Nat.lt_or_eq_of_le (le_of_time hjn) with hlt | rfl
        · have hj := le_of_time hmj
          exact pkgW_of_running (hrun (j + 1) (by omega) hlt)
        · exact hbelow

/-- The ladder releases a step exactly if it is due. -/
theorem released_iff : (r.state (n + 1)).level + 1 = (r.state n).level ↔ ∃ m, r.Due n m := by
  have hpos := r.validated.stepDownIntervalS_pos
  rw [state_succ]
  dsimp only
  rcases tempRule_cases (r.state n) r.config (r.time n) (r.samples n).tempC with
    ⟨hmet, h⟩ | ⟨-, hhigh, h⟩ | ⟨-, -, hearly, h⟩ | ⟨hmet, hbelow, hdue, h⟩
  · rw [h]
    dsimp only
    constructor
    · intro hdrop
      omega
    · rintro ⟨m, hdue⟩
      -- the step that it is below is not met
      have hstep := r.validated.stepC_le hdue.level hmet
      have hbelow := hdue.below
      have hhyst := r.validated.hysteresisC_pos
      unfold FanConfig.releaseC at hbelow
      linarith
  · rw [h]
    dsimp only
    constructor
    · intro hdrop
      omega
    · rintro ⟨m, hdue⟩
      exact absurd hdue.below (not_lt.2 hhigh)
  · rw [h]
    dsimp only
    constructor
    · intro hdrop
      omega
    · rintro ⟨m, hdue⟩
      have helapsed := hdue.elapsed
      rw [hdue.since, Option.getD_some] at hearly
      linarith
  · rw [h]
    dsimp only
    constructor
    · intro _
      cases hsince : (r.state n).tempBelowSince with
      | none =>
          rw [hsince, Option.getD_none] at hdue
          linarith
      | some b =>
          rw [hsince, Option.getD_some] at hdue
          rcases temp_stopwatch.started hsince with ⟨m, -, rfl, -⟩
          exact ⟨m, by omega, hsince, hbelow, hdue⟩
    · intro _
      omega

/-- Since its timer was started the ladder has been on one step, and below that but for
the sample that started the timer. -/
theorem Due.below_since (h : r.Due n m) : m < n ∧
    ∀ j, m < j → j ≤ n → (r.samples j).tempC < r.config.releaseC (r.state n).level := by
  rcases temp_stopwatch.started_strict r.mono h.since with ⟨m', hm', htime, -, hrun⟩
  have heq : m' = m := r.mono.injective htime
  subst heq
  have hkept : ∀ j, m' < j → j < n → (r.state (j + 1)).level = (r.state j).level ∧
      (r.samples j).tempC < r.config.releaseC (r.state j).level := by
    intro j hmj hjn
    have hne : r.time m' ≠ r.time j := ne_of_lt (r.mono hmj)
    exact tempC_of_kept hne (hrun (j + 1) (by omega) hjn)
  have hlevel : ∀ j, m' + 1 ≤ j → j ≤ n → (r.state j).level = (r.state (m' + 1)).level := by
    intro j hmj
    induction j, hmj using Nat.le_induction with
    | base =>
        intro _
        rfl
    | succ j hmj ih =>
        intro hjn
        rw [(hkept j (by omega) (by omega)).1]
        exact ih (by omega)
  refine ⟨hm', ?_⟩
  intro j hmj hjn
  rcases Nat.lt_or_eq_of_le hjn with hlt | rfl
  · rw [hlevel n hm' (le_refl n), ← hlevel j hmj hjn]
    exact (hkept j hmj hlt).2
  · exact h.below

/-- So the release has waited long enough if that sample counts, or is not needed. -/
theorem Due.longBelow_iff (h : r.Due n m) :
    (r.LongBelow n fun s => s.tempC < r.config.releaseC (r.state n).level) ↔
      (r.samples m).tempC < r.config.releaseC (r.state n).level ∨
        r.time (m + 1) ≤ r.time n - r.config.stepDownIntervalS := by
  rcases h.below_since with ⟨hmn, hbelow⟩
  constructor
  · rintro ⟨m', hm', hall⟩
    rcases Nat.lt_or_ge m m' with hlt | hge
    · right
      exact (r.mono.monotone hlt).trans hm'
    · left
      exact hall m (r.mono.monotone hge) (r.mono hmn).le
  · rintro (hstart | hnext)
    · have helapsed := h.elapsed
      refine ⟨m, by linarith, ?_⟩
      intro j hmj hjn
      rcases Nat.lt_or_eq_of_le (le_of_time hmj) with hlt | rfl
      · exact hbelow j hlt (le_of_time hjn)
      · exact hstart
    · refine ⟨m + 1, hnext, ?_⟩
      intro j hmj hjn
      exact hbelow j (le_of_time hmj) (le_of_time hjn)

theorem lawful_release_iff (r : FanRun) (n : ℕ) : r.ReleaseLaw n ↔ ∀ m, r.Due n m →
    (r.samples m).tempC < r.config.releaseC (r.state n).level ∨
      r.time (m + 1) ≤ r.time n - r.config.stepDownIntervalS := by
  constructor
  · intro h m hdue
    exact hdue.longBelow_iff.1 (h.temp _ rfl (released_iff.2 ⟨m, hdue⟩))
  · intro h
    constructor
    · rintro k rfl hdrop
      rcases released_iff.1 hdrop with ⟨m, hdue⟩
      exact hdue.longBelow_iff.2 (h m hdue)
    · exact power_release

/-- The releases of a run have waited for what they have to wait for exactly if each step
that is due had been fallen below by the sample that started its timer, or is due
without that sample. -/
theorem release_law_iff (r : FanRun) : (∀ n, r.ReleaseLaw n) ↔ ∀ n m, r.Due n m →
    (r.samples m).tempC < r.config.releaseC (r.state n).level ∨
      r.time (m + 1) ≤ r.time n - r.config.stepDownIntervalS := by
  constructor
  · intro h n
    exact (lawful_release_iff r n).1 (h n)
  · intro h n
    exact (lawful_release_iff r n).2 (h n)

end FanRun

/-- Below 84 degrees for the twenty seconds of the third step, and then below 78, but for
nineteen seconds only. -/
def earlySamples : ℕ → FanSample
  | 0 => ⟨0, 91, 10⟩
  | 1 => ⟨1, 83, 10⟩
  | 2 => ⟨21, 83, 10⟩
  | 3 => ⟨22, 77, 10⟩
  | n + 4 => ⟨41 + n, 77, 10⟩

def earlyRelease : FanRun where
  config := Settings.defaults.fan
  validated := defaults_valid.fan_validated
  samples := earlySamples
  mono := by
    apply strictMono_nat_of_lt_succ
    intro n
    have hcases : n = 0 ∨ n = 1 ∨ n = 2 ∨ n = 3 ∨ ∃ k, n = k + 4 := by
      rcases Nat.lt_or_ge n 4 with hlt | hge
      · omega
      · exact .inr (.inr (.inr (.inr ⟨n - 4, by omega⟩)))
    rcases hcases with rfl | rfl | rfl | rfl | ⟨k, rfl⟩
    · decide +kernel
    · decide +kernel
    · decide +kernel
    · decide +kernel
    · simp [earlySamples]

/-- The second step is released after nineteen seconds. -/
theorem early_release : ¬ earlyRelease.ReleaseLaw 4 := by
  intro h
  have hlevel : (earlyRelease.state 4).level = 2 := by decide +kernel
  have hdrop : (earlyRelease.state 5).level + 1 = 2 := by decide +kernel
  rcases h.temp 2 hlevel hdrop with ⟨m, hm, hall⟩
  have hspan : earlyRelease.time 4 - earlyRelease.config.stepDownIntervalS = earlyRelease.time 2 := by
    decide +kernel
  rw [hspan] at hm
  have hbelow := hall 2 hm (by decide +kernel)
  exact absurd hbelow (by decide +kernel)

end TurboMac.Linux
