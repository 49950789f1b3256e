import Mathlib.Algebra.Order.Floor.Ring
import Mathlib.Order.Monotone.Basic
import Mathlib.Tactic.Linarith
import Mathlib.Tactic.Ring

/-! # Timers along a behavior

General facts about behaviors indexed by `ℕ`, where step `n` happens at
`time n` and leads from position `n` to position `n + 1`.

* `Stopwatch`: a timer that each step keeps, clears or starts. A running
  stopwatch was started at some step and kept by every step since.
* `Stamp`: the time of the last step of some kind.
* `Ratchet`: a level that falls freely but rises by at most `δ`, in steps that
  are at least `I` apart. `Ratchet.slew` bounds its rise between two steps.
* `Pace`: a level that is kept with the time of its last change, and rises by at
  most `δ` once that is `I` ago. `Risen` is what it may have risen to, step by step.
-/

namespace Timing

section Stopwatch

variable {τ : Type*} {time : ℕ → τ} {since : ℕ → Option τ}

/-- From `old` to `new` a timer is cleared, kept or (re)started at `now`. -/
def Moves (now : τ) (old new : Option τ) : Prop := new = none ∨ new = old ∨ new = some now

theorem moves_keep (now : τ) (old : Option τ) : Moves now old old := Or.inr (Or.inl rfl)

/-- Started, unless it is running already. -/
theorem moves_getD (now : τ) (old : Option τ) : Moves now old (some (old.getD now)) := by
  cases old with
  | none => exact Or.inr (Or.inr rfl)
  | some b => exact moves_keep now (some b)

/-- A timer that is clear at first and then moves with each step. -/
structure Stopwatch (time : ℕ → τ) (since : ℕ → Option τ) : Prop where
  init : since 0 = none
  step : ∀ n, Moves (time n) (since n) (since (n + 1))

/-- A running stopwatch was started by an earlier step and kept since. -/
theorem Stopwatch.started (h : Stopwatch time since) {n : ℕ} {b : τ} (hn : since n = some b) :
    ∃ m < n, time m = b ∧ ∀ k, m < k → k ≤ n → since k = some b := by
  induction n with
  | zero => simp [h.init] at hn
  | succ n ih =>
      rcases h.step n with hclear | hkeep | hstart
      · simp [hclear] at hn
      · -- kept: the earlier start still serves
        rcases ih (hkeep.symm.trans hn) with ⟨m, hm, htime, hrun⟩
        refine ⟨m, Nat.lt_succ_of_lt hm, htime, ?_⟩
        intro k hmk hk
        rcases Nat.lt_or_eq_of_le hk with hlt | rfl
        · exact hrun k hmk (Nat.le_of_lt_succ hlt)
        · exact hn
      · -- started by this very step
        have hb : time n = b := Option.some.inj (hstart.symm.trans hn)
        refine ⟨n, Nat.lt_succ_self n, hb, ?_⟩
        intro k hnk hk
        have hkn : k = n + 1 := by omega
        rw [hkn]
        exact hn

/-- Where no two steps are at one time, it was not running before. -/
theorem Stopwatch.started_strict [Preorder τ] (h : Stopwatch time since) (hmono : StrictMono time)
    {n : ℕ} {b : τ} (hn : since n = some b) :
    ∃ m < n, time m = b ∧ since m ≠ some b ∧ ∀ k, m < k → k ≤ n → since k = some b := by
  rcases h.started hn with ⟨m, hm, htime, hrun⟩
  refine ⟨m, hm, htime, ?_, hrun⟩
  intro hrunning
  rcases h.started hrunning with ⟨m', hm', htime', -⟩
  have hlt := hmono hm'
  rw [htime, htime'] at hlt
  exact lt_irrefl _ hlt

/-- After a (re)start at step `m`, whatever the stopwatch shows later is no
older than that start. -/
theorem Stopwatch.le_of_start [Preorder τ] (h : Stopwatch time since) (hmono : Monotone time)
    {m n : ℕ} {b : τ} (hm : since (m + 1) = some (time m)) (hmn : m < n)
    (hn : since n = some b) : time m ≤ b := by
  rcases h.started hn with ⟨k, _, htime, hrun⟩
  rcases Nat.lt_or_ge k m with hkm | hmk
  · have hb := hrun (m + 1) (by omega) hmn
    rw [hm] at hb
    exact le_of_eq (Option.some.inj hb)
  · rw [← htime]
    exact hmono hmk

end Stopwatch

section Stamp

variable {τ : Type*} {time : ℕ → τ} {P : ℕ → Prop} {stamp : ℕ → Option τ}

/-- The time of the last step of a kind. -/
structure Stamp (time : ℕ → τ) (P : ℕ → Prop) (stamp : ℕ → Option τ) : Prop where
  init : stamp 0 = none
  set : ∀ n, P n → stamp (n + 1) = some (time n)
  keep : ∀ n, ¬ P n → stamp (n + 1) = stamp n

theorem Stamp.eq_some (h : Stamp time P stamp) {n : ℕ} {b : τ} (hn : stamp n = some b) :
    ∃ m < n, P m ∧ time m = b := by
  induction n with
  | zero =>
      rw [h.init] at hn
      cases hn
  | succ n ih =>
      by_cases hP : P n
      · rw [h.set n hP] at hn
        exact ⟨n, Nat.lt_succ_self n, hP, Option.some.inj hn⟩
      · rw [h.keep n hP] at hn
        rcases ih hn with ⟨m, hm, hPm, htime⟩
        exact ⟨m, Nat.lt_succ_of_lt hm, hPm, htime⟩

/-- From a step of the kind on it is no older than that step. -/
theorem Stamp.ge [Preorder τ] (h : Stamp time P stamp) (hmono : Monotone time) {m n : ℕ}
    (hm : P m) (hmn : m < n) : ∃ b, stamp n = some b ∧ time m ≤ b := by
  induction n with
  | zero => exact absurd hmn (Nat.not_lt_zero m)
  | succ n ih =>
      by_cases hP : P n
      · exact ⟨time n, h.set n hP, hmono (Nat.le_of_lt_succ hmn)⟩
      · rw [h.keep n hP]
        rcases Nat.lt_or_eq_of_le (Nat.le_of_lt_succ hmn) with hlt | rfl
        · exact ih hlt
        · exact absurd hm hP

end Stamp

section Ratchet

variable {α : Type*} [Field α] [LinearOrder α] [IsStrictOrderedRing α]
variable {time level : ℕ → α} {Raise : ℕ → Prop} {δ I : α}

/-- A level that only the `Raise` steps lift, each by at most `δ`, any two of
them at least `I` apart. -/
structure Ratchet (time level : ℕ → α) (Raise : ℕ → Prop) (δ I : α) : Prop where
  mono : Monotone time
  nonneg : 0 ≤ δ
  pos : 0 < I
  hold : ∀ n, ¬ Raise n → level (n + 1) ≤ level n
  lift : ∀ n, Raise n → level (n + 1) ≤ level n + δ
  spaced : ∀ m n, m < n → Raise m → Raise n → I ≤ time n - time m

/-- Counting form: between two steps the level rises by at most `c` lifts, and
`c` lifts take at least `c - 1` intervals. -/
theorem Ratchet.count (h : Ratchet time level Raise δ I) {i j : ℕ} (hij : i ≤ j) :
    ∃ c : ℕ, level (j + 1) ≤ level (i + 1) + δ * c ∧
      (c = 0 ∨ ∃ r, i < r ∧ r ≤ j ∧ Raise r ∧ ((c : α) - 1) * I ≤ time r - time i) := by
  induction j, hij using Nat.le_induction with
  | base => exact ⟨0, by simp, Or.inl rfl⟩
  | succ j hij ih =>
      rcases ih with ⟨c, hlevel, hc⟩
      by_cases hraise : Raise (j + 1)
      · -- one more lift
        have hlift := h.lift (j + 1) hraise
        refine ⟨c + 1, ?_, Or.inr ⟨j + 1, by omega, le_refl _, hraise, ?_⟩⟩
        · push_cast
          linarith
        · rcases hc with rfl | ⟨r, hir, hrj, hr, hspan⟩
          · have hle := h.mono (show i ≤ j + 1 by omega)
            push_cast
            linarith
          · have hgap := h.spaced r (j + 1) (by omega) hr hraise
            push_cast
            linarith
      · have hhold := h.hold (j + 1) hraise
        refine ⟨c, hhold.trans hlevel, ?_⟩
        rcases hc with hzero | ⟨r, hir, hrj, hr, hspan⟩
        · exact Or.inl hzero
        · exact Or.inr ⟨r, hir, by omega, hr, hspan⟩

/-- The slew law of a ratchet. -/
theorem Ratchet.slew [FloorRing α] (h : Ratchet time level Raise δ I) {i j : ℕ} (hij : i ≤ j) :
    level (j + 1) - level (i + 1) ≤ δ * (1 + ⌊(time j - time i) / I⌋) := by
  have hspan : 0 ≤ time j - time i := sub_nonneg.2 (h.mono hij)
  have hfloor : (0 : ℤ) ≤ ⌊(time j - time i) / I⌋ := Int.floor_nonneg.2 (div_nonneg hspan h.pos.le)
  rcases h.count hij with ⟨c, hlevel, hc⟩
  have hcount : (c : α) ≤ 1 + ⌊(time j - time i) / I⌋ := by
    rcases hc with rfl | ⟨r, _, hrj, _, hr⟩
    · have : (0 : α) ≤ ⌊(time j - time i) / I⌋ := by exact_mod_cast hfloor
      push_cast
      linarith
    · have hle := h.mono hrj
      have hint : (((c : ℤ) - 1 : ℤ) : α) ≤ (time j - time i) / I := by
        rw [le_div_iff₀ h.pos]
        push_cast
        linarith
      have := Int.le_floor.2 hint
      have hcast : (((c : ℤ) - 1 : ℤ) : α) ≤ ⌊(time j - time i) / I⌋ := by exact_mod_cast this
      push_cast at hcast
      linarith
  have := mul_le_mul_of_nonneg_left hcount h.nonneg
  linarith

/-- Lifts that wait for a stopwatch they restart are spaced. -/
theorem Stopwatch.spaced {since : ℕ → Option α} (h : Stopwatch time since)
    (hmono : Monotone time)
    (hwait : ∀ n, Raise n → ∃ b, since n = some b ∧ I ≤ time n - b)
    (hrestart : ∀ n, Raise n → since (n + 1) = some (time n)) {m n : ℕ} (hmn : m < n)
    (hm : Raise m) (hn : Raise n) : I ≤ time n - time m := by
  rcases hwait n hn with ⟨b, hb, hspan⟩
  have := h.le_of_start hmono (hrestart m hm) hmn hb
  linarith

end Ratchet

section Pace

variable {α : Type*} [Field α] [LinearOrder α] [IsStrictOrderedRing α]

/-- A step at `now` of a level and the time of its last change. -/
inductive Pace (δ I now : α) (old new : α × α) : Prop
  | keep (h : new = old)
  | fall (hlevel : new.1 ≤ old.1) (hchanged : new.2 = now)
  | rise (hwait : I ≤ now - old.2) (hlevel : new.1 ≤ old.1 + δ) (hchanged : new.2 = now)

/-- From `level` at `start`: not above it, or by one rise and by `δ` for each `I` up to
the last change. -/
def Risen (δ I start level : α) (x : α × α) : Prop :=
  x.1 ≤ level ∨ start ≤ x.2 ∧ x.1 ≤ level + δ + δ * ((x.2 - start) / I)

variable {δ I start level now : α} {x x' : α × α}

theorem Risen.step (hδ : 0 ≤ δ) (hI : 0 < I) (h : Risen δ I start level x) (hlast : x.2 ≤ now)
    (hstart : start ≤ now) (hpace : Pace δ I now x x') : Risen δ I start level x' := by
  have hspan : 0 ≤ (now - start) / I := div_nonneg (sub_nonneg.2 hstart) hI.le
  have hmargin : 0 ≤ δ * ((now - start) / I) := mul_nonneg hδ hspan
  cases hpace with
  | keep heq => exact heq ▸ h
  | fall hlevel hchanged =>
      rcases h with h | ⟨-, h⟩
      · exact .inl (hlevel.trans h)
      · -- the bound has only risen since the last change
        have hdiv : (x.2 - start) / I ≤ (now - start) / I := by
          apply div_le_div_of_nonneg_right _ hI.le
          linarith
        have hmul := mul_le_mul_of_nonneg_left hdiv hδ
        refine .inr ⟨hchanged ▸ hstart, ?_⟩
        rw [hchanged]
        linarith
  | rise hwait hlevel hchanged =>
      refine .inr ⟨hchanged ▸ hstart, ?_⟩
      rw [hchanged]
      rcases h with h | ⟨-, h⟩
      · linarith
      · -- the wait pays for one more rise
        have hone : 1 ≤ (now - x.2) / I := (one_le_div hI).2 hwait
        have hsum : (now - start) / I = (x.2 - start) / I + (now - x.2) / I := by
          rw [← add_div]
          congr 1
          ring
        have hmul := mul_le_mul_of_nonneg_left hone hδ
        rw [hsum, mul_add]
        linarith

theorem Risen.le (hδ : 0 ≤ δ) (hI : 0 < I) (h : Risen δ I start level x) (hlast : x.2 ≤ now)
    (hstart : start ≤ now) : x.1 ≤ level + δ + δ * ((now - start) / I) := by
  have hspan : 0 ≤ (now - start) / I := div_nonneg (sub_nonneg.2 hstart) hI.le
  have hmargin : 0 ≤ δ * ((now - start) / I) := mul_nonneg hδ hspan
  rcases h with h | ⟨-, h⟩
  · linarith
  · have hdiv : (x.2 - start) / I ≤ (now - start) / I := by
      apply div_le_div_of_nonneg_right _ hI.le
      linarith
    have hmul := mul_le_mul_of_nonneg_left hdiv hδ
    linarith

end Pace

end Timing
