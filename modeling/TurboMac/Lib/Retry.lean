import Mathlib.Algebra.Order.Group.Defs
import Mathlib.Order.Monotone.Basic

/-! # Failures that are remembered in one slot

A register is to be kept at what is asked for. What a write has left in it is
remembered, or, if the write has failed, which value that was and when, and a value
that has failed is not tried again for some time. There is only one slot: a failure
forgets the one before it. So a value is tried again too early exactly where another
value has failed meanwhile.
-/

namespace Retry

variable {α τ : Type*}

/-- What is remembered: what the register holds, and the last failure. -/
structure Slot (α τ : Type*) where
  written : Option α
  failed : Option (α × τ)

/-- What is asked for, when, and whether a write of it will land. -/
structure Request (α τ : Type*) where
  want : α
  now : τ
  lands : Bool

section

variable [AddCommGroup τ] [LinearOrder τ] {interval : τ} {slot : Slot α τ}
  {request : Request α τ}

/-- Whether a failure is left alone for now. -/
def Slot.Waits (interval : τ) (slot : Slot α τ) (want : α) (now : τ) : Prop :=
  ∃ since, slot.failed = some (want, since) ∧ now - since < interval

/-- Whether a request is written. -/
def Slot.Writes (interval : τ) (slot : Slot α τ) (request : Request α τ) : Prop :=
  slot.written ≠ some request.want ∧ ¬ slot.Waits interval request.want request.now

/-- From one request to the next. -/
structure Step (interval : τ) (slot : Slot α τ) (request : Request α τ) (slot' : Slot α τ) : Prop where
  quiet : ¬ slot.Writes interval request → slot' = slot
  landed : slot.Writes interval request → request.lands = true → slot' = ⟨some request.want, none⟩
  failed : slot.Writes interval request → request.lands = false →
    slot' = ⟨none, some (request.want, request.now)⟩

/-- A slot that serves request after request, at nondecreasing times. -/
structure Run (interval : τ) (slots : ℕ → Slot α τ) (requests : ℕ → Request α τ) : Prop where
  mono : Monotone fun n => (requests n).now
  step : ∀ n, Step interval (slots n) (requests n) (slots (n + 1))

/-- Request `n` is written, and that fails. -/
def FailsAt (interval : τ) (slots : ℕ → Slot α τ) (requests : ℕ → Request α τ) (n : ℕ) (v : α) : Prop :=
  (slots n).Writes interval (requests n) ∧ (requests n).want = v ∧ (requests n).lands = false

/-- Request `n` is written, and that lands. -/
def LandsAt (interval : τ) (slots : ℕ → Slot α τ) (requests : ℕ → Request α τ) (n : ℕ) : Prop :=
  (slots n).Writes interval (requests n) ∧ (requests n).lands = true

variable {slots : ℕ → Slot α τ} {requests : ℕ → Request α τ}

/-- Since a failure, and before a write lands, the slot holds the last failure, and the
register is not known. -/
theorem Run.remembers (h : Run interval slots requests) {i j : ℕ} {v : α} (hij : i < j)
    (hfails : FailsAt interval slots requests i v)
    (hnone : ∀ k, i < k → k < j → ¬ LandsAt interval slots requests k) :
    (slots j).written = none ∧ ∃ k w, i ≤ k ∧ k < j ∧ FailsAt interval slots requests k w ∧
      (slots j).failed = some (w, (requests k).now) := by
  induction j, hij using Nat.le_induction with
  | base =>
      rcases hfails with ⟨hwrites, rfl, hlands⟩
      have hslot := (h.step i).failed hwrites hlands
      rw [hslot]
      exact ⟨rfl, i, _, le_refl i, Nat.lt_succ_self i, ⟨hwrites, rfl, hlands⟩, rfl⟩
  | succ j hij ih =>
      rcases ih (fun k hik hkj => hnone k hik (by omega)) with
        ⟨hwritten, k, w, hik, hkj, hfailsAt, hfailed⟩
      by_cases hwrites : (slots j).Writes interval (requests j)
      · cases hlands : (requests j).lands with
        | true => exact absurd ⟨hwrites, hlands⟩ (hnone j (by omega) (Nat.lt_succ_self j))
        | false =>
            rw [(h.step j).failed hwrites hlands]
            exact ⟨rfl, j, _, by omega, Nat.lt_succ_self j, ⟨hwrites, rfl, hlands⟩, rfl⟩
      · rw [(h.step j).quiet hwrites]
        exact ⟨hwritten, k, w, hik, by omega, hfailsAt, hfailed⟩

/-- A value that has failed is not tried again within the interval, unless a write has
landed in between. -/
def Limited (interval : τ) (slots : ℕ → Slot α τ) (requests : ℕ → Request α τ) (v : α) : Prop :=
  ∀ i j, i < j → FailsAt interval slots requests i v → (slots j).Writes interval (requests j) →
    (requests j).want = v → (requests j).now - (requests i).now < interval →
    ∃ k, i < k ∧ k < j ∧ LandsAt interval slots requests k

/-- That is so exactly if between a failure and a request of the same value within the
interval no other value fails, unless a write has landed. -/
theorem Run.limited_iff [IsOrderedAddMonoid τ] (h : Run interval slots requests) (v : α) :
    Limited interval slots requests v ↔ ∀ i k j w, i < k → k < j →
      FailsAt interval slots requests i v → FailsAt interval slots requests k w → w ≠ v →
      (requests j).want = v → (requests j).now - (requests i).now < interval →
      ∃ l, i < l ∧ l < j ∧ LandsAt interval slots requests l := by
  constructor
  · intro hlimited i k j w hik hkj hfails hfails' hne hwant hearly
    by_contra hnone
    push Not at hnone
    rcases h.remembers (hik.trans hkj) hfails hnone with ⟨hwritten, -⟩
    -- what the slot holds since the other failure
    rcases h.remembers hkj hfails' (fun l hkl hlj => hnone l (by omega) hlj) with
      ⟨-, m, u, hkm, hmj, hlast, hfailed⟩
    by_cases hu : u = v
    · -- the value has failed again, and that was too early
      have hmk : k < m := by
        rcases Nat.lt_or_eq_of_le hkm with hlt | rfl
        · exact hlt
        · exact absurd (hfails'.2.1.symm.trans (hlast.2.1.trans hu)) hne
      have hle : (requests m).now ≤ (requests j).now := h.mono hmj.le
      have hearly' : (requests m).now - (requests i).now < interval :=
        lt_of_le_of_lt (sub_le_sub_right hle _) hearly
      rcases hlimited i m (by omega) hfails hlast.1 (hlast.2.1.trans hu) hearly' with ⟨l, hil, hlm, hlands⟩
      exact hnone l hil (by omega) hlands
    · -- another value is remembered, so this one is written
      have hwrites : (slots j).Writes interval (requests j) := by
        constructor
        · rw [hwritten]
          exact (Option.some_ne_none _).symm
        rintro ⟨since, heq, -⟩
        rw [hfailed, hwant] at heq
        cases heq
        exact hu rfl
      rcases hlimited i j (by omega) hfails hwrites hwant hearly with ⟨l, hil, hlj, hlands⟩
      exact hnone l hil hlj hlands
  · intro hpattern i j hij hfails hwrites hwant hearly
    by_contra hnone
    push Not at hnone
    rcases h.remembers hij hfails hnone with ⟨-, k, w, hik, hkj, hlast, hfailed⟩
    by_cases hw : w = v
    · -- the slot still holds the value, so it waits
      apply hwrites.2
      have hle : (requests i).now ≤ (requests k).now := h.mono hik
      rw [hw, ← hwant] at hfailed
      exact ⟨_, hfailed, lt_of_le_of_lt (sub_le_sub_left hle _) hearly⟩
    · have hlt : i < k := by
        rcases Nat.lt_or_eq_of_le hik with hlt | rfl
        · exact hlt
        · exact absurd (hlast.2.1.symm.trans hfails.2.1) hw
      rcases hpattern i k j w hlt hkj hfails hlast hw hwant hearly with ⟨l, hil, hlj, hlands⟩
      exact hnone l hil hlj hlands

end

end Retry
