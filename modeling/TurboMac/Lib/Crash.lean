import Mathlib.Data.List.Chain
import TurboMac.Lib.Interleaving

/-! # Steps that may fail, and crashes between them

A list of atomic steps is taken one after the other up to the first that fails. The
moments of an attempt are the states after each step that has been taken; a crash is
an attempt of which nothing remains but one of its moments. `Along R` says of the steps
still to come that each of them, wherever it is taken, does what `R` allows.
-/

namespace Crash

variable {σ ι : Type} (step : σ → ι → Option σ)

/-- The moments of an attempt, and the step that has failed. The steps are numbered
from `i` on, and `fails` says which fail of themselves. -/
def attempt (fails : ℕ → Bool) : ℕ → List ι → σ → List σ × Option ι
  | _, [], _ => ([], none)
  | i, x :: xs, s =>
    match if fails i then none else step s x with
    | none => ([], some x)
    | some s' =>
      let (moments, failed) := attempt fails (i + 1) xs s'
      (s' :: moments, failed)

/-- The state that an attempt leaves. -/
def final (s : σ) (moments : List σ) : σ := (s :: moments).getLast (List.cons_ne_nil s moments)

/-- Each of the steps does what `R` allows, if it is taken. -/
def Along (R : σ → σ → Prop) : List ι → σ → Prop
  | [], _ => True
  | x :: xs, s => ∀ s', step s x = some s' → R s s' ∧ Along R xs s'

variable {step} {R : σ → σ → Prop} {s s' : σ}

theorem isChain_attempt (fails : ℕ → Bool) {xs : List ι} (h : Along step R xs s) (i : ℕ) :
    (s :: (attempt step fails i xs s).1).IsChain R := by
  induction xs generalizing s i with
  | nil => exact List.isChain_singleton s
  | cons x xs ih =>
      rw [attempt]
      cases hstep : if fails i then none else step s x with
      | none => exact List.isChain_singleton s
      | some s' =>
          have htaken : step s x = some s' := by
            split_ifs at hstep
            exact hstep
          rw [List.isChain_cons_cons]
          exact ⟨(h s' htaken).1, ih (h s' htaken).2 (i + 1)⟩

/-- Steps that can all be taken, and do not fail, are all taken. -/
theorem attempt_of_run {fails : ℕ → Bool} (hfails : ∀ i, fails i = false) {xs : List ι}
    (hrun : Interleaving.run step s xs = some s') (i : ℕ) :
    (attempt step fails i xs s).2 = none ∧ final s (attempt step fails i xs s).1 = s' := by
  induction xs generalizing s i with
  | nil =>
      cases hrun
      exact ⟨rfl, rfl⟩
  | cons x xs ih =>
      rw [Interleaving.run, List.foldlM_cons, Option.bind_eq_bind, Option.bind_eq_some_iff] at hrun
      obtain ⟨s₁, hx, hrest⟩ := hrun
      have hattempt := ih hrest (i + 1)
      rw [attempt, hfails i, hx]
      exact ⟨hattempt.1, by rw [← hattempt.2]; rfl⟩

/-- What is kept by every link of a chain holds all along it. -/
theorem forall_of_isChain {P : σ → Prop} (hR : ∀ a b, P a → R a b → P b) {moments : List σ}
    (h : (s :: moments).IsChain R) (hs : P s) : ∀ m ∈ moments, P m := by
  induction moments generalizing s with
  | nil =>
      intro m hm
      cases hm
  | cons s' moments ih =>
      rw [List.isChain_cons_cons] at h
      have hs' := hR s s' hs h.1
      intro m hm
      rcases List.mem_cons.1 hm with rfl | hm
      · exact hs'
      · exact ih h.2 hs' m hm

/-- A chain goes on from the state that it leaves. -/
theorem isChain_append {moments later : List σ} (h : (s :: moments).IsChain R)
    (hlater : (final s moments :: later).IsChain R) : (s :: (moments ++ later)).IsChain R := by
  induction moments generalizing s with
  | nil => exact hlater
  | cons s' moments ih =>
      rw [List.isChain_cons_cons] at h
      rw [List.cons_append, List.isChain_cons_cons]
      exact ⟨h.1, ih h.2 hlater⟩

end Crash
