import Mathlib.Data.List.Infix
import Mathlib.Data.List.Induction

/-! # Runs of partial steps

A system whose steps may or may not be possible in a state, and its runs under a
list of steps. A property holds all along a run exactly if every step of the run
is one that keeps it.
-/

namespace Interleaving

variable {σ ι : Type} (step : σ → ι → Option σ)

/-- The state after some steps, the first of them first, if each of them can be taken. -/
def run (s : σ) (xs : List ι) : Option σ := xs.foldlM step s

theorem run_append (s : σ) (xs ys : List ι) :
    run step s (xs ++ ys) = (run step s xs).bind fun s' => run step s' ys := by
  rw [run, List.foldlM_append]
  rfl

theorem run_concat (s : σ) (xs : List ι) (x : ι) :
    run step s (xs ++ [x]) = (run step s xs).bind fun s' => step s' x := by
  rw [run_append]
  congr 1
  funext s'
  rw [run, List.foldlM_cons]
  cases step s' x <;> rfl

variable {step}

/-- The last step of a run, and the run up to it. -/
theorem run_concat_eq_some {s s' : σ} {xs : List ι} {x : ι} (h : run step s (xs ++ [x]) = some s') :
    ∃ s₁, run step s xs = some s₁ ∧ step s₁ x = some s' := by
  rw [run_concat] at h
  exact Option.bind_eq_some_iff.1 h

/-- What every step preserves holds after a run. -/
theorem run_invariant {Inv : σ → Prop} (hstep : ∀ s x s', Inv s → step s x = some s' → Inv s')
    {s s' : σ} (h : Inv s) (xs : List ι) (hrun : run step s xs = some s') : Inv s' := by
  induction xs using List.reverseRecOn generalizing s' with
  | nil =>
      cases hrun
      exact h
  | append_singleton xs x ih =>
      rcases run_concat_eq_some hrun with ⟨s₁, hinitial, hlast⟩
      exact hstep s₁ x s' (ih hinitial) hlast

/-- What every `Good` step preserves holds after a run of such steps. -/
theorem run_invariant_of {Inv : σ → Prop} {Good : σ → ι → Prop}
    (hstep : ∀ s x s', Inv s → Good s x → step s x = some s' → Inv s') {s s' : σ} (h : Inv s)
    (xs : List ι) (hrun : run step s xs = some s')
    (hgood : ∀ pre x s₁, pre ++ [x] <+: xs → run step s pre = some s₁ → Good s₁ x) : Inv s' := by
  induction xs using List.reverseRecOn generalizing s' with
  | nil =>
      cases hrun
      exact h
  | append_singleton xs x ih =>
      rcases run_concat_eq_some hrun with ⟨s₁, hinitial, hlast⟩
      have hbefore : Inv s₁ := by
        apply ih hinitial
        intro pre y s₂ hstart hpre
        exact hgood pre y s₂ (hstart.trans (List.prefix_append xs [x])) hpre
      exact hstep s₁ x s' hbefore (hgood xs x s₁ List.prefix_rfl hinitial) hlast

/-- A run that can be taken can be taken up to each of its steps. -/
theorem run_of_prefix {s s' : σ} {pre xs : List ι} (hinitial : pre <+: xs)
    (hrun : run step s xs = some s') : ∃ s₁, run step s pre = some s₁ := by
  rcases hinitial with ⟨post, rfl⟩
  rw [run_append] at hrun
  rcases Option.bind_eq_some_iff.1 hrun with ⟨s₁, hpre, -⟩
  exact ⟨s₁, hpre⟩

/-- Where a step keeps `P` exactly if it is `Good`, `P` holds all along a run
exactly if all of its steps are. -/
theorem always_iff {Base P : σ → Prop} {Good : σ → ι → Prop}
    (hbase : ∀ s x s', Base s → step s x = some s' → Base s')
    (hstep : ∀ s x s', Base s → P s → step s x = some s' → (P s' ↔ Good s x))
    {s s' : σ} (h : Base s) (hP : P s) (xs : List ι) (hrun : run step s xs = some s') :
    (∀ pre s₁, pre <+: xs → run step s pre = some s₁ → P s₁) ↔
      ∀ pre x s₁, pre ++ [x] <+: xs → run step s pre = some s₁ → Good s₁ x := by
  constructor
  · intro hall pre x s₁ hinitial hpre
    rcases run_of_prefix hinitial hrun with ⟨s₂, hnext⟩
    have hlast := hnext
    rw [run_concat, hpre, Option.bind_some] at hlast
    have hs₁ : P s₁ := hall pre s₁ ((List.prefix_append pre [x]).trans hinitial) hpre
    exact (hstep s₁ x s₂ (run_invariant hbase h pre hpre) hs₁ hlast).1 (hall _ _ hinitial hnext)
  · intro hgood pre
    -- each state of the run from the one before it
    induction pre using List.reverseRecOn with
    | nil =>
        intro s₁ _ hpre
        cases hpre
        exact hP
    | append_singleton pre x ih =>
        intro s₂ hinitial hpre
        rcases run_concat_eq_some hpre with ⟨s₁, hbefore, hlast⟩
        have hs₁ : P s₁ := ih s₁ ((List.prefix_append pre [x]).trans hinitial) hbefore
        exact (hstep s₁ x s₂ (run_invariant hbase h pre hbefore) hs₁ hlast).2
          (hgood pre x s₁ hinitial hbefore)

/-! ## Steps that can always be taken -/

theorem run_some (next : σ → ι → σ) (s : σ) (xs : List ι) :
    run (fun s x => some (next s x)) s xs = some (xs.foldl next s) := by
  induction xs generalizing s with
  | nil => rfl
  | cons x xs ih => exact ih (next s x)

/-- `always_iff` where every step can be taken. -/
theorem foldl_always_iff {P : σ → Prop} {Good : σ → ι → Prop} {next : σ → ι → σ}
    (hstep : ∀ s x, P s → (P (next s x) ↔ Good s x)) {s : σ} (hP : P s) (xs : List ι) :
    (∀ pre, pre <+: xs → P (pre.foldl next s)) ↔
      ∀ pre x, pre ++ [x] <+: xs → Good (pre.foldl next s) x := by
  have hiff := @always_iff σ ι (fun s x => some (next s x)) (fun _ => True) P Good
    (fun _ _ _ _ _ => trivial) (fun s x s' _ hs h => Option.some.inj h ▸ hstep s x hs)
    s _ trivial hP xs (run_some next s xs)
  simp only [run_some] at hiff
  constructor
  · intro hall pre x hinitial
    exact hiff.1 (fun pre s₁ hpre h => Option.some.inj h ▸ hall pre hpre) pre x _ hinitial rfl
  · intro hgood pre hinitial
    exact hiff.2 (fun pre x s₁ hpre h => Option.some.inj h ▸ hgood pre x hpre) pre _ hinitial rfl

end Interleaving
