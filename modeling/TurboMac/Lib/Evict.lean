import Mathlib.Algebra.BigOperators.Group.List.Basic
import Mathlib.Algebra.Order.Group.Defs
import Mathlib.Data.List.Nodup
import Mathlib.Tactic.Abel

/-! # Eviction down to a bound

A list of things with weights is gone through from the front, and what may go goes
as long as the total is above a bound. What has gone is the shortest beginning of what
may go that brings the total down to the bound, or all of it.
-/

namespace Evict

variable {α M : Type} [AddCommGroup M] [LinearOrder M] (weight : α → M)

/-- The weight of a list. -/
def total (l : List α) : M := (l.map weight).sum

omit [LinearOrder M] in
@[simp] theorem total_nil : total weight [] = 0 := rfl

omit [LinearOrder M] in
@[simp] theorem total_cons (a : α) (l : List α) : total weight (a :: l) = weight a + total weight l := by
  simp [total]

variable (stays : α → Bool) (bound : M)

/-- What goes, with `rest` the weight of all that is still there. -/
def evict (rest : M) : List α → List α
  | [] => []
  | a :: l =>
    if rest ≤ bound ∨ stays a then evict rest l else a :: evict (rest - weight a) l

/-- `evicted` is the shortest beginning of `candidates` without which the weight `rest`
is within the bound, if there is one, and all of `candidates` else. -/
def Shortest (rest : M) (candidates evicted : List α) : Prop :=
  ∃ k ≤ candidates.length, evicted = candidates.take k ∧
    (∀ j < k, bound < rest - total weight (candidates.take j)) ∧
    (rest - total weight (candidates.take k) ≤ bound ∨ k = candidates.length)

variable {weight stays bound}

theorem evict_of_le {rest : M} (h : rest ≤ bound) (l : List α) :
    evict weight stays bound rest l = [] := by
  induction l with
  | nil => rfl
  | cons a l ih => rw [evict, if_pos (.inl h), ih]

theorem Shortest.nil {rest : M} (h : rest ≤ bound) (candidates : List α) :
    Shortest weight bound rest candidates [] := by
  refine ⟨0, Nat.zero_le _, rfl, ?_, ?_⟩
  · intro j hj
    omega
  · left
    simpa using h

theorem Shortest.cons {rest : M} (h : bound < rest) {a : α} {candidates evicted : List α}
    (hrest : Shortest weight bound (rest - weight a) candidates evicted) :
    Shortest weight bound rest (a :: candidates) (a :: evicted) := by
  obtain ⟨k, hk, hevicted, hshort, hlast⟩ := hrest
  refine ⟨k + 1, Nat.succ_le_succ hk, ?_, ?_, ?_⟩
  · rw [List.take_succ_cons, hevicted]
  · intro j hj
    cases j with
    | zero => simpa using h
    | succ j =>
        rw [List.take_succ_cons, total_cons, ← sub_sub]
        exact hshort j (by omega)
  · rw [List.take_succ_cons, total_cons, ← sub_sub, List.length_cons, Nat.add_right_cancel_iff]
    exact hlast

/-- The loop evicts no more and no less than it must. -/
theorem shortest_evict (rest : M) (l : List α) :
    Shortest weight bound rest (l.filter fun a => !stays a) (evict weight stays bound rest l) := by
  induction l generalizing rest with
  | nil =>
      refine ⟨0, le_refl 0, rfl, ?_, .inr rfl⟩
      intro j hj
      omega
  | cons a l ih =>
      rw [evict]
      by_cases hle : rest ≤ bound
      · rw [if_pos (.inl hle), evict_of_le hle]
        exact Shortest.nil hle _
      · cases hstays : stays a with
        | true =>
            rw [if_pos (.inr rfl), List.filter_cons_of_neg (by simp [hstays])]
            exact ih rest
        | false =>
            have hgo : ¬ (rest ≤ bound ∨ false = true) := by simp [hle]
            rw [if_neg hgo, List.filter_cons_of_pos (by simp [hstays])]
            exact (ih _).cons (not_le.1 hle)

/-- What is evicted is among the candidates, in their order. -/
theorem Shortest.sublist {rest : M} {candidates evicted : List α}
    (h : Shortest weight bound rest candidates evicted) : evicted.Sublist candidates := by
  obtain ⟨k, -, rfl, -⟩ := h
  exact List.take_sublist k candidates

/-- Above the bound nothing is left that might go. -/
theorem Shortest.eq_candidates {rest : M} {candidates evicted : List α}
    (h : Shortest weight bound rest candidates evicted)
    (habove : bound < rest - total weight evicted) : evicted = candidates := by
  obtain ⟨k, -, rfl, -, hle | rfl⟩ := h
  · exact absurd hle (not_le.2 habove)
  · exact List.take_length

omit [LinearOrder M] in
/-- The weight of what is left of a list. -/
theorem total_filter_notMem [DecidableEq α] {s l : List α} (hsub : s.Sublist l) (hnodup : l.Nodup) :
    total weight (l.filter fun a => a ∉ s) = total weight l - total weight s := by
  induction hsub with
  | slnil => simp
  | @cons s l a hsub ih =>
      rw [List.nodup_cons] at hnodup
      have hnew : a ∉ s := fun hmem => hnodup.1 (hsub.subset hmem)
      rw [List.filter_cons_of_pos (by simpa using hnew), total_cons, total_cons, ih hnodup.2]
      abel
  | @cons_cons s l a hsub ih =>
      rw [List.nodup_cons] at hnodup
      have hfilter : (l.filter fun b => b ∉ a :: s) = l.filter fun b => b ∉ s := by
        apply List.filter_congr
        intro b hb
        have hne : b ≠ a := fun heq => hnodup.1 (heq ▸ hb)
        simp [hne]
      rw [List.filter_cons_of_neg (by simp), hfilter, total_cons, total_cons, ih hnodup.2]
      abel

end Evict
