import Mathlib.Algebra.Order.Group.Defs
import Mathlib.Order.Basic

/-! # Timers of a condition

A condition is looked at now and then. Its timer is started by the first look that
finds it, and cleared by the first that does not, so that a running timer speaks
for every look since its start. What is done only after the timer has run for
some time is done only after the condition has held for that time.
-/

namespace Dwell

variable {ι τ : Type*} {time : ι → τ} {cond : ι → Prop} {looks : List ι} {look : ι}
  {since : Option τ} {now : τ}

/-- The timer after a look at `now`, which finds the condition or not. -/
def update (holds : Bool) (now : τ) (since : Option τ) : Option τ :=
  if holds then some (since.getD now) else none

section

variable [Preorder τ]

/-- Every look later than the start of a running timer has found the condition. -/
def Held (time : ι → τ) (cond : ι → Prop) (looks : List ι) (since : Option τ) : Prop :=
  ∀ s ∈ since, ∀ k ∈ looks, s < time k → cond k

theorem held_none : Held time cond looks none := by
  intro s hs
  cases hs

/-- A look that the timer is not for. -/
theorem Held.cons (h : Held time cond looks since) (hlook : cond look) :
    Held time cond (look :: looks) since := by
  intro s hs k hk hlate
  rcases List.mem_cons.1 hk with rfl | hk
  · exact hlook
  · exact h s hs k hk hlate

/-- A look at `now`, not before any other. -/
theorem Held.update (h : Held time cond looks since) {holds : Bool}
    (hlook : holds = true → cond look) (hnow : time look ≤ now) (hpast : ∀ k ∈ looks, time k ≤ now) :
    Held time cond (look :: looks) (update holds now since) := by
  unfold Dwell.update
  split
  · rename_i hholds
    intro s hs k hk hlate
    cases hs
    cases since with
    | none =>
        -- started now, and nothing is later
        rcases List.mem_cons.1 hk with rfl | hk
        · exact absurd hlate (not_lt_of_ge hnow)
        · exact absurd hlate (not_lt_of_ge (hpast k hk))
    | some s => exact h.cons (hlook hholds) s rfl k hk hlate
  · exact held_none

end

/-- A timer that has run for `d` at `now`. -/
theorem Held.of_elapsed [AddCommGroup τ] [PartialOrder τ] [IsOrderedAddMonoid τ] {s d : τ}
    (h : Held time cond looks (some s)) (helapsed : d ≤ now - s) :
    ∀ k ∈ looks, now - d < time k → cond k := by
  intro k hk hlate
  apply h s rfl k hk
  have hs : s ≤ now - d := by
    rw [le_sub_comm]
    exact helapsed
  exact lt_of_le_of_lt hs hlate

end Dwell
