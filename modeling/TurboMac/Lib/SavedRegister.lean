import Mathlib.Order.Basic
import Mathlib.Logic.Relation

/-! # A register that is saved, lowered and restored

The abstract purpose of a temporary override: save a register, write it below
the saved value, in the end write the saved value itself, and release it. A
release from any other value loses the original, and nothing that follows can
bring it back.
-/

namespace SavedRegister

variable {α : Type*} [PartialOrder α]

/-- The register, what is saved of it, and whether the original has been lost. -/
structure Cell (α : Type*) where
  live : α
  saved : Option α
  lost : Prop

/-- What may happen to the register. -/
inductive Step : Cell α → Cell α → Prop
  | save (live : α) (lost : Prop) : Step ⟨live, none, lost⟩ ⟨live, some live, lost⟩
  | write (live : α) {saved new : α} (lost : Prop) (hnew : new ≤ saved) :
      Step ⟨live, some saved, lost⟩ ⟨new, some saved, lost⟩
  | release (live saved : α) (lost : Prop) :
      Step ⟨live, some saved, lost⟩ ⟨live, none, lost ∨ live ≠ saved⟩

/-- Any number of steps. -/
abbrev Steps : Cell α → Cell α → Prop := Relation.ReflTransGen Step

/-- Nothing is above the original, and what is saved, or released, is the
original exactly when it has not been lost. -/
structure Inv (original : α) (c : Cell α) : Prop where
  live_le : c.live ≤ original
  live_le_saved : ∀ saved ∈ c.saved, c.live ≤ saved
  saved_le : ∀ saved ∈ c.saved, saved ≤ original
  saved_eq : ∀ saved ∈ c.saved, (saved = original ↔ ¬ c.lost)
  live_eq : c.saved = none → (c.live = original ↔ ¬ c.lost)

theorem inv_init (original : α) : Inv original ⟨original, none, False⟩ := by
  constructor <;> simp

theorem Step.inv {original : α} {c c' : Cell α} (h : Step c c') (hc : Inv original c) :
    Inv original c' := by
  cases h with
  | save live lost =>
      have hlive := hc.live_eq rfl
      constructor
      · exact hc.live_le
      · simp
      · simpa using hc.live_le
      · simpa using hlive
      · simp
  | write live lost hnew =>
      rename_i saved new
      have hsaved := hc.saved_le saved rfl
      constructor
      · exact hnew.trans hsaved
      · simpa using hnew
      · simpa using hsaved
      · simpa using hc.saved_eq saved rfl
      · simp
  | release live saved lost =>
      have hle := hc.live_le_saved saved rfl
      have hsaved := hc.saved_le saved rfl
      constructor
      · exact hle.trans hsaved
      · simp
      · simp
      · simp
      · intro _
        constructor
        · -- the register is between: it is the original only with the saved value
          intro heq
          have hsaved' : saved = original := le_antisymm hsaved (heq ▸ hle)
          have hlost := (hc.saved_eq saved rfl).1 hsaved'
          simp only [not_or, not_not]
          exact ⟨hlost, heq.trans hsaved'.symm⟩
        · intro hlost
          simp only [not_or, not_not] at hlost
          exact hlost.2.trans ((hc.saved_eq saved rfl).2 hlost.1)

theorem Steps.inv {original : α} {c c' : Cell α} (h : Steps c c') (hc : Inv original c) :
    Inv original c' := by
  induction h with
  | refl => exact hc
  | tail _ hstep ih => exact hstep.inv ih

end SavedRegister
