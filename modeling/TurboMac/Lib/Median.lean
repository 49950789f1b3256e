import Mathlib.Algebra.BigOperators.Group.List.Basic
import Mathlib.Algebra.Order.BigOperators.Group.List
import Mathlib.Algebra.Order.Field.Basic
import Mathlib.Data.List.Sort
import Mathlib.Tactic.Linarith

/-! # Mean and median

Of the values of a list, none if there are none. The median lies between any bounds of
the values.
-/

namespace Median

variable {α : Type*} [Field α] [LinearOrder α] [IsStrictOrderedRing α]

/-- The middle of sorted values, or the mean of the two middles. -/
def middle (sorted : List α) : Option α :=
  let i := sorted.length / 2
  if sorted.length % 2 = 1 then sorted[i]?
  else do
    let low ← sorted[i - 1]?
    let high ← sorted[i]?
    return (low + high) / 2

/-- The median. -/
def median (values : List α) : Option α := middle (values.insertionSort (· ≤ ·))

/-- The mean. -/
def mean (values : List α) : Option α :=
  if values = [] then none else some (values.sum / values.length)

variable {values : List α} {low high m : α}

omit [LinearOrder α] [IsStrictOrderedRing α] in
theorem middle_eq_none : middle values = none ↔ values = [] := by
  constructor
  · intro h
    by_contra hne
    have hpos := List.length_pos_iff.2 hne
    unfold middle at h
    dsimp only at h
    split at h
    · rw [List.getElem?_eq_none_iff] at h
      omega
    · rw [List.getElem?_eq_getElem (by omega), List.getElem?_eq_getElem (by omega)] at h
      cases h
  · rintro rfl
    rfl

omit [IsStrictOrderedRing α] in
theorem median_eq_none : median values = none ↔ values = [] := by
  rw [median, middle_eq_none, ← List.length_eq_zero_iff, List.length_insertionSort,
    List.length_eq_zero_iff]

theorem middle_mem_bounds (hlow : ∀ v ∈ values, low ≤ v) (hhigh : ∀ v ∈ values, v ≤ high)
    (h : middle values = some m) : low ≤ m ∧ m ≤ high := by
  unfold middle at h
  dsimp only at h
  split at h
  · have hmem := List.mem_of_getElem? h
    exact ⟨hlow m hmem, hhigh m hmem⟩
  · rcases Option.bind_eq_some_iff.1 h with ⟨v, hv, h⟩
    rcases Option.bind_eq_some_iff.1 h with ⟨v', hv', h⟩
    obtain rfl : (v + v') / 2 = m := Option.some.inj h
    have hmem := List.mem_of_getElem? hv
    have hmem' := List.mem_of_getElem? hv'
    constructor
    · linarith [hlow v hmem, hlow v' hmem']
    · linarith [hhigh v hmem, hhigh v' hmem']

theorem median_mem_bounds (hlow : ∀ v ∈ values, low ≤ v) (hhigh : ∀ v ∈ values, v ≤ high)
    (h : median values = some m) : low ≤ m ∧ m ≤ high := by
  refine middle_mem_bounds (fun v hv => hlow v ?_) (fun v hv => hhigh v ?_) h
  · exact (List.mem_insertionSort _).1 hv
  · exact (List.mem_insertionSort _).1 hv

end Median
