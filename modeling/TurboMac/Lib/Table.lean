import Mathlib.Algebra.BigOperators.Group.List.Basic
import Mathlib.Data.List.Nodup

/-! # Tables

A table is a list of keys and their values, as a directory is of names and
files; a key that is not in it reads as `default`. `total g` adds up `g` over all
values. Changing one value changes the total by the difference, and changing
every value without changing what `g` says of it leaves the total.
-/

namespace Table

variable {κ ν M : Type} [DecidableEq κ] [Inhabited ν]

/-- The value of a key. -/
def get : List (κ × ν) → κ → ν
  | [], _ => default
  | (k', v) :: t, k => if k' = k then v else get t k

/-- Change the value of a key, adding the key if it is not there. -/
def modify : List (κ × ν) → κ → (ν → ν) → List (κ × ν)
  | [], k, f => [(k, f default)]
  | (k', v) :: t, k, f => if k' = k then (k', f v) :: t else (k', v) :: modify t k f

/-- Change every value. -/
def mapAll (t : List (κ × ν)) (f : κ → ν → ν) : List (κ × ν) :=
  t.map fun item => (item.1, f item.1 item.2)

/-- The sum of `g` over the values. -/
def total [AddCommMonoid M] (g : ν → M) (t : List (κ × ν)) : M := (t.map fun item => g item.2).sum

/-! ## Keys -/

omit [Inhabited ν] [DecidableEq κ] in
@[simp] theorem keys_mapAll (t : List (κ × ν)) (f : κ → ν → ν) :
    (mapAll t f).map Prod.fst = t.map Prod.fst := by
  simp [mapAll, Function.comp_def]

theorem mem_keys_modify {t : List (κ × ν)} {k k' : κ} {f : ν → ν}
    (h : k' ∈ (modify t k f).map Prod.fst) : k' = k ∨ k' ∈ t.map Prod.fst := by
  induction t with
  | nil =>
      left
      simpa [modify] using h
  | cons item t ih =>
      rcases item with ⟨key, v⟩
      rw [modify] at h
      split_ifs at h with hkey
      · right
        simpa using h
      · rw [List.map_cons, List.mem_cons] at h
        rcases h with rfl | h
        · exact .inr List.mem_cons_self
        · exact (ih h).imp id (List.mem_cons_of_mem _)

theorem nodup_modify {t : List (κ × ν)} (h : (t.map Prod.fst).Nodup) (k : κ) (f : ν → ν) :
    ((modify t k f).map Prod.fst).Nodup := by
  induction t with
  | nil => simp [modify]
  | cons item t ih =>
      rcases item with ⟨key, v⟩
      rw [List.map_cons, List.nodup_cons] at h
      rw [modify]
      split_ifs with hkey
      · exact List.nodup_cons.2 h
      · rw [List.map_cons, List.nodup_cons]
        refine ⟨?_, ih h.2⟩
        intro hmem
        rcases mem_keys_modify hmem with heq | hmem
        · exact hkey heq
        · exact h.1 hmem

/-! ## Values -/

theorem get_modify (t : List (κ × ν)) (k : κ) (f : ν → ν) (k' : κ) :
    get (modify t k f) k' = if k' = k then f (get t k) else get t k' := by
  induction t with
  | nil =>
      by_cases hk : k' = k
      · simp [modify, get, hk]
      · simp [modify, get, hk, Ne.symm hk]
  | cons item t ih =>
      rcases item with ⟨key, v⟩
      by_cases hkey : key = k
      · by_cases hk : k' = k
        · simp [modify, get, hkey, hk]
        · simp [modify, get, hkey, hk, Ne.symm hk]
      · by_cases hk : key = k'
        · have hne : ¬ k' = k := fun h => hkey (hk.trans h)
          simp [modify, get, hk, hne]
        · simp only [modify, get, hkey, if_false, hk, ih]

/-- A change that leaves an absent key absent. -/
theorem get_mapAll (t : List (κ × ν)) {f : κ → ν → ν} (hf : ∀ k, f k default = default) (k : κ) :
    get (mapAll t f) k = f k (get t k) := by
  induction t with
  | nil => exact (hf k).symm
  | cons item t ih =>
      rcases item with ⟨key, v⟩
      by_cases hkey : key = k
      · simp [mapAll, get, hkey]
      · simp only [mapAll, List.map_cons, get, hkey, if_false]
        exact ih

theorem get_of_mem {t : List (κ × ν)} (h : (t.map Prod.fst).Nodup) {k : κ} {v : ν}
    (hmem : (k, v) ∈ t) : get t k = v := by
  induction t with
  | nil => cases hmem
  | cons item t ih =>
      rw [List.map_cons, List.nodup_cons] at h
      rw [get]
      rcases List.mem_cons.1 hmem with rfl | hmem
      · rw [if_pos rfl]
      · have hne : ¬ item.1 = k := by
          intro heq
          apply h.1
          rw [heq]
          exact List.mem_map_of_mem hmem
        rw [if_neg hne]
        exact ih h.2 hmem

/-! ## As a set of pairs -/

theorem modify_append (s t : List (κ × ν)) {k : κ} (h : k ∉ s.map Prod.fst) (f : ν → ν) :
    modify (s ++ t) k f = s ++ modify t k f := by
  induction s with
  | nil => rfl
  | cons item s ih =>
      rw [List.map_cons, List.mem_cons, not_or] at h
      rw [List.cons_append, modify, if_neg (Ne.symm h.1), ih h.2, List.cons_append]

/-- Changing a value that is there. -/
theorem modify_perm {t l : List (κ × ν)} {k : κ} {v : ν} (hnodup : (t.map Prod.fst).Nodup)
    (hperm : t.Perm (l ++ [(k, v)])) (f : ν → ν) : (modify t k f).Perm (l ++ [(k, f v)]) := by
  obtain ⟨s, u, rfl⟩ : ∃ s u, t = s ++ (k, v) :: u := by
    apply List.append_of_mem
    rw [hperm.mem_iff]
    simp
  have hs : k ∉ s.map Prod.fst := by
    rw [List.map_append, List.map_cons, List.nodup_append] at hnodup
    intro hmem
    exact hnodup.2.2 k hmem k List.mem_cons_self rfl
  have hrest : (s ++ u).Perm l := by
    have hfront := List.perm_middle.symm.trans (hperm.trans (List.perm_append_singleton _ l))
    exact hfront.cons_inv
  rw [modify_append s _ hs, modify, if_pos rfl]
  exact List.perm_middle.trans ((hrest.cons _).trans (List.perm_append_singleton _ l).symm)

/-- Adding a value under a new key. -/
theorem modify_new {t : List (κ × ν)} {k : κ} (h : k ∉ t.map Prod.fst) (f : ν → ν) :
    modify t k f = t ++ [(k, f default)] := by
  have happend := modify_append t [] h f
  rwa [List.append_nil] at happend

/-! ## Totals -/

section

variable [AddCommMonoid M] {g : ν → M}

theorem total_modify (hg : g default = 0) (t : List (κ × ν)) (k : κ) (f : ν → ν) :
    total g (modify t k f) + g (get t k) = total g t + g (f (get t k)) := by
  induction t with
  | nil => simp [modify, get, total, hg]
  | cons item t ih =>
      rcases item with ⟨key, v⟩
      simp only [total] at ih ⊢
      by_cases hkey : key = k
      · simp only [modify, get, hkey, if_true, List.map_cons, List.sum_cons]
        rw [add_right_comm, add_comm (g (f v)), add_right_comm]
      · simp only [modify, get, hkey, if_false, List.map_cons, List.sum_cons]
        rw [add_assoc, ih, add_assoc]

omit [DecidableEq κ] [Inhabited ν] in
theorem total_mapAll {f : κ → ν → ν} (hf : ∀ k v, g (f k v) = g v) (t : List (κ × ν)) :
    total g (mapAll t f) = total g t := by
  simp [total, mapAll, Function.comp_def, hf]

end

end Table
