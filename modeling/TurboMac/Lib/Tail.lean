import Mathlib.Data.List.DropRight

/-! # The tail of a list

`rtake n l` is what a bounded queue of length `n` holds after it was given `l`: the
last `n` items. A tail can be built up from the back, each part cut to `n` on the way.
-/

namespace List

variable {α β : Type}

theorem rtake_of_length_le {n : ℕ} {l : List α} (h : l.length ≤ n) : l.rtake n = l := by
  rw [rtake, Nat.sub_eq_zero_of_le h, drop_zero]

theorem length_rtake (n : ℕ) (l : List α) : (l.rtake n).length = min n l.length := by
  rw [rtake, length_drop]
  omega

theorem rtake_append (n : ℕ) (l₁ l₂ : List α) :
    (l₁ ++ l₂).rtake n = l₁.rtake (n - l₂.length) ++ l₂.rtake n := by
  rw [rtake_eq_reverse_take_reverse, reverse_append, take_append, reverse_append, length_reverse,
    ← rtake_eq_reverse_take_reverse, ← rtake_eq_reverse_take_reverse]

/-- Where the last part is long enough, the others do not matter. -/
theorem rtake_append_of_le {n : ℕ} {l₂ : List α} (h : n ≤ l₂.length) (l₁ : List α) :
    (l₁ ++ l₂).rtake n = l₂.rtake n := by
  rw [rtake_append, Nat.sub_eq_zero_of_le h, rtake_zero, nil_append]

theorem rtake_rtake (m n : ℕ) (l : List α) : (l.rtake m).rtake n = l.rtake (min n m) := by
  unfold rtake
  rw [drop_drop, length_drop]
  congr 1
  omega

/-- Each part may be cut to `n` before it is put in front. -/
theorem rtake_rtake_append {m n : ℕ} (h : n ≤ m) (l₁ l₂ : List α) :
    (l₁.rtake m ++ l₂).rtake n = (l₁ ++ l₂).rtake n := by
  rw [rtake_append, rtake_append, rtake_rtake]
  congr 2
  omega

/-- The same further back. -/
theorem rtake_append_rtake_append {m n : ℕ} (h : n ≤ m) (l₁ l₂ l₃ : List α) :
    (l₁ ++ (l₂.rtake m ++ l₃)).rtake n = (l₁ ++ (l₂ ++ l₃)).rtake n := by
  rw [rtake_append, rtake_append n l₁, rtake_rtake_append h, length_append, length_append,
    length_rtake]
  congr 2
  omega

theorem rtake_map (f : α → β) (n : ℕ) (l : List α) : (l.map f).rtake n = (l.rtake n).map f := by
  rw [rtake, rtake, length_map, map_drop]

/-- One item more at the front. -/
theorem rtake_succ {n : ℕ} {l : List α} (h : n < l.length) :
    ∃ x, l.rtake (n + 1) = x :: l.rtake n ∧ (l.rtake (n + 1)).head? = some x := by
  have hidx : l.length - (n + 1) < l.length := by omega
  have hdrop : l.rtake (n + 1) = l[l.length - (n + 1)] :: l.rtake n := by
    unfold rtake
    rw [drop_eq_getElem_cons hidx]
    congr 2
    omega
  exact ⟨_, hdrop, by rw [hdrop, head?_cons]⟩

theorem rtake_one (l : List α) : l.rtake 1 = l.getLast?.toList := by
  induction l using reverseRecOn with
  | nil => rfl
  | append_singleton l x _ => simp [rtake_concat_succ]

/-- A tail of `n + 1` items is kept when the item before the last `n` of the second part
is taken from the first part, if and only if the two are the same. -/
theorem rtake_append_rtake_iff {n : ℕ} {l₁ l₂ : List α} (h : n < l₂.length) :
    (l₁ ++ l₂.rtake n).rtake (n + 1) = (l₁ ++ l₂).rtake (n + 1) ↔
      l₁.getLast? = (l₂.rtake (n + 1)).head? := by
  rcases rtake_succ h with ⟨x, hx, hhead⟩
  have hlen : (l₂.rtake n).length = n := by
    rw [length_rtake]
    omega
  have hshort : (l₂.rtake n).rtake (n + 1) = l₂.rtake n := by
    apply rtake_of_length_le
    omega
  rw [rtake_append_of_le (show n + 1 ≤ l₂.length by omega), hx, head?_cons, rtake_append, hlen,
    Nat.add_sub_cancel_left, hshort, rtake_one]
  cases hlast : l₁.getLast? with
  | none =>
      simp
  | some y => simp

end List
