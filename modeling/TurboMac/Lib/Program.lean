import Mathlib.Order.Defs.Unbundled
import Mathlib.Data.List.Infix

/-! # Stateful programs and their histories

`exec` runs a `StateM` program from a state. Two judgements about programs, with
one rule for each way of putting programs together:

* `Keeps R m`: every run of `m` leads to a state that the preorder `R` relates
  to its start. With a frame for `R` this says what `m` leaves alone; with an
  invariant, that `m` preserves it.
* `Triple pre m post`: a run of `m` from a state in `pre` returns a value and a
  state in `post`.

`Extends Q` is the usual `R` for a log, newest entry first: the log has only
grown, and each new entry satisfies `Q` on the log before it.
-/

namespace Program

variable {σ α β : Type}

/-- Run `m` from `s`. -/
def exec (m : StateM σ α) (s : σ) : α × σ := Id.run (m.run s)

@[simp] theorem exec_pure (a : α) (s : σ) : exec (pure a : StateM σ α) s = (a, s) := rfl

@[simp] theorem exec_bind (m : StateM σ α) (f : α → StateM σ β) (s : σ) :
    exec (m >>= f) s = exec (f (exec m s).1) (exec m s).2 := rfl

@[simp] theorem exec_ite (c : Prop) [Decidable c] (m k : StateM σ α) (s : σ) :
    exec (if c then m else k) s = if c then exec m s else exec k s := by
  split <;> rfl

/-- A run of a conditional is a run of one of its branches. -/
theorem exec_ite_cases {c : Prop} [Decidable c] {m k : StateM σ α} {s : σ} {r : α × σ}
    (h : exec (if c then m else k) s = r) : c ∧ exec m s = r ∨ ¬ c ∧ exec k s = r := by
  by_cases hc : c
  · rw [if_pos hc] at h
    exact .inl ⟨hc, h⟩
  · rw [if_neg hc] at h
    exact .inr ⟨hc, h⟩

/-- `k` runs only if `m` returns true. -/
theorem exec_andM (m k : StateM σ Bool) (s : σ) :
    exec (m <&&> k) s = if (exec m s).1 then exec k (exec m s).2 else (false, (exec m s).2) := by
  show exec (match (exec m s).1 with | true => k | false => pure (exec m s).1) (exec m s).2 = _
  cases h : (exec m s).1 <;> simp

/-- `k` runs only if `m` returns false. -/
theorem exec_orM (m k : StateM σ Bool) (s : σ) :
    exec (m <||> k) s = if (exec m s).1 then (true, (exec m s).2) else exec k (exec m s).2 := by
  show exec (match (exec m s).1 with | true => pure (exec m s).1 | false => k) (exec m s).2 = _
  cases h : (exec m s).1 <;> simp

/-! ## Frames and invariants -/

section Keeps

variable {R : σ → σ → Prop}

/-- Every run of `m` leads to a state related to its start. -/
def Keeps (R : σ → σ → Prop) (m : StateM σ α) : Prop := ∀ s, R s (exec m s).2

theorem Keeps.mono {R' : σ → σ → Prop} {m : StateM σ α} (h : Keeps R m)
    (hR : ∀ s s', R s s' → R' s s') : Keeps R' m := by
  intro s
  exact hR s _ (h s)

theorem Keeps.rel {m : StateM σ α} (h : Keeps R m) {s s' : σ} {a : α}
    (hexec : exec m s = (a, s')) : R s s' := by
  have hs := h s
  rw [hexec] at hs
  exact hs

theorem keeps_modify {f : σ → σ} (h : ∀ s, R s (f s)) : Keeps R (modify f : StateM σ PUnit) := h

variable [IsPreorder σ R]

theorem keeps_pure (a : α) : Keeps R (pure a : StateM σ α) := by
  intro s
  exact refl_of R s

theorem keeps_get : Keeps R (get : StateM σ σ) := by
  intro s
  exact refl_of R s

theorem Keeps.bind {m : StateM σ α} {f : α → StateM σ β} (hm : Keeps R m)
    (hf : ∀ a, Keeps R (f a)) : Keeps R (m >>= f) := by
  intro s
  exact trans_of R (hm s) (hf (exec m s).1 (exec m s).2)

omit [IsPreorder σ R] in
theorem Keeps.ite {c : Prop} [Decidable c] {m k : StateM σ α} (hm : Keeps R m)
    (hk : Keeps R k) : Keeps R (if c then m else k) := by
  split
  · exact hm
  · exact hk

theorem Keeps.andM {m k : StateM σ Bool} (hm : Keeps R m) (hk : Keeps R k) :
    Keeps R (m <&&> k) := by
  intro s
  rw [exec_andM]
  split
  · exact trans_of R (hm s) (hk (exec m s).2)
  · exact hm s

theorem Keeps.orM {m k : StateM σ Bool} (hm : Keeps R m) (hk : Keeps R k) :
    Keeps R (m <||> k) := by
  intro s
  rw [exec_orM]
  split
  · exact hm s
  · exact trans_of R (hm s) (hk (exec m s).2)

end Keeps

/-! ## Preconditions and results -/

/-- From a state in `pre`, `m` returns a value and a state in `post`. -/
def Triple (pre : σ → Prop) (m : StateM σ α) (post : α → σ → Prop) : Prop :=
  ∀ s, pre s → post (exec m s).1 (exec m s).2

section Triple

variable {pre pre' : σ → Prop} {m : StateM σ α} {post post' : α → σ → Prop}

theorem Triple.bind {f : α → StateM σ β} {last : β → σ → Prop} (hm : Triple pre m post)
    (hf : ∀ a, Triple (post a) (f a) last) : Triple pre (m >>= f) last := by
  intro s hs
  exact hf _ _ (hm s hs)

theorem Triple.ite {c : Prop} [Decidable c] {k : StateM σ α}
    (hm : c → Triple pre m post) (hk : ¬ c → Triple pre k post) :
    Triple pre (if c then m else k) post := by
  by_cases hc : c
  · simpa [hc] using hm hc
  · simpa [hc] using hk hc

theorem triple_true : Triple pre m fun _ _ => True := by
  intro s _
  trivial

end Triple

/-! ## Logs -/

section Extends

variable {ε : Type} {Q Q' : List ε → ε → Prop} {l l' l'' : List ε}

/-- `l'` is `l` with newer entries in front, each of them satisfying `Q` on the
log before it. -/
inductive Extends (Q : List ε → ε → Prop) (l : List ε) : List ε → Prop
  | refl : Extends Q l l
  | cons {l' : List ε} {e : ε} (h : Extends Q l l') (he : Q l' e) : Extends Q l (e :: l')

theorem Extends.trans (h : Extends Q l l') (h' : Extends Q l' l'') : Extends Q l l'' := by
  induction h' with
  | refl => exact h
  | cons _ he ih => exact ih.cons he

theorem Extends.single {e : ε} (he : Q l e) : Extends Q l (e :: l) := Extends.refl.cons he

theorem Extends.mono (h : Extends Q l l') (hQ : ∀ l e, Q l e → Q' l e) : Extends Q' l l' := by
  induction h with
  | refl => exact .refl
  | cons _ he ih => exact ih.cons (hQ _ _ he)

/-- The new entries. -/
theorem Extends.exists_append {K : ε → Prop} (h : Extends (fun _ e => K e) l l') :
    ∃ new, l' = new ++ l ∧ ∀ e ∈ new, K e := by
  induction h with
  | refl => exact ⟨[], rfl, by simp⟩
  | @cons l' e _ he ih =>
      obtain ⟨new, rfl, hnew⟩ := ih
      refine ⟨e :: new, rfl, ?_⟩
      intro e' he'
      rcases List.mem_cons.1 he' with rfl | he'
      · exact he
      · exact hnew e' he'

/-- An observation that no new entry changes is unchanged. -/
theorem Extends.observe {γ : Type*} {obs : List ε → γ} (h : Extends Q l l')
    (hobs : ∀ l e, Q l e → obs (e :: l) = obs l) : obs l' = obs l := by
  induction h with
  | refl => rfl
  | cons _ he ih => exact (hobs _ _ he).trans ih

/-- A property of the log that every new entry preserves is preserved. -/
theorem Extends.preserve {p : List ε → Prop} (h : Extends Q l l') (hl : p l)
    (hp : ∀ l e, Q l e → p l → p (e :: l)) : p l' := by
  induction h with
  | refl => exact hl
  | cons _ he ih => exact hp _ _ he ih

end Extends

end Program
