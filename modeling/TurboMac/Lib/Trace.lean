import TurboMac.Lib.Program

/-! # What a run adds to its log

For a state with a log, newest entry first, `Runs m s post` says that the run of `m` from
`s` adds some entries to the log, each of them `Ok` on the log before it, and that
`post` holds of the value, of the entries in their order and of the state that is left.
There is one rule for each way of putting programs together.
-/

namespace Trace

open Program

variable {σ ε α β : Type}

/-- Each entry is `Ok` on the log before it, the first of them on `l`. -/
def Follows (Ok : List ε → ε → Prop) (l : List ε) : List ε → Prop
  | [] => True
  | e :: es => Ok l e ∧ Follows Ok (e :: l) es

theorem follows_append {Ok : List ε → ε → Prop} {l es es' : List ε} :
    Follows Ok l (es ++ es') ↔ Follows Ok l es ∧ Follows Ok (es.reverse ++ l) es' := by
  induction es generalizing l with
  | nil => simp [Follows]
  | cons e es ih => simp [Follows, ih, and_assoc]

variable (log : σ → List ε) (Ok : List ε → ε → Prop)

/-- The run of `m` from `s`. -/
def Runs (m : StateM σ α) (s : σ) (post : α → List ε → σ → Prop) : Prop :=
  ∃ es, log (exec m s).2 = es.reverse ++ log s ∧ Follows Ok (log s) es ∧
    post (exec m s).1 es (exec m s).2

variable {log Ok} {m : StateM σ α} {s : σ} {post post' : α → List ε → σ → Prop}

theorem Runs.mono (h : Runs log Ok m s post) (himp : ∀ a es s', post a es s' → post' a es s') :
    Runs log Ok m s post' := by
  obtain ⟨es, hlog, hok, hpost⟩ := h
  exact ⟨es, hlog, hok, himp _ _ _ hpost⟩

theorem Runs.pure {a : α} (h : post a [] s) : Runs log Ok (pure a : StateM σ α) s post :=
  ⟨[], rfl, trivial, h⟩

theorem Runs.bind {f : α → StateM σ β} {last : β → List ε → σ → Prop}
    (hm : Runs log Ok m s post)
    (hf : ∀ a es s', post a es s' → Runs log Ok (f a) s' fun b es' s'' => last b (es ++ es') s'') :
    Runs log Ok (m >>= f) s last := by
  obtain ⟨es, hlog, hok, hpost⟩ := hm
  obtain ⟨es', hlog', hok', hpost'⟩ := hf _ _ _ hpost
  refine ⟨es ++ es', ?_, ?_, hpost'⟩
  · rw [exec_bind, hlog', hlog, List.reverse_append, List.append_assoc]
  · rw [follows_append, ← hlog]
    exact ⟨hok, hok'⟩

theorem Runs.ite {c : Prop} [Decidable c] {k : StateM σ α} (hm : c → Runs log Ok m s post)
    (hk : ¬ c → Runs log Ok k s post) : Runs log Ok (if c then m else k) s post := by
  by_cases hc : c
  · rw [if_pos hc]
    exact hm hc
  · rw [if_neg hc]
    exact hk hc

/-- A run that adds nothing. -/
theorem Runs.of_modify {f : σ → σ} {post : PUnit → List ε → σ → Prop} (hlog : log (f s) = log s)
    (h : post ⟨⟩ [] (f s)) : Runs log Ok (modify f : StateM σ PUnit) s post :=
  ⟨[], hlog, trivial, h⟩

theorem Runs.get_bind {f : σ → StateM σ β} {last : β → List ε → σ → Prop}
    (h : Runs log Ok (f s) s last) : Runs log Ok (get >>= f) s last := h

theorem Runs.modify_bind {g : σ → σ} {f : PUnit → StateM σ β} {last : β → List ε → σ → Prop}
    (hlog : log (g s) = log s) (h : Runs log Ok (f ⟨⟩) (g s) last) :
    Runs log Ok (modify g >>= f) s last := by
  obtain ⟨es, hes, hok, hlast⟩ := h
  rw [hlog] at hes hok
  exact ⟨es, hes, hok, hlast⟩

/-! ## Programs of one kind -/

variable (log Ok) in
/-- Every run of `m` adds entries in `K` only, and leaves a state related to its start. -/
def Only (K : ε → Prop) (R : σ → σ → Prop) (m : StateM σ α) : Prop :=
  ∀ s, Runs log Ok m s fun _ es s' => (∀ e ∈ es, K e) ∧ R s s'

variable {K : ε → Prop} {R : σ → σ → Prop} [IsPreorder σ R]

theorem Only.pure (a : α) : Only log Ok K R (pure a : StateM σ α) := by
  intro s
  refine Runs.pure ⟨?_, refl_of R s⟩
  intro e he
  cases he

theorem Only.get : Only log Ok K R (get : StateM σ σ) := by
  intro s
  refine ⟨[], rfl, trivial, ?_, refl_of R s⟩
  intro e he
  cases he

theorem Only.bind {f : α → StateM σ β} (hm : Only log Ok K R m) (hf : ∀ a, Only log Ok K R (f a)) :
    Only log Ok K R (m >>= f) := by
  intro s
  apply (hm s).bind
  rintro a es s' ⟨hes, hR⟩
  apply (hf a s').mono
  rintro b es' s'' ⟨hes', hR'⟩
  exact ⟨List.forall_mem_append.2 ⟨hes, hes'⟩, trans_of R hR hR'⟩

omit [IsPreorder σ R] in
theorem Only.ite {c : Prop} [Decidable c] {k : StateM σ α} (hm : Only log Ok K R m)
    (hk : Only log Ok K R k) : Only log Ok K R (if c then m else k) := by
  split
  · exact hm
  · exact hk

end Trace
