import Mathlib.Data.List.Basic

/-! # What has held since

A trace has its newest entry first. `Since p q trace` says that some entry satisfied
`p`, and every one after it `q`: the past operator of temporal logic, over a finite
trace. It survives every entry that satisfies `q`, and starts afresh at one that
satisfies `p`.
-/

namespace Trace

variable {α : Type*} {p p' q : α → Prop} {entry : α} {newer trace : List α}

/-- Some entry satisfies `p`, and every newer one `q`. -/
def Since (p q : α → Prop) (trace : List α) : Prop :=
  ∃ newer entry older, trace = newer ++ entry :: older ∧ p entry ∧ ∀ e ∈ newer, q e

theorem Since.here (h : p entry) : Since p q (entry :: trace) :=
  ⟨[], entry, trace, rfl, h, by simp⟩

theorem Since.append (h : Since p q trace) (hnewer : ∀ e ∈ newer, q e) :
    Since p q (newer ++ trace) := by
  rcases h with ⟨newer', entry, older, rfl, hentry, hall⟩
  refine ⟨newer ++ newer', entry, older, (List.append_assoc _ _ _).symm, hentry, ?_⟩
  intro e he
  rcases List.mem_append.1 he with he | he
  · exact hnewer e he
  · exact hall e he

theorem Since.cons (h : Since p q trace) (hentry : q entry) : Since p q (entry :: trace) := by
  apply @Since.append _ _ _ [entry] _ h
  intro e he
  rw [List.mem_singleton.1 he]
  exact hentry

theorem not_since_nil : ¬ Since p q [] := by
  rintro ⟨newer, entry, older, htrace, _⟩
  cases newer <;> cases htrace

theorem since_cons_iff : Since p q (entry :: trace) ↔ p entry ∨ q entry ∧ Since p q trace := by
  constructor
  · rintro ⟨newer, e, older, htrace, he, hall⟩
    cases newer with
    | nil =>
        cases htrace
        exact .inl he
    | cons e' newer =>
        cases htrace
        refine .inr ⟨hall _ List.mem_cons_self, newer, e, older, rfl, he, ?_⟩
        intro e' he'
        exact hall e' (List.mem_cons_of_mem _ he')
  · rintro (hentry | ⟨hentry, h⟩)
    · exact .here hentry
    · exact h.cons hentry

instance decidableSince [DecidablePred p] [DecidablePred q] : DecidablePred (Since p q)
  | [] => isFalse not_since_nil
  | _ :: trace =>
    have := decidableSince trace
    decidable_of_iff' _ since_cons_iff

theorem Since.mono (h : Since p q trace) (hp : ∀ e, p e → p' e) : Since p' q trace := by
  rcases h with ⟨newer, entry, older, rfl, hentry, hall⟩
  exact ⟨newer, entry, older, rfl, hp entry hentry, hall⟩

end Trace
