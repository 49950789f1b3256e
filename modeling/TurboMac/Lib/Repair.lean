import Mathlib.Data.List.Basic

/-! # Repairing an update rule by rule

A partial update is to be merged over a base that keeps a list of rules. A round
checks every rule on the merge of its start and strikes the keys of each broken
rule from the update. Some rounds later no rule is broken, and that takes at
most one round more than there are rules: a broken rule that has been struck
sees the base alone from then on.
-/

namespace Repair

variable {κ ν ρ σ : Type}

/-- A predicate on the values of some keys. -/
structure Rule (κ ν ρ : Type) where
  keys : List κ
  ok : (κ → ν) → Bool
  reason : ρ

/-- The rule looks at nothing but its keys. -/
def Rule.Local (r : Rule κ ν ρ) : Prop :=
  ∀ c c' : κ → ν, (∀ k ∈ r.keys, c k = c' k) → r.ok c = r.ok c'

/-- The update over the base. -/
def merge (base : κ → ν) (accepted : κ → Option ν) : κ → ν := fun k => (accepted k).getD (base k)

section

variable {r : Rule κ ν ρ} {base : κ → ν} {accepted : κ → Option ν} {k : κ}

theorem merge_of_none (h : accepted k = none) : merge base accepted k = base k := by
  rw [merge, h, Option.getD_none]

theorem merge_of_some {v : ν} (h : accepted k = some v) : merge base accepted k = v := by
  rw [merge, h, Option.getD_some]

/-- How many rules still have a key in the update. -/
def unsettled (rules : List (Rule κ ν ρ)) (accepted : κ → Option ν) : ℕ :=
  rules.countP fun r => r.keys.any fun k => (accepted k).isSome

/-- Fewer elements satisfy the stronger predicate. -/
theorem countP_lt {α : Type} {p q : α → Bool} {l : List α} (himp : ∀ x ∈ l, p x → q x) {x : α}
    (hx : x ∈ l) (hp : p x = false) (hq : q x = true) : l.countP p < l.countP q := by
  induction l with
  | nil => cases hx
  | cons y l ih =>
      have htail : ∀ z ∈ l, p z → q z := fun z hz => himp z (List.mem_cons_of_mem _ hz)
      have hle := List.countP_mono_left htail
      rw [List.countP_cons, List.countP_cons]
      rcases List.mem_cons.1 hx with rfl | hx
      · simp only [hp, hq]
        simp
        omega
      · have hlt := ih htail hx
        have hhead := himp y List.mem_cons_self
        by_cases hy : p y = true
        · rw [if_pos hy, if_pos (hhead hy)]
          omega
        · rw [if_neg hy]
          split <;> omega

/-- A broken rule has a key in the update, since the base keeps it. -/
theorem exists_key (hlocal : r.Local) (hbase : r.ok base = true)
    (hbroken : r.ok (merge base accepted) = false) : ∃ k ∈ r.keys, (accepted k).isSome := by
  by_contra hnone
  simp only [not_exists, not_and, Option.not_isSome_iff_eq_none] at hnone
  have hsame : r.ok (merge base accepted) = r.ok base := by
    apply hlocal
    intro k hk
    exact merge_of_none (hnone k hk)
  rw [hsame, hbase] at hbroken
  cases hbroken

theorem unsettled_le (rules : List (Rule κ ν ρ)) (accepted : κ → Option ν) :
    unsettled rules accepted ≤ rules.length := List.countP_le_length

end

variable [DecidableEq κ]

/-- The update without a key. -/
def pop (accepted : κ → Option ν) (key : κ) : κ → Option ν :=
  fun k => if k = key then none else accepted k

/-- The keys of a rule that are in the update, or all of them if none is. -/
def culprits (r : Rule κ ν ρ) (accepted : κ → Option ν) : List κ :=
  let updated := r.keys.filter fun k => (accepted k).isSome
  if updated = [] then r.keys else updated

section

/- `reject` notes a key and a reason, in whatever form the caller keeps them. -/
variable (reject : σ → κ → ρ → σ)

/-- Take the culprits of a broken rule out of the update. -/
def strike (r : Rule κ ν ρ) (accepted : κ → Option ν) (rejected : σ) : (κ → Option ν) × σ :=
  (culprits r accepted).foldl (fun (accepted, rejected) k => (pop accepted k, reject rejected k r.reason))
    (accepted, rejected)

/-- Check the rules in turn on one merge. -/
def checkRules (merged : κ → ν) : List (Rule κ ν ρ) → Bool → (κ → Option ν) → σ →
    Bool × (κ → Option ν) × σ
  | [], broken, accepted, rejected => (broken, accepted, rejected)
  | r :: rules, broken, accepted, rejected =>
    if r.ok merged then checkRules merged rules broken accepted rejected
    else
      let (accepted, rejected) := strike reject r accepted rejected
      checkRules merged rules true accepted rejected

/-- At most `n` rounds, until one finds no rule broken. -/
def settle (rules : List (Rule κ ν ρ)) (base : κ → ν) : ℕ → (κ → Option ν) → σ →
    (κ → Option ν) × σ
  | 0, accepted, rejected => (accepted, rejected)
  | n + 1, accepted, rejected =>
    let (broken, accepted, rejected) :=
      checkRules reject (merge base accepted) rules false accepted rejected
    if broken then settle rules base n accepted rejected else (accepted, rejected)

end

/-! ## One round -/

section

variable {reject : σ → κ → ρ → σ} {rules : List (Rule κ ν ρ)} {r : Rule κ ν ρ} {base merged : κ → ν}
  {accepted : κ → Option ν} {rejected : σ} {k : κ}

theorem foldl_pop (ks : List κ) (accepted : κ → Option ν) (rejected : σ) (reason : ρ) (k : κ) :
    (ks.foldl (fun (accepted, rejected) k => (pop accepted k, reject rejected k reason))
      (accepted, rejected)).1 k = if k ∈ ks then none else accepted k := by
  induction ks generalizing accepted rejected with
  | nil => simp
  | cons x ks ih =>
      rw [List.foldl_cons, ih]
      by_cases hx : k = x <;> simp [pop, hx]

/-- A struck rule has none of its keys in the update. -/
theorem strike_accepted (r : Rule κ ν ρ) (accepted : κ → Option ν) (rejected : σ) (k : κ) :
    (strike reject r accepted rejected).1 k = if k ∈ r.keys then none else accepted k := by
  rw [strike, foldl_pop, culprits]
  by_cases hempty : r.keys.filter (fun k => (accepted k).isSome) = []
  · rw [if_pos hempty]
  · rw [if_neg hempty]
    by_cases hk : k ∈ r.keys
    · by_cases hsome : (accepted k).isSome
      · simp [hk, hsome]
      · have hnone : accepted k = none := by simpa using hsome
        simp [hnone]
    · simp [hk]

/-- A round strikes the keys of every rule that its merge breaks. -/
theorem checkRules_accepted (merged : κ → ν) (rules : List (Rule κ ν ρ)) (broken : Bool)
    (accepted : κ → Option ν) (rejected : σ) (k : κ) :
    (checkRules reject merged rules broken accepted rejected).2.1 k =
      if ∃ r ∈ rules, r.ok merged = false ∧ k ∈ r.keys then none else accepted k := by
  induction rules generalizing broken accepted rejected with
  | nil => simp [checkRules]
  | cons r rules ih =>
      rw [checkRules]
      by_cases hok : r.ok merged
      · rw [if_pos hok, ih]
        simp [hok]
      · rw [if_neg hok]
        dsimp only
        rw [ih, strike_accepted]
        by_cases hk : k ∈ r.keys
        · simp [hk, hok]
        · simp [hk]

theorem checkRules_broken (merged : κ → ν) (rules : List (Rule κ ν ρ)) (broken : Bool)
    (accepted : κ → Option ν) (rejected : σ) :
    (checkRules reject merged rules broken accepted rejected).1 = true ↔
      broken = true ∨ ∃ r ∈ rules, r.ok merged = false := by
  induction rules generalizing broken accepted rejected with
  | nil => simp [checkRules]
  | cons r rules ih =>
      rw [checkRules]
      by_cases hok : r.ok merged
      · rw [if_pos hok, ih]
        simp [hok]
      · rw [if_neg hok]
        dsimp only
        rw [ih]
        simp [hok]

/-- A round that finds every rule kept leaves the update. -/
theorem checkRules_of_ok (hok : ∀ r ∈ rules, r.ok merged = true) (broken : Bool) :
    checkRules reject merged rules broken accepted rejected = (broken, accepted, rejected) := by
  induction rules with
  | nil => rfl
  | cons r rules ih =>
      rw [checkRules, if_pos (hok r List.mem_cons_self)]
      exact ih fun r hr => hok r (List.mem_cons_of_mem _ hr)

/-! ## All rounds -/

/-- A broken round settles a rule for good. -/
theorem unsettled_lt (hlocal : ∀ r ∈ rules, r.Local) (hbase : ∀ r ∈ rules, r.ok base = true)
    (hr : r ∈ rules) (hbroken : r.ok (merge base accepted) = false) :
    unsettled rules (checkRules reject (merge base accepted) rules false accepted rejected).2.1 <
      unsettled rules accepted := by
  refine countP_lt ?_ hr ?_ ?_
  · intro r' _ h
    obtain ⟨k, hk, hsome⟩ := List.any_eq_true.1 h
    rw [checkRules_accepted] at hsome
    split at hsome
    · cases hsome
    · exact List.any_eq_true.2 ⟨k, hk, hsome⟩
  · rw [List.any_eq_false]
    intro k hk
    have hstruck : ∃ r ∈ rules, r.ok (merge base accepted) = false ∧ k ∈ r.keys :=
      ⟨r, hr, hbroken, hk⟩
    rw [checkRules_accepted, if_pos hstruck]
    simp
  · exact List.any_eq_true.2 (exists_key (hlocal r hr) (hbase r hr) hbroken)

/-- More rounds than unsettled rules: the merge breaks none. -/
theorem settle_ok (hlocal : ∀ r ∈ rules, r.Local) (hbase : ∀ r ∈ rules, r.ok base = true) (n : ℕ)
    (accepted : κ → Option ν) (rejected : σ) (hn : unsettled rules accepted < n) :
    ∀ r ∈ rules, r.ok (merge base (settle reject rules base n accepted rejected).1) = true := by
  induction n generalizing accepted rejected with
  | zero => omega
  | succ n ih =>
      rw [settle]
      dsimp only
      split
      · rename_i hbroken
        obtain ⟨r, hr, hr'⟩ : ∃ r ∈ rules, r.ok (merge base accepted) = false := by
          simpa using (checkRules_broken _ _ _ _ _).1 hbroken
        have hlt := @unsettled_lt _ _ _ _ _ reject rules r base accepted rejected hlocal hbase hr hr'
        exact ih _ _ (Nat.lt_of_lt_of_le hlt (Nat.le_of_lt_succ hn))
      · rename_i hkept
        have hok : ∀ r ∈ rules, r.ok (merge base accepted) = true := by
          intro r hr
          by_contra hbroken
          exact hkept ((checkRules_broken _ _ _ _ _).2 (.inr ⟨r, hr, by simpa using hbroken⟩))
        rw [checkRules_of_ok hok]
        exact hok

/-- One round more than there are rules is enough. -/
theorem settle_length_ok (hlocal : ∀ r ∈ rules, r.Local) (hbase : ∀ r ∈ rules, r.ok base = true)
    (reject : σ → κ → ρ → σ) (accepted : κ → Option ν) (rejected : σ) :
    ∀ r ∈ rules,
      r.ok (merge base (settle reject rules base (rules.length + 1) accepted rejected).1) = true :=
  settle_ok hlocal hbase _ accepted rejected (Nat.lt_succ_of_le (unsettled_le rules accepted))

/-- Repairing only takes keys out. -/
theorem settle_accepted (n : ℕ) (accepted : κ → Option ν) (rejected : σ) {v : ν}
    (h : (settle reject rules base n accepted rejected).1 k = some v) : accepted k = some v := by
  induction n generalizing accepted rejected with
  | zero => exact h
  | succ n ih =>
      rw [settle] at h
      dsimp only at h
      have hround : ∀ v, (checkRules reject (merge base accepted) rules false accepted rejected).2.1 k =
          some v → accepted k = some v := by
        intro v hv
        rw [checkRules_accepted] at hv
        split at hv
        · cases hv
        · exact hv
      split at h
      · exact hround v (ih _ _ h)
      · exact hround v h

/-- An update that keeps every rule is left as it is. -/
theorem settle_of_ok (hok : ∀ r ∈ rules, r.ok (merge base accepted) = true) (n : ℕ) :
    settle reject rules base n accepted rejected = (accepted, rejected) := by
  cases n with
  | zero => rfl
  | succ n =>
      rw [settle, checkRules_of_ok hok]
      simp

end

/-! ## What is rejected -/

section

variable {reject : σ → κ → ρ → σ} {rules : List (Rule κ ν ρ)} {r : Rule κ ν ρ} {base merged : κ → ν}
  {accepted : κ → Option ν} {rejected : σ} {k : κ}

/-- What every rejection keeps. -/
theorem checkRules_keeps {P : σ → Prop} (hkeeps : ∀ s k reason, P s → P (reject s k reason))
    (merged : κ → ν) (rules : List (Rule κ ν ρ)) (broken : Bool) (accepted : κ → Option ν)
    (rejected : σ) (h : P rejected) :
    P (checkRules reject merged rules broken accepted rejected).2.2 := by
  have hfold : ∀ (ks : List κ) (reason : ρ) (accepted : κ → Option ν) (rejected : σ), P rejected →
      P (ks.foldl (fun (accepted, rejected) k => (pop accepted k, reject rejected k reason))
        (accepted, rejected)).2 := by
    intro ks reason
    induction ks with
    | nil => exact fun _ _ h => h
    | cons k ks ih => exact fun _ _ h => ih _ _ (hkeeps _ _ _ h)
  induction rules generalizing broken accepted rejected with
  | nil => exact h
  | cons r rules ih =>
      rw [checkRules]
      split
      · exact ih _ _ _ h
      · exact ih _ _ _ (hfold _ _ _ _ h)

theorem settle_keeps {P : σ → Prop} (hkeeps : ∀ s k reason, P s → P (reject s k reason)) (n : ℕ)
    (accepted : κ → Option ν) (rejected : σ) (h : P rejected) :
    P (settle reject rules base n accepted rejected).2 := by
  induction n generalizing accepted rejected with
  | zero => exact h
  | succ n ih =>
      have hround := checkRules_keeps hkeeps (merge base accepted) rules false accepted rejected h
      rw [settle]
      dsimp only
      split
      · exact ih _ _ hround
      · exact hround

omit [DecidableEq κ] in
theorem mem_culprits : k ∈ culprits r accepted ↔
    k ∈ r.keys ∧ ((accepted k).isSome = true ∨ ∀ k' ∈ r.keys, accepted k' = none) := by
  have hempty : r.keys.filter (fun k => (accepted k).isSome) = [] ↔
      ∀ k' ∈ r.keys, accepted k' = none := by
    rw [List.filter_eq_nil_iff]
    simp
  unfold culprits
  dsimp only
  split
  · rename_i hnone
    rw [and_iff_left (.inr (hempty.1 hnone))]
  · rename_i hsome
    rw [or_iff_left (mt hempty.2 hsome), List.mem_filter]

/-- The update without some keys. -/
def without (accepted : κ → Option ν) (keys : List κ) : κ → Option ν :=
  fun k => if k ∈ keys then none else accepted k

theorem without_of_mem {keys : List κ} (h : k ∈ keys) : without accepted keys k = none := if_pos h

theorem without_of_notMem {keys : List κ} (h : k ∉ keys) : without accepted keys k = accepted k :=
  if_neg h

/-- A rule that is broken when all of its keys in the update have been struck already: the
blame falls on each of its keys. -/
def Blamed (merged : κ → ν) (rules : List (Rule κ ν ρ)) (accepted : κ → Option ν) (k : κ) : Prop :=
  ∃ (pre : List (Rule κ ν ρ)) (r : Rule κ ν ρ) (post : List (Rule κ ν ρ)),
    rules = pre ++ r :: post ∧ r.ok merged = false ∧ k ∈ r.keys ∧
    ∀ k' ∈ r.keys, accepted k' = none ∨ ∃ r' ∈ pre, r'.ok merged = false ∧ k' ∈ r'.keys

omit [DecidableEq κ] in
/-- The rest of a round after a rule that is kept. -/
theorem blamed_cons_of_ok (hok : r.ok merged = true) :
    Blamed merged (r :: rules) accepted k ↔ Blamed merged rules accepted k := by
  constructor
  · rintro ⟨pre, r', post, heq, hbroken, hk, hall⟩
    cases pre with
    | nil =>
        cases heq
        rw [hok] at hbroken
        cases hbroken
    | cons r'' pre =>
        cases heq
        refine ⟨pre, r', post, rfl, hbroken, hk, ?_⟩
        intro k' hk'
        rcases hall k' hk' with hnone | ⟨r₁, hr₁, hbroken₁, hmem⟩
        · exact .inl hnone
        · rcases List.mem_cons.1 hr₁ with rfl | hr₁
          · rw [hok] at hbroken₁
            cases hbroken₁
          · exact .inr ⟨r₁, hr₁, hbroken₁, hmem⟩
  · rintro ⟨pre, r', post, rfl, hbroken, hk, hall⟩
    refine ⟨r :: pre, r', post, rfl, hbroken, hk, ?_⟩
    intro k' hk'
    rcases hall k' hk' with hnone | ⟨r₁, hr₁, hstruck⟩
    · exact .inl hnone
    · exact .inr ⟨r₁, List.mem_cons_of_mem _ hr₁, hstruck⟩

/-- And after one that is broken. -/
theorem blamed_cons_of_broken (hbroken : r.ok merged = false) :
    Blamed merged (r :: rules) accepted k ↔
      (k ∈ r.keys ∧ ∀ k' ∈ r.keys, accepted k' = none) ∨
        Blamed merged rules (without accepted r.keys) k := by
  constructor
  · rintro ⟨pre, r', post, heq, hbroken', hk, hall⟩
    cases pre with
    | nil =>
        cases heq
        left
        refine ⟨hk, ?_⟩
        intro k' hk'
        rcases hall k' hk' with hnone | ⟨r₁, hr₁, -⟩
        · exact hnone
        · cases hr₁
    | cons r'' pre =>
        cases heq
        right
        refine ⟨pre, r', post, rfl, hbroken', hk, ?_⟩
        intro k' hk'
        rcases hall k' hk' with hnone | ⟨r₁, hr₁, hbroken₁, hmem⟩
        · left
          unfold without
          rw [hnone, ite_self]
        · rcases List.mem_cons.1 hr₁ with rfl | hr₁
          · exact .inl (without_of_mem hmem)
          · exact .inr ⟨r₁, hr₁, hbroken₁, hmem⟩
  · rintro (⟨hk, hnone⟩ | ⟨pre, r', post, rfl, hbroken', hk, hall⟩)
    · exact ⟨[], r, rules, rfl, hbroken, hk, fun k' hk' => .inl (hnone k' hk')⟩
    · refine ⟨r :: pre, r', post, rfl, hbroken', hk, ?_⟩
      intro k' hk'
      rcases hall k' hk' with hnone | ⟨r₁, hr₁, hstruck⟩
      · by_cases hmem : k' ∈ r.keys
        · exact .inr ⟨r, List.mem_cons_self, hbroken, hmem⟩
        · rw [without_of_notMem hmem] at hnone
          exact .inl hnone
      · exact .inr ⟨r₁, List.mem_cons_of_mem _ hr₁, hstruck⟩

end

section

/- `has` says which keys have been rejected. -/
variable {reject : σ → κ → ρ → σ} {has : σ → κ → Prop} {rules : List (Rule κ ν ρ)} {r : Rule κ ν ρ}
  {base merged : κ → ν} {accepted : κ → Option ν} {rejected : σ} {k : κ} {asked : κ → Prop}

theorem strike_has (hreject : ∀ s k reason k', has (reject s k reason) k' ↔ has s k' ∨ k' = k)
    (r : Rule κ ν ρ) (accepted : κ → Option ν) (rejected : σ) (k : κ) :
    has (strike reject r accepted rejected).2 k ↔ has rejected k ∨ k ∈ culprits r accepted := by
  unfold strike
  generalize culprits r accepted = ks
  induction ks generalizing accepted rejected with
  | nil => simp
  | cons x ks ih =>
      rw [List.foldl_cons, ih, hreject, List.mem_cons, or_assoc]

/-- A round rejects what it strikes, and what it blames. -/
theorem checkRules_has (hreject : ∀ s k reason k', has (reject s k reason) k' ↔ has s k' ∨ k' = k)
    (merged : κ → ν) (rules : List (Rule κ ν ρ)) (broken : Bool) (accepted : κ → Option ν)
    (rejected : σ) (k : κ) :
    has (checkRules reject merged rules broken accepted rejected).2.2 k ↔ has rejected k ∨
      ((accepted k).isSome = true ∧ ∃ r ∈ rules, r.ok merged = false ∧ k ∈ r.keys) ∨
      Blamed merged rules accepted k := by
  induction rules generalizing broken accepted rejected with
  | nil => simp [checkRules, Blamed]
  | cons r rules ih =>
      rw [checkRules]
      cases hok : r.ok merged with
      | true =>
          rw [if_pos rfl, ih, blamed_cons_of_ok hok]
          simp [hok]
      | false =>
          rw [if_neg Bool.false_ne_true]
          dsimp only
          have hpopped : (strike reject r accepted rejected).1 = without accepted r.keys :=
            funext (strike_accepted r accepted rejected)
          rw [ih, strike_has hreject, blamed_cons_of_broken hok, hpopped, mem_culprits]
          have hstruck : (∃ r' ∈ r :: rules, r'.ok merged = false ∧ k ∈ r'.keys) ↔
              k ∈ r.keys ∨ ∃ r' ∈ rules, r'.ok merged = false ∧ k ∈ r'.keys := by simp [hok]
          rw [hstruck]
          by_cases hk : k ∈ r.keys
          · rw [without_of_mem hk]
            simp only [hk, true_and, true_or, and_true, Option.isSome_none, Bool.false_eq_true,
              false_and, false_or, or_assoc]
          · rw [without_of_notMem hk]
            simp only [hk, false_and, false_or, or_false]

/-- The update and the rejections share what has been asked for. -/
structure Split (asked : κ → Prop) (has : σ → κ → Prop) (accepted : κ → Option ν) (rejected : σ) : Prop where
  disjoint : ∀ k, (accepted k).isSome = true → ¬ has rejected k
  covers : ∀ k, (accepted k).isSome = true ∨ has rejected k ↔ asked k

/-- A round keeps that exactly if it blames nothing else. -/
theorem checkRules_split_iff (hreject : ∀ s k reason k', has (reject s k reason) k' ↔ has s k' ∨ k' = k)
    (merged : κ → ν) (broken : Bool) (h : Split asked has accepted rejected) :
    Split asked has (checkRules reject merged rules broken accepted rejected).2.1
        (checkRules reject merged rules broken accepted rejected).2.2 ↔
      ∀ k, Blamed merged rules accepted k → asked k := by
  constructor
  · intro hsplit k hblamed
    rw [← hsplit.covers]
    exact .inr ((checkRules_has hreject _ _ _ _ _ k).2 (.inr (.inr hblamed)))
  · intro hblamed
    constructor
    · intro k hsome hhas
      rw [checkRules_accepted] at hsome
      split at hsome
      · cases hsome
      rename_i hkept
      rcases (checkRules_has hreject _ _ _ _ _ k).1 hhas with hbefore | ⟨-, hstruck⟩ | hblame
      · exact h.disjoint k hsome hbefore
      · exact hkept hstruck
      · rcases hblame with ⟨pre, r, post, rfl, hbroken, hk, -⟩
        exact hkept ⟨r, by simp, hbroken, hk⟩
    · intro k
      rw [checkRules_accepted, checkRules_has hreject, ← h.covers]
      constructor
      · rintro (hsome | hbefore | ⟨hsome, -⟩ | hblame)
        · split at hsome
          · cases hsome
          · exact .inl hsome
        · exact .inr hbefore
        · exact .inl hsome
        · rw [h.covers]
          exact hblamed k hblame
      · rintro (hsome | hbefore)
        · split
          · rename_i hstruck
            exact .inr (.inr (.inl ⟨hsome, hstruck⟩))
          · exact .inl hsome
        · exact .inr (.inl hbefore)

/-- A rule on two keys. -/
def Rule.Pair (r : Rule κ ν ρ) : Prop := ∃ a b, r.keys = [a, b]

omit [DecidableEq κ] in
/-- Of a broken rule with a key that is not in the update the other key is. -/
theorem other_key (hpair : r.Pair) (hlocal : r.Local) (hbase : r.ok base = true)
    (hbroken : r.ok (merge base accepted) = false) (hk : k ∈ r.keys) (hnone : accepted k = none) :
    ∃ s ∈ r.keys, (accepted s).isSome = true ∧ ∀ k' ∈ r.keys, k' = s ∨ k' = k := by
  rcases exists_key hlocal hbase hbroken with ⟨s, hs, hsome⟩
  refine ⟨s, hs, hsome, ?_⟩
  have hne : s ≠ k := by
    rintro rfl
    rw [hnone] at hsome
    cases hsome
  rcases hpair with ⟨a, b, hkeys⟩
  rw [hkeys] at hs hk ⊢
  intro k' hk'
  simp only [List.mem_cons, List.not_mem_nil, or_false] at hs hk hk'
  rcases hs with rfl | rfl <;> rcases hk with rfl | rfl
  · exact absurd rfl hne
  · exact hk'
  · exact hk'.symm
  · exact absurd rfl hne

/-- After a round, a broken rule has no key that has not been asked for. -/
theorem asked_after_round (hpair : ∀ r ∈ rules, r.Pair) (hlocal : ∀ r ∈ rules, r.Local)
    (hbase : ∀ r ∈ rules, r.ok base = true) (hasked : ∀ k, (accepted k).isSome = true → asked k)
    (hr : r ∈ rules) (hbroken : r.ok (merge base
      (checkRules reject (merge base accepted) rules false accepted rejected).2.1) = false)
    (hk : k ∈ r.keys) : asked k := by
  by_contra hnot
  have hnone : accepted k = none := by
    by_contra hsome
    exact hnot (hasked k (Option.isSome_iff_ne_none.2 hsome))
  have hnone' : (checkRules reject (merge base accepted) rules false accepted rejected).2.1 k = none := by
    rw [checkRules_accepted, hnone, ite_self]
  rcases other_key (hpair r hr) (hlocal r hr) (hbase r hr) hbroken hk hnone' with ⟨s, hs, hsome, hkeys⟩
  rw [checkRules_accepted] at hsome
  split at hsome
  · cases hsome
  rename_i hkept
  -- the round has looked at the same values, and would have struck the other key
  have hsame : r.ok (merge base accepted) = r.ok (merge base
      (checkRules reject (merge base accepted) rules false accepted rejected).2.1) := by
    apply hlocal r hr
    intro k' hk'
    rcases hkeys k' hk' with rfl | rfl
    · rw [merge, merge, checkRules_accepted, if_neg hkept]
    · rw [merge_of_none hnone, merge_of_none hnone']
  exact hkept ⟨r, hr, hsame.trans hbroken, hs⟩

/-- If the first round blames nothing else, nor do the later ones. -/
theorem settle_split (hreject : ∀ s k reason k', has (reject s k reason) k' ↔ has s k' ∨ k' = k)
    (hpair : ∀ r ∈ rules, r.Pair) (hlocal : ∀ r ∈ rules, r.Local)
    (hbase : ∀ r ∈ rules, r.ok base = true) (n : ℕ) (h : Split asked has accepted rejected)
    (hblamed : ∀ k, Blamed (merge base accepted) rules accepted k → asked k) :
    Split asked has (settle reject rules base n accepted rejected).1
      (settle reject rules base n accepted rejected).2 := by
  induction n generalizing accepted rejected with
  | zero => exact h
  | succ n ih =>
      have hround := (checkRules_split_iff hreject (merge base accepted) false h).2 hblamed
      rw [settle]
      dsimp only
      split
      · apply ih hround
        rintro k ⟨pre, r, post, heq, hbroken, hk, -⟩
        have hr : r ∈ rules := by simp [heq]
        exact asked_after_round hpair hlocal hbase (fun k hsome => (h.covers k).1 (.inl hsome)) hr
          hbroken hk
      · exact hround

/-- What the first round blames stays rejected. -/
theorem settle_has_of_blamed (hreject : ∀ s k reason k', has (reject s k reason) k' ↔ has s k' ∨ k' = k)
    (n : ℕ) (accepted : κ → Option ν) (rejected : σ)
    (hblamed : Blamed (merge base accepted) rules accepted k) :
    has (settle reject rules base (n + 1) accepted rejected).2 k := by
  have hkeeps : ∀ s k' reason, has s k → has (reject s k' reason) k :=
    fun s k' reason hhas => (hreject s k' reason k).2 (.inl hhas)
  have hround := (checkRules_has hreject (merge base accepted) rules false accepted rejected k).2
    (.inr (.inr hblamed))
  rw [settle]
  dsimp only
  split
  · exact settle_keeps hkeeps n _ _ hround
  · exact hround

/-- Two broken rules that share a key of the update, of which the later has a key that has
not been asked for. -/
def Chained (asked : κ → Prop) (merged : κ → ν) (rules : List (Rule κ ν ρ)) (accepted : κ → Option ν) :
    Prop :=
  ∃ (pre : List (Rule κ ν ρ)) (r : Rule κ ν ρ) (post : List (Rule κ ν ρ)),
    rules = pre ++ r :: post ∧ r.ok merged = false ∧ (∃ k ∈ r.keys, ¬ asked k) ∧
    ∃ r' ∈ pre, r'.ok merged = false ∧ ∃ s ∈ r'.keys, s ∈ r.keys ∧ (accepted s).isSome = true

omit [DecidableEq κ] in
theorem Chained.two_le (h : Chained asked merged rules accepted) :
    2 ≤ rules.countP fun r => !r.ok merged := by
  rcases h with ⟨pre, r, post, rfl, hbroken, -, r', hr', hbroken', -⟩
  have hpre : 0 < pre.countP fun r => !r.ok merged := List.countP_pos_iff.2 ⟨r', hr', by simp [hbroken']⟩
  rw [List.countP_append, List.countP_cons, if_pos (by simp [hbroken])]
  omega

omit [DecidableEq κ] in
/-- That is how a round blames what has not been asked for. -/
theorem chained_iff (hpair : ∀ r ∈ rules, r.Pair) (hlocal : ∀ r ∈ rules, r.Local)
    (hbase : ∀ r ∈ rules, r.ok base = true) (hasked : ∀ k, (accepted k).isSome = true → asked k) :
    Chained asked (merge base accepted) rules accepted ↔
      ∃ k, Blamed (merge base accepted) rules accepted k ∧ ¬ asked k := by
  constructor
  · rintro ⟨pre, r, post, heq, hbroken, ⟨k, hk, hnot⟩, r', hr', hbroken', s, hs', hs, hsome⟩
    have hr : r ∈ rules := by simp [heq]
    have hnone : accepted k = none := by
      by_contra hne
      exact hnot (hasked k (Option.isSome_iff_ne_none.2 hne))
    rcases other_key (hpair r hr) (hlocal r hr) (hbase r hr) hbroken hk hnone with ⟨s', -, -, hkeys⟩
    refine ⟨k, ⟨pre, r, post, heq, hbroken, hk, ?_⟩, hnot⟩
    -- the other key is the shared one
    have hshared : s = s' := by
      rcases hkeys s hs with h | rfl
      · exact h
      · rw [hnone] at hsome
        cases hsome
    intro k' hk'
    rcases hkeys k' hk' with rfl | rfl
    · exact .inr ⟨r', hr', hbroken', hshared ▸ hs'⟩
    · exact .inl hnone
  · rintro ⟨k, ⟨pre, r, post, heq, hbroken, hk, hall⟩, hnot⟩
    have hr : r ∈ rules := by simp [heq]
    rcases exists_key (hlocal r hr) (hbase r hr) hbroken with ⟨s, hs, hsome⟩
    rcases hall s hs with hnone | ⟨r', hr', hbroken', hs'⟩
    · rw [hnone] at hsome
      cases hsome
    · exact ⟨pre, r, post, heq, hbroken, ⟨k, hk, hnot⟩, r', hr', hbroken', s, hs', hs, hsome⟩

end

end Repair
