import TurboMac.Linux.Totality

/-! # What `validate` answers of a request

Each updated key is accepted or rejected, and no other key is either. The first loop of
`validate` answers so, and a round of cross rules rejects what it takes out of `accepted`;
but when the keys of a broken rule are gone already, the round blames all of them.
-/

namespace TurboMac.Linux

open Repair

/-! ## Accepted and rejected -/

/-- `key in accepted`. -/
def Accepts (accepted : Key → Option Value) (key : String) : Prop :=
  ∃ k : Key, k.dotted = key ∧ (accepted k).isSome = true

/-- `key in rejected`. -/
def Rejects (rejected : Dict Reason) (key : String) : Prop := key ∈ rejected.map Prod.fst

/-- The answer is on the update: each of its keys, but for an accepted `schema`, is in
exactly one of the two, and no other key is in either. -/
structure Partition (updates : Dict Json) (accepted : Key → Option Value) (rejected : Dict Reason) :
    Prop where
  once : ∀ item ∈ updates, checkOne item.1 item.2 ≠ .schema →
    (Accepts accepted item.1 ↔ ¬ Rejects rejected item.1)
  asked : ∀ key, Accepts accepted key ∨ Rejects rejected key → key ∈ updates.map Prod.fst

theorem dotted_injective {k k' : Key} (h : k.dotted = k'.dotted) : k = k' := by
  have hof : Key.ofDotted k.dotted = Key.ofDotted k'.dotted := by rw [h]
  rw [ofDotted_dotted, ofDotted_dotted] at hof
  cases hof
  rfl

section

variable {updates : Dict Json} {accepted accepted' : Key → Option Value} {rejected rejected' : Dict Reason}
  {key : String} {k : Key}

theorem accepts_dotted : Accepts accepted k.dotted ↔ (accepted k).isSome = true := by
  constructor
  · rintro ⟨k', hk', hsome⟩
    rw [dotted_injective hk'] at hsome
    exact hsome
  · intro hsome
    exact ⟨k, rfl, hsome⟩

theorem rejects_set (reason : Reason) (key' : String) :
    Rejects (rejected.set key' reason) key ↔ Rejects rejected key ∨ key = key' := by
  unfold Rejects
  induction rejected with
  | nil => simp [Dict.set]
  | cons item rejected ih =>
      rcases item with ⟨key₁, reason₁⟩
      rw [Dict.set]
      split
      · rename_i heq
        simp only [List.map_cons, List.mem_cons]
        rw [heq]
        tauto
      · rw [List.map_cons, List.mem_cons, ih, List.map_cons, List.mem_cons, or_assoc]

theorem rejects_setdefault (reason : Reason) (key' : String) :
    Rejects (rejected.setdefault key' reason) key ↔ Rejects rejected key ∨ key = key' := by
  unfold Rejects Dict.setdefault
  split
  · rename_i hsome
    rw [List.lookup_isSome_iff] at hsome
    rcases hsome with ⟨item, hitem, heq⟩
    constructor
    · intro hmem
      exact .inl hmem
    · rintro (hmem | rfl)
      · exact hmem
      · rw [eq_of_beq heq]
        exact List.mem_map_of_mem hitem
  · simp

/-! ## The first loop -/

/-- The values that `_check_one` accepts. -/
def checkedValues (updates : Dict Json) : Key → Option Value := fun k =>
  (updates.lookup k.dotted).bind fun value =>
    match checkOne k.dotted value with
    | .accepted _ v => some v
    | _ => none

theorem checkedValues_of_fresh (h : k.dotted ∉ updates.map Prod.fst) : checkedValues updates k = none := by
  have hnone : updates.lookup k.dotted = none := by
    rw [List.lookup_eq_none_iff]
    intro item hitem
    rw [bne_iff_ne]
    rintro heq
    exact h (heq ▸ List.mem_map_of_mem hitem)
  rw [checkedValues, hnone, Option.bind_none]

theorem checkedValues_cons_self (value : Json) : checkedValues ((k.dotted, value) :: updates) k =
    match checkOne k.dotted value with
    | .accepted _ v => some v
    | _ => none := by
  rw [checkedValues, List.lookup_cons_self, Option.bind_some]

theorem checkedValues_cons_of_ne (value : Json) (h : k.dotted ≠ key) :
    checkedValues ((key, value) :: updates) k = checkedValues updates k := by
  rw [checkedValues, List.lookup_cons, beq_false_of_ne h]
  rfl

theorem checkAll_accepted (hnodup : (updates.map Prod.fst).Nodup)
    (h : checkAll updates accepted rejected = some (accepted', rejected')) (k : Key) :
    accepted' k = (checkedValues updates k).or (accepted k) := by
  induction updates generalizing accepted rejected with
  | nil =>
      cases h
      rfl
  | cons item updates ih =>
      rcases item with ⟨key, value⟩
      rw [List.map_cons, List.nodup_cons] at hnodup
      rcases hnodup with ⟨hfresh, hnodup⟩
      rw [checkAll] at h
      split at h
      · rename_i k₁ v hone
        rcases checkOne_accepted hone with ⟨rfl, -⟩
        rw [ih hnodup h]
        by_cases hk : k = k₁
        · subst hk
          rw [checkedValues_cons_self, checkedValues_of_fresh hfresh, hone, Function.update_self]
          rfl
        · rw [checkedValues_cons_of_ne _ (mt dotted_injective hk), Function.update_of_ne hk]
      · rename_i hone
        rw [ih hnodup h]
        by_cases hk : k.dotted = key
        · subst hk
          rw [checkedValues_cons_self, checkedValues_of_fresh hfresh, hone]
        · rw [checkedValues_cons_of_ne _ hk]
      · rename_i reason hone
        rw [ih hnodup h]
        by_cases hk : k.dotted = key
        · subst hk
          rw [checkedValues_cons_self, checkedValues_of_fresh hfresh, hone]
        · rw [checkedValues_cons_of_ne _ hk]
      · cases h

theorem checkAll_rejects (h : checkAll updates accepted rejected = some (accepted', rejected'))
    (key : String) : Rejects rejected' key ↔ Rejects rejected key ∨
      ∃ value reason, (key, value) ∈ updates ∧ checkOne key value = .rejected reason := by
  induction updates generalizing accepted rejected with
  | nil =>
      cases h
      simp
  | cons item updates ih =>
      rcases item with ⟨key₁, value₁⟩
      -- an item that is not rejected adds nothing
      have hcons : (∀ reason, checkOne key₁ value₁ ≠ .rejected reason) →
          ((∃ value reason, (key, value) ∈ (key₁, value₁) :: updates ∧
            checkOne key value = .rejected reason) ↔
          ∃ value reason, (key, value) ∈ updates ∧ checkOne key value = .rejected reason) := by
        intro hone
        constructor
        · rintro ⟨value, reason, hitem, hrejected⟩
          rcases List.mem_cons.1 hitem with heq | hitem
          · cases heq
            exact absurd hrejected (hone reason)
          · exact ⟨value, reason, hitem, hrejected⟩
        · rintro ⟨value, reason, hitem, hrejected⟩
          exact ⟨value, reason, List.mem_cons_of_mem _ hitem, hrejected⟩
      rw [checkAll] at h
      split at h
      · rename_i hone
        rw [ih h, hcons (by simp [hone])]
      · rename_i hone
        rw [ih h, hcons (by simp [hone])]
      · rename_i reason₁ hone
        rw [ih h, rejects_set, or_assoc]
        apply or_congr_right
        constructor
        · rintro (rfl | ⟨value, reason, hitem, hrejected⟩)
          · exact ⟨value₁, reason₁, List.mem_cons_self, hone⟩
          · exact ⟨value, reason, List.mem_cons_of_mem _ hitem, hrejected⟩
        · rintro ⟨value, reason, hitem, hrejected⟩
          rcases List.mem_cons.1 hitem with heq | hitem
          · cases heq
            exact .inl rfl
          · exact .inr ⟨value, reason, hitem, hrejected⟩
      · cases h

/-! ## The rounds -/

/-- The updated keys of `SPEC`. -/
def Updated (updates : Dict Json) (k : Key) : Prop := k.dotted ∈ updates.map Prod.fst

/-- A rejected key of `SPEC`. -/
def RejectsKey (rejected : Dict Reason) (k : Key) : Prop := Rejects rejected k.dotted

theorem rejectsKey_rejectRule (rejected : Dict Reason) (k : Key) (reason : String) (k' : Key) :
    RejectsKey (rejectRule rejected k reason) k' ↔ RejectsKey rejected k' ∨ k' = k := by
  unfold RejectsKey rejectRule
  rw [rejects_setdefault]
  apply or_congr_right
  constructor
  · exact dotted_injective
  · intro heq
    rw [heq]

theorem pair_crossRules : ∀ r ∈ crossRules, r.Pair := by
  intro r hr
  simp only [crossRules, List.mem_cons, List.not_mem_nil, or_false] at hr
  rcases hr with rfl | rfl | rfl | rfl | rfl | rfl | rfl | rfl
  all_goals exact ⟨_, _, rfl⟩

/-- What is no key of `SPEC` is answered in the first loop. -/
def Foreign (updates : Dict Json) (rejected : Dict Reason) : Prop :=
  ∀ key, Key.ofDotted key = none →
    (Rejects rejected key ↔ ∃ value, (key, value) ∈ updates ∧ checkOne key value ≠ .schema)

theorem foreign_rejectRule (h : Foreign updates rejected) (k : Key) (reason : String) :
    Foreign updates (rejectRule rejected k reason) := by
  intro key hkey
  rw [rejectRule, rejects_setdefault, ← h key hkey]
  apply or_iff_left
  rintro rfl
  rw [ofDotted_dotted] at hkey
  cases hkey

theorem checkRange_ne_schema (k : Key) (lo hi q : ℚ) : checkRange k lo hi q ≠ .schema := by
  unfold checkRange
  split
  · exact Checked.noConfusion
  · exact Checked.noConfusion

theorem checkKey_ne_schema (k : Key) (value : Json) : checkKey k value ≠ .schema := by
  fun_cases checkKey k value
  all_goals first | exact Checked.noConfusion | exact checkRange_ne_schema _ _ _ _

/-- No key of `SPEC` is taken for the `schema`. -/
theorem checkOne_dotted_ne_schema (k : Key) (value : Json) : checkOne k.dotted value ≠ .schema := by
  rw [checkOne, if_neg (dotted_ne k).1, if_neg (dotted_ne k).2, ofDotted_dotted]
  exact checkKey_ne_schema k value

/-- On the keys of `SPEC` a partition is what the rounds have to keep. -/
theorem partition_iff_split (hforeign : Foreign updates rejected) :
    Partition updates accepted rejected ↔ Split (Updated updates) RejectsKey accepted rejected := by
  constructor
  · intro h
    have hone : ∀ k, Updated updates k → (Accepts accepted k.dotted ↔ ¬ Rejects rejected k.dotted) := by
      intro k hk
      rcases List.mem_map.1 hk with ⟨item, hitem, hkey⟩
      have honce := h.once item hitem
      rw [hkey] at honce
      exact honce (checkOne_dotted_ne_schema k item.2)
    constructor
    · intro k hsome
      have haccepts := accepts_dotted.2 hsome
      exact (hone k (h.asked _ (.inl haccepts))).1 haccepts
    · intro k
      rw [← accepts_dotted]
      constructor
      · exact h.asked k.dotted
      · intro hk
        by_cases hrejects : Rejects rejected k.dotted
        · exact .inr hrejects
        · exact .inl ((hone k hk).2 hrejects)
  · intro h
    constructor
    · rintro ⟨key, value⟩ hitem hschema
      cases hkey : Key.ofDotted key with
      | none =>
          have hrejects : Rejects rejected key := (hforeign key hkey).2 ⟨value, hitem, hschema⟩
          refine iff_of_false ?_ (not_not.2 hrejects)
          rintro ⟨k, rfl, -⟩
          rw [ofDotted_dotted] at hkey
          cases hkey
      | some k =>
          rw [← ofDotted_some hkey] at hitem ⊢
          rw [accepts_dotted]
          constructor
          · exact h.disjoint k
          · intro hrejects
            have hk : Updated updates k := List.mem_map_of_mem hitem
            exact ((h.covers k).2 hk).resolve_right hrejects
    · intro key hanswered
      cases hkey : Key.ofDotted key with
      | none =>
          rcases hanswered with ⟨k, rfl, -⟩ | hrejects
          · rw [ofDotted_dotted] at hkey
            cases hkey
          · rcases (hforeign key hkey).1 hrejects with ⟨value, hitem, -⟩
            exact List.mem_map_of_mem hitem
      | some k =>
          rw [← ofDotted_some hkey, accepts_dotted] at hanswered
          rw [← ofDotted_some hkey]
          exact (h.covers k).1 hanswered

/-! ## What the first loop answers -/

theorem mem_of_lookup_dotted {value : Json} (h : updates.lookup k.dotted = some value) :
    (k.dotted, value) ∈ updates := by
  rcases List.lookup_eq_some_iff.1 h with ⟨l₁, l₂, heq, -⟩
  rw [heq]
  exact List.mem_append_right l₁ List.mem_cons_self

theorem checkAll_values (hnodup : (updates.map Prod.fst).Nodup)
    (h : checkAll updates noUpdate [] = some (accepted, rejected)) :
    accepted = checkedValues updates := by
  funext k
  rw [checkAll_accepted hnodup h, noUpdate, Option.or_none]

theorem checkAll_rejects_iff (h : checkAll updates noUpdate [] = some (accepted, rejected))
    (key : String) : Rejects rejected key ↔
      ∃ value reason, (key, value) ∈ updates ∧ checkOne key value = .rejected reason := by
  rw [checkAll_rejects h]
  simp [Rejects]

theorem checkOne_ne_raised (h : checkAll updates noUpdate [] = some (accepted, rejected)) {value : Json}
    (hitem : (key, value) ∈ updates) : checkOne key value ≠ .raised := by
  rw [Ne, checkOne_raised_iff]
  have hall : (checkAll updates noUpdate []).isSome = true := by rw [h, Option.isSome_some]
  exact (checkAll_isSome_iff updates noUpdate []).1 hall _ hitem

theorem checkAll_foreign (h : checkAll updates noUpdate [] = some (accepted, rejected)) :
    Foreign updates rejected := by
  intro key hkey
  rw [checkAll_rejects_iff h]
  constructor
  · rintro ⟨value, reason, hitem, hrejected⟩
    exact ⟨value, hitem, by simp [hrejected]⟩
  · rintro ⟨value, hitem, hschema⟩
    cases hone : checkOne key value with
    | accepted k v =>
        rw [← (checkOne_accepted hone).1, ofDotted_dotted] at hkey
        cases hkey
    | schema => exact absurd hone hschema
    | rejected reason => exact ⟨value, reason, hitem, hone⟩
    | raised => exact absurd hone (checkOne_ne_raised h hitem)

theorem checkAll_split (hnodup : (updates.map Prod.fst).Nodup)
    (h : checkAll updates noUpdate [] = some (checkedValues updates, rejected)) :
    Split (Updated updates) RejectsKey (checkedValues updates) rejected := by
  constructor
  · intro k hsome hrejected
    rcases (checkAll_rejects_iff h k.dotted).1 hrejected with ⟨value, reason, hitem, hone⟩
    rw [checkedValues] at hsome
    cases hlookup : updates.lookup k.dotted with
    | none =>
        rw [hlookup] at hsome
        cases hsome
    | some value' =>
        -- a key has one value
        have heq := List.inj_on_of_nodup_map hnodup (mem_of_lookup_dotted hlookup) hitem rfl
        cases heq
        rw [hlookup, Option.bind_some, hone] at hsome
        cases hsome
  · intro k
    rw [RejectsKey, checkAll_rejects_iff h]
    constructor
    · rintro (hsome | ⟨value, reason, hitem, -⟩)
      · by_contra hfresh
        rw [checkedValues_of_fresh hfresh] at hsome
        cases hsome
      · exact List.mem_map_of_mem hitem
    · intro hk
      have hlookup : (updates.lookup k.dotted).isSome = true := by
        rw [List.lookup_isSome_iff]
        rcases List.mem_map.1 hk with ⟨item, hitem, heq⟩
        exact ⟨item, hitem, by simp [heq]⟩
      rcases Option.isSome_iff_exists.1 hlookup with ⟨value, hvalue⟩
      have hitem := mem_of_lookup_dotted hvalue
      cases hone : checkOne k.dotted value with
      | accepted k' v =>
          left
          rw [checkedValues, hvalue, Option.bind_some, hone]
          rfl
      | schema => exact absurd hone (checkOne_dotted_ne_schema k value)
      | rejected reason => exact .inr ⟨value, reason, hitem, hone⟩
      | raised => exact absurd hone (checkOne_ne_raised h hitem)

/-! ## `validate` and `set_config` -/

/-- Two cross rules that share an accepted key are both broken by the base with what
`_check_one` accepts, the later one with a key that is not in the update. -/
def BlamesUnasked (updates : Dict Json) (base : Settings) : Prop :=
  Chained (Updated updates) (merge base (checkedValues updates)) crossRules (checkedValues updates)

theorem validate_rounds {base : Settings} (hnodup : (updates.map Prod.fst).Nodup)
    (h : validate updates base = some (accepted, rejected)) :
    ∃ checked, checkAll updates noUpdate [] = some (checkedValues updates, checked) ∧
      settle rejectRule crossRules base (crossRules.length + 1) (checkedValues updates) checked =
        (accepted, rejected) := by
  rcases Option.map_eq_some_iff.1 h with ⟨⟨values, checked⟩, hcheck, hsettle⟩
  have hvalues := checkAll_values hnodup hcheck
  subst hvalues
  exact ⟨checked, hcheck, hsettle⟩

theorem validate_partition {base : Settings} (hbase : base.Valid) (hnodup : (updates.map Prod.fst).Nodup)
    (h : validate updates base = some (accepted, rejected)) (hnone : ¬ BlamesUnasked updates base) :
    Partition updates accepted rejected := by
  rcases validate_rounds hnodup h with ⟨checked, hcheck, hsettle⟩
  have hsplit := checkAll_split hnodup hcheck
  have hasked : ∀ k, (checkedValues updates k).isSome = true → Updated updates k :=
    fun k hsome => (hsplit.covers k).1 (.inl hsome)
  have hforeign := @settle_keeps _ _ _ _ _ rejectRule crossRules base (Foreign updates)
    (fun _ k reason h => foreign_rejectRule h k reason) (crossRules.length + 1)
    (checkedValues updates) checked (checkAll_foreign hcheck)
  have hrounds := settle_split rejectsKey_rejectRule pair_crossRules local_crossRules hbase.rules
    (crossRules.length + 1) hsplit
  rw [hsettle] at hforeign hrounds
  refine (partition_iff_split hforeign).2 (hrounds ?_)
  intro k hblamed
  by_contra hnot
  exact hnone ((chained_iff pair_crossRules local_crossRules hbase.rules hasked).2 ⟨k, hblamed, hnot⟩)

/-- A key of a cross rule is rejected that is not in the update. -/
theorem blamed_rejected {base : Settings} (hbase : base.Valid) (hnodup : (updates.map Prod.fst).Nodup)
    (h : validate updates base = some (accepted, rejected)) (hblames : BlamesUnasked updates base) :
    ∃ r ∈ crossRules, ∃ k ∈ r.keys, Rejects rejected k.dotted ∧ k.dotted ∉ updates.map Prod.fst := by
  rcases validate_rounds hnodup h with ⟨checked, hcheck, hsettle⟩
  have hsplit := checkAll_split hnodup hcheck
  have hasked : ∀ k, (checkedValues updates k).isSome = true → Updated updates k :=
    fun k hsome => (hsplit.covers k).1 (.inl hsome)
  rcases (chained_iff pair_crossRules local_crossRules hbase.rules hasked).1 hblames with ⟨k, hblamed, hnot⟩
  have hrejects := settle_has_of_blamed rejectsKey_rejectRule crossRules.length _ checked hblamed
  rw [hsettle] at hrejects
  rcases hblamed with ⟨pre, r, post, heq, -, hk, -⟩
  have hr : r ∈ crossRules := by
    rw [heq]
    exact List.mem_append_right pre List.mem_cons_self
  exact ⟨r, hr, k, hk, hrejects, hnot⟩

theorem mem_keys_pop (updates : Dict Json) (key' key : String) :
    key ∈ (updates.pop key').map Prod.fst ↔ key ∈ updates.map Prod.fst ∧ key ≠ key' := by
  unfold Dict.pop
  constructor
  · intro hmem
    rcases List.mem_map.1 hmem with ⟨item, hitem, rfl⟩
    rw [List.mem_filter, decide_eq_true_eq] at hitem
    exact ⟨List.mem_map_of_mem hitem.1, hitem.2⟩
  · rintro ⟨hmem, hne⟩
    rcases List.mem_map.1 hmem with ⟨item, hitem, rfl⟩
    exact List.mem_map_of_mem (List.mem_filter.2 ⟨hitem, decide_eq_true hne⟩)

theorem nodup_pop (h : (updates.map Prod.fst).Nodup) (key : String) :
    ((updates.pop key).map Prod.fst).Nodup :=
  h.sublist (List.filter_sublist.map Prod.fst)

/-- What `set_config` rejects is what `validate` rejects, and the GPU mode of the request. -/
theorem setConfig_rejects {d d' : Daemon} {saveError : Option String} {answers : GpuAnswers}
    {reply : ConfigReply} (h : d.setConfig updates saveError answers = some (reply, d')) :
    ∃ accepted rejected, validate (updates.pop "gpu.mode") d.config = some (accepted, rejected) ∧
      (∀ key, Rejects rejected key → Rejects reply.rejected key) ∧
      ∀ key, Rejects reply.rejected key → Rejects rejected key ∨
        key = "gpu.mode" ∧ key ∈ updates.map Prod.fst := by
  unfold Daemon.setConfig at h
  rw [Option.bind_eq_bind, Option.bind_eq_some_iff] at h
  rcases h with ⟨⟨accepted, rejected, d₁⟩, hlocked, h⟩
  have hvalidate : validate (updates.pop "gpu.mode") d.config = some (accepted, rejected) := by
    rcases Option.map_eq_some_iff.1 hlocked with ⟨⟨accepted', rejected'⟩, hvalidate, heq⟩
    dsimp only at heq
    split at heq <;> cases heq <;> exact hvalidate
  refine ⟨accepted, rejected, hvalidate, ?_⟩
  have hsame : (∀ key, Rejects rejected key → Rejects rejected key) ∧
      ∀ key, Rejects rejected key → Rejects rejected key ∨ key = "gpu.mode" ∧ key ∈ updates.map Prod.fst :=
    ⟨fun _ h => h, fun _ h => .inl h⟩
  dsimp only at h
  split at h
  · cases h
    exact hsame
  · cases h
    exact hsame
  · rename_i mode _ hmode
    have hgpu : "gpu.mode" ∈ updates.map Prod.fst := by
      have hsome : (updates.lookup "gpu.mode").isSome = true := by rw [hmode, Option.isSome_some]
      rcases List.lookup_isSome_iff.1 hsome with ⟨item, hitem, heq⟩
      rw [eq_of_beq heq]
      exact List.mem_map_of_mem hitem
    split at h
    · cases h
      exact hsame
    · split at h
      · -- the mode is refused
        cases h
        constructor
        · intro key hkey
          exact (rejects_set _ _).2 (.inl hkey)
        · intro key hkey
          rcases (rejects_set _ _).1 hkey with hkey | rfl
          · exact .inl hkey
          · exact .inr ⟨rfl, hgpu⟩
      · cases h
        exact hsame

end

/-- With a valid base, an update without a number that overflows is answered key by key
exactly if no key is blamed that is not in it; and so the replies of `set_config` reject
nothing else. -/
theorem partition_iff {updates : Dict Json} {base : Settings} (hbase : base.Valid)
    (hnodup : (updates.map Prod.fst).Nodup) :
    ((∃ accepted rejected, validate updates base = some (accepted, rejected) ∧
      Partition updates accepted rejected) ↔
      (∀ item ∈ updates, ¬ Raises item) ∧ ¬ BlamesUnasked updates base) ∧
    ∀ (d d' : Daemon) (saveError : Option String) (answers : GpuAnswers) (reply : ConfigReply),
      d.config = base → d.setConfig updates saveError answers = some (reply, d') →
      ((∀ key, Rejects reply.rejected key → key ∈ updates.map Prod.fst) ↔
        ¬ BlamesUnasked (updates.pop "gpu.mode") base) := by
  constructor
  · rw [← validate_isSome_iff updates base]
    constructor
    · rintro ⟨accepted, rejected, hvalidate, hpartition⟩
      refine ⟨by rw [hvalidate, Option.isSome_some], ?_⟩
      intro hblames
      rcases blamed_rejected hbase hnodup hvalidate hblames with ⟨_, _, k, _, hrejects, hnot⟩
      exact hnot (hpartition.asked _ (.inr hrejects))
    · rintro ⟨hsome, hnone⟩
      rcases Option.isSome_iff_exists.1 hsome with ⟨⟨accepted, rejected⟩, hvalidate⟩
      exact ⟨accepted, rejected, hvalidate, validate_partition hbase hnodup hvalidate hnone⟩
  · rintro d d' saveError answers reply rfl hset
    have hnodup' := nodup_pop hnodup "gpu.mode"
    rcases setConfig_rejects hset with ⟨accepted, rejected, hvalidate, hkept, hrejects⟩
    constructor
    · intro hasked hblames
      rcases blamed_rejected hbase hnodup' hvalidate hblames with ⟨r, hr, k, hk, hrejected, hnot⟩
      rw [mem_keys_pop] at hnot
      refine hnot ⟨hasked _ (hkept _ hrejected), ?_⟩
      -- no cross rule is on the GPU
      intro hgpu
      have hmode : k = .gpuMode := @dotted_injective k .gpuMode hgpu
      subst hmode
      revert r
      decide
    · intro hnone key hrejected
      rcases hrejects key hrejected with hrejected | ⟨-, hmem⟩
      · have hpartition := validate_partition hbase hnodup' hvalidate hnone
        exact ((mem_keys_pop _ _ _).1 (hpartition.asked key (.inr hrejected))).1
      · exact hmem

/-- Ratios that leave too little between recovery and shedding, and too little to the
emergency as well. -/
def ratios : Dict Json :=
  [("governor.recover_ratio", .float (90 / 100)), ("governor.shed_ratio", .float (94 / 100))]

/-- The second rule finds its own key gone and blames the emergency, which was not asked for. -/
theorem emergency_ratio_rejected : Settings.defaults.Valid ∧ (ratios.map Prod.fst).Nodup ∧
    ∃ accepted rejected, validate ratios Settings.defaults = some (accepted, rejected) ∧
      Rejects rejected "governor.emergency_ratio" ∧ ¬ Partition ratios accepted rejected := by
  refine ⟨defaults_valid, by decide, ?_⟩
  have hvalidate : (validate ratios Settings.defaults).map (fun answer => answer.2.map Prod.fst) =
      some ["governor.recover_ratio", "governor.shed_ratio", "governor.emergency_ratio"] := by
    decide +kernel
  rcases Option.map_eq_some_iff.1 hvalidate with ⟨⟨accepted, rejected⟩, heq, hkeys⟩
  have hrejects : Rejects rejected "governor.emergency_ratio" := by
    rw [Rejects, hkeys]
    decide
  refine ⟨accepted, rejected, heq, hrejects, ?_⟩
  intro hpartition
  exact absurd (hpartition.asked _ (.inr hrejects)) (by decide)

/-- One broken rule rejects its updated key alone. -/
theorem partition_shed : ∃ accepted rejected,
    validate [("governor.shed_ratio", .float (95 / 100))] Settings.defaults = some (accepted, rejected) ∧
      Partition [("governor.shed_ratio", .float (95 / 100))] accepted rejected := by
  refine (partition_iff defaults_valid (by decide)).1.2 ⟨?_, ?_⟩
  · intro item hitem
    rw [List.mem_singleton] at hitem
    rw [hitem, ← checkOne_raised_iff]
    decide +kernel
  · intro hchained
    have htwo := hchained.two_le
    revert htwo
    decide +kernel

end TurboMac.Linux
