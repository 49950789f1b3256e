import TurboMac.Linux.Settings

/-! # What `validate` guarantees

`Settings.Valid` is the invariant of a live configuration: every value is one
that `SPEC` allows, and no cross rule is broken. `validate` keeps it, `load`
establishes it, and a saved valid configuration is loaded as it was.
-/

namespace TurboMac.Linux

open Repair GovernorConfig

/-- What `SPEC` allows a key, bounds up to `_EPS`. -/
def Key.Allows (k : Key) (v : Value) : Prop :=
  k.spec.optional = true ∧ v = .null ∨
    match k.spec.kind, v with
    | .choice arg, .str s => s ∈ arg
    | .num lo hi, .num q => InRange lo hi q
    | .int lo hi, .num q => q.den = 1 ∧ InRange lo hi q
    | .bool, .bool _ => True
    | _, _ => False

instance (k : Key) (v : Value) : Decidable (k.Allows v) := by
  unfold Key.Allows
  have : Decidable (match k.spec.kind, v with
      | .choice arg, .str s => s ∈ arg
      | .num lo hi, .num q => InRange lo hi q
      | .int lo hi, .num q => q.den = 1 ∧ InRange lo hi q
      | .bool, .bool _ => True
      | _, _ => False) := by
    split <;> infer_instance
  infer_instance

/-- Every `SPEC` bound and every cross rule. -/
structure Settings.Valid (c : Settings) : Prop where
  allows : ∀ k : Key, k.Allows (c k)
  rules : ∀ r ∈ crossRules, r.ok c = true

/-- The defaults pass their own check. -/
theorem defaults_valid : Settings.defaults.Valid := by
  constructor
  · intro k
    cases k <;> decide +kernel
  · decide +kernel

/-! ## `_check_one` -/

theorem checkRange_accepted {k k' : Key} {lo hi q : ℚ} {v : Value}
    (h : checkRange k lo hi q = .accepted k' v) : k' = k ∧ v = .num q ∧ InRange lo hi q := by
  unfold checkRange at h
  split at h
  · rename_i hrange
    cases h
    exact ⟨rfl, rfl, hrange⟩
  · cases h

/-- An accepted value is one that `SPEC` allows. -/
theorem checkKey_accepted {k k' : Key} {value : Json} {v : Value}
    (h : checkKey k value = .accepted k' v) : k' = k ∧ k.Allows v := by
  unfold checkKey at h
  unfold Key.Allows
  split at h
  · -- an optional `None`
    rename_i hoptional
    cases h
    exact ⟨rfl, .inl ⟨hoptional, rfl⟩⟩
  · -- a choice
    rename_i hkind
    split at h
    · rename_i hmem
      cases h
      rw [hkind]
      exact ⟨rfl, .inr hmem⟩
    · cases h
  · cases h
  · -- a Boolean
    rename_i hkind
    cases h
    rw [hkind]
    exact ⟨rfl, .inr trivial⟩
  · cases h
  · -- a number, given as an integer or not
    rename_i hkind
    rcases checkRange_accepted h with ⟨rfl, rfl, hrange⟩
    rw [hkind]
    exact ⟨rfl, .inr hrange⟩
  · rename_i hkind
    rcases checkRange_accepted h with ⟨rfl, rfl, hrange⟩
    rw [hkind]
    exact ⟨rfl, .inr hrange⟩
  · cases h
  · -- an integer that `float` may round
    rename_i hkind
    split at h
    · cases h
    · split at h
      · cases h
      · rcases checkRange_accepted h with ⟨rfl, rfl, hrange⟩
        rw [hkind]
        exact ⟨rfl, .inr ⟨rfl, hrange⟩⟩
  · -- an integer, given as a float
    rename_i hkind
    split at h
    · cases h
    · rename_i hden
      rcases checkRange_accepted h with ⟨rfl, rfl, hrange⟩
      rw [hkind]
      exact ⟨rfl, .inr ⟨not_not.1 hden, hrange⟩⟩
  · cases h
  · cases h

theorem ofDotted_some {key : String} {k : Key} (h : Key.ofDotted key = some k) : k.dotted = key := by
  simpa using List.find?_some h

theorem checkOne_accepted {key : String} {value : Json} {k : Key} {v : Value}
    (h : checkOne key value = .accepted k v) : k.dotted = key ∧ k.Allows v := by
  unfold checkOne at h
  split at h
  · split at h <;> cases h
  · split at h
    · cases h
    · split at h
      · cases h
      · rename_i k' hkey
        rcases checkKey_accepted h with ⟨rfl, hallows⟩
        exact ⟨ofDotted_some hkey, hallows⟩

/-! ## `validate` -/

/-- Every accepted value is one that `SPEC` allows. -/
def Allowed (accepted : Key → Option Value) : Prop := ∀ k v, accepted k = some v → k.Allows v

theorem allowed_noUpdate : Allowed noUpdate := by
  intro k v h
  cases h

theorem checkAll_allowed {updates : Dict Json} {accepted accepted' : Key → Option Value}
    {rejected rejected' : Dict Reason} (h : Allowed accepted)
    (hcheck : checkAll updates accepted rejected = some (accepted', rejected')) :
    Allowed accepted' := by
  induction updates generalizing accepted rejected with
  | nil =>
      cases hcheck
      exact h
  | cons item updates ih =>
      rcases item with ⟨key, value⟩
      rw [checkAll] at hcheck
      split at hcheck
      · rename_i k v hone
        refine ih ?_ hcheck
        intro k' v' hk'
        by_cases hk : k' = k
        · subst hk
          rw [Function.update_self] at hk'
          cases hk'
          exact (checkOne_accepted hone).2
        · rw [Function.update_of_ne hk] at hk'
          exact h k' v' hk'
      · exact ih h hcheck
      · exact ih h hcheck
      · cases hcheck

theorem local_crossRules : ∀ r ∈ crossRules, r.Local := by
  have hrule : ∀ a b rel reason, (crossRule a b rel reason).Local := by
    intro a b rel reason c c' hsame
    have ha : c a = c' a := hsame a (by simp [crossRule])
    have hb : c b = c' b := hsame b (by simp [crossRule])
    simp only [crossRule, ha, hb]
  have hthermal : thermalRule.Local := by
    intro c c' hsame
    have hrecover := hsame .governorThermalRecoverC (by decide)
    have htrim := hsame .governorThermalTrimC (by decide)
    simp only [thermalRule, hrecover, htrim]
  intro r hr
  simp only [crossRules, List.mem_cons, List.not_mem_nil, or_false] at hr
  rcases hr with rfl | rfl | rfl | rfl | rfl | rfl | rfl | rfl
  all_goals first | exact hrule _ _ _ _ | exact hthermal

/-- Merged over a valid base, what is accepted is valid: the rounds that `validate`
allows are enough to leave no rule broken. -/
theorem validate_valid {updates : Dict Json} {base : Settings} (hbase : base.Valid)
    {accepted : Key → Option Value} {rejected : Dict Reason}
    (h : validate updates base = some (accepted, rejected)) : (applyUpdates base accepted).Valid := by
  unfold validate at h
  rw [Option.map_eq_some_iff] at h
  rcases h with ⟨⟨checked, checkedRejected⟩, hcheck, hsettle⟩
  dsimp only at hsettle
  have hallowed := checkAll_allowed allowed_noUpdate hcheck
  constructor
  · intro k
    cases hk : accepted k with
    | none =>
        rw [applyUpdates, merge_of_none hk]
        exact hbase.allows k
    | some v =>
        rw [applyUpdates, merge_of_some hk]
        apply hallowed k v
        -- settling only takes keys out of what was checked
        apply settle_accepted
        rw [hsettle]
        exact hk
  · intro r hr
    have hok := settle_length_ok local_crossRules hbase.rules rejectRule checked checkedRejected r hr
    rw [hsettle] at hok
    exact hok

theorem fromDict_valid {raw : Json} {c : Settings} {problems : Dict Reason}
    (h : fromDict raw = some (c, problems)) : c.Valid := by
  unfold fromDict at h
  split at h
  · rw [Option.map_eq_some_iff] at h
    rcases h with ⟨⟨accepted, rejected⟩, hvalidate, heq⟩
    cases heq
    exact validate_valid defaults_valid hvalidate
  · cases h
    exact defaults_valid

/-- Whatever the file holds, what is loaded is valid. -/
theorem load_valid {file : File} {c : Settings} {problems : Dict Reason}
    (h : load file = some (c, problems)) : c.Valid := by
  cases file with
  | missing =>
      cases h
      exact defaults_valid
  | unreadable exc =>
      cases h
      exact defaults_valid
  | json raw => exact fromDict_valid h

/-! ## The governor's section -/

section

variable {c : Settings} {k : Key} {lo hi : ℚ}

/-- `cfg["governor"]`. -/
def Settings.governor (c : Settings) : GovernorConfig where
  mode :=
    match c .governorMode with
    | .str "off" => .off
    | .str "dynamic" => .dynamic
    | _ => .static
  staticCapW := (c .governorStaticCapW).number
  ceilingW := (c .governorCeilingW).number
  floorW := (c .governorFloorW).number
  burstW := (c .governorBurstW).number
  shedRatio := (c .governorShedRatio).number
  emergencyRatio := (c .governorEmergencyRatio).number
  recoverRatio := (c .governorRecoverRatio).number
  cutStepW := (c .governorCutStepW).number
  recoverStepW := (c .governorRecoverStepW).number
  recoverIntervalS := (c .governorRecoverIntervalS).number
  staleTimeoutS := (c .governorStaleTimeoutS).number
  thermalTrimC :=
    match c .governorThermalTrimC with
    | .num q => some q
    | _ => none
  thermalRecoverC := (c .governorThermalRecoverC).number
  thermalStepW := (c .governorThermalStepW).number
  thermalIntervalS := (c .governorThermalIntervalS).number

/-- The number of a key that `SPEC` gives a range. -/
theorem Settings.Valid.inRange (h : c.Valid) (hspec : k.spec = ⟨.num lo hi, false⟩) :
    InRange lo hi (c k).number := by
  have hallows := h.allows k
  unfold Key.Allows at hallows
  rw [hspec] at hallows
  have hkind := hallows.resolve_left (by simp)
  cases hvalue : c k with
  | num q =>
      rw [hvalue] at hkind
      exact hkind
  | null | bool | str =>
      rw [hvalue] at hkind
      cases hkind

/-- A valid configuration has a governor section that the governor may rely on. -/
theorem Settings.Valid.governor_validated (h : c.Valid) : c.governor.Validated := by
  have hrule : ∀ r ∈ crossRules, r.ok c = true := h.rules
  have htrim : ∀ t, c.governor.thermalTrimC = some t → c .governorThermalTrimC = .num t := by
    intro t ht
    simp only [Settings.governor] at ht
    split at ht
    · rename_i q hvalue
      cases ht
      exact hvalue
    · cases ht
  constructor
  case thermalTrimC =>
    intro t ht
    have hallows := h.allows .governorThermalTrimC
    rw [htrim t ht] at hallows
    exact (hallows.resolve_left (by simp))
  case staticCapW_le_ceilingW => exact of_decide_eq_true (hrule _ (@List.mem_of_getElem? _ _ 0 _ rfl))
  case recoverRatio_le => exact of_decide_eq_true (hrule _ (@List.mem_of_getElem? _ _ 1 _ rfl))
  case emergencyRatio_ge => exact of_decide_eq_true (hrule _ (@List.mem_of_getElem? _ _ 2 _ rfl))
  case thermalRecoverC_le =>
    intro t ht
    have hok := of_decide_eq_true (hrule thermalRule (@List.mem_of_getElem? _ _ 3 _ rfl))
    rw [htrim t ht] at hok
    exact hok.resolve_left (by simp)
  all_goals exact h.inRange rfl

end

end TurboMac.Linux
