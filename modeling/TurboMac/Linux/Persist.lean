import TurboMac.Linux.Validate

/-! # A saved configuration is loaded as it was

`save` writes the configuration section by section. `load` flattens the sections
again, finds each of the values to be its own normal form, and no rule broken.
-/

namespace TurboMac.Linux

open Repair GovernorConfig

/-! ## Values -/

/-- `float` is exact on the integers of 53 bits. -/
theorem toFloat_of_lt {n : ℤ} (h : n.natAbs < 2 ^ 53) : toFloat n = some (n : ℚ) := by
  have hshift : Nat.log2 n.natAbs - 52 = 0 := by
    by_cases hzero : n.natAbs = 0
    · rw [hzero]
      decide
    · have hlog := (Nat.log2_lt hzero).2 h
      omega
  have hexact : ¬ (1 < 0 ∨ 0 = 1 ∧ n.natAbs % 2 = 1) := by omega
  have hbound : ¬ 2 ^ 1024 ≤ n.natAbs := by
    intro hle
    have hpow : 2 ^ 53 ≤ n.natAbs := (pow_le_pow_right₀ one_le_two (by decide)).trans hle
    exact absurd hpow (not_le.2 h)
  unfold toFloat
  simp only [hshift, pow_zero, Nat.div_one, Nat.mod_one, mul_zero, mul_one, hexact, if_false]
  rw [if_neg hbound]
  congr 1
  have hsign := congrArg (fun m : ℤ => (m : ℚ)) (Int.sign_mul_natAbs n)
  simpa using hsign

/-- The bounds of an integer setting are far below 53 bits. -/
theorem int_bounds {k : Key} {lo hi : ℚ} (h : k.spec.kind = .int lo hi) : 0 ≤ lo ∧ hi ≤ 8192 := by
  cases k <;> cases h <;> decide +kernel

/-- An integer within such bounds has far fewer than 53 bits. -/
theorem natAbs_of_inRange {lo hi : ℚ} (hbounds : 0 ≤ lo ∧ hi ≤ 8192) {n : ℤ}
    (h : InRange lo hi n) : n.natAbs < 2 ^ 53 := by
  have hlow : (-1 : ℚ) < n := by
    have h1 := h.1
    norm_num [eps] at h1
    linarith [hbounds.1]
  have hhigh : (n : ℚ) < 8193 := by
    have h2 := h.2
    norm_num [eps] at h2
    linarith [hbounds.2]
  have hlow' : -1 < n := by exact_mod_cast hlow
  have hhigh' : n < 8193 := by exact_mod_cast hhigh
  omega

theorem checkRange_of_inRange {k : Key} {lo hi q : ℚ} (h : InRange lo hi q) :
    checkRange k lo hi q = .accepted k (.num q) := if_pos h

/-- What `json.dump` may write for a value: a number that is whole may be an
integer or a float. -/
def Value.Written : Value → Json → Prop
  | .null, .null => True
  | .bool b, .bool b' => b' = b
  | .num q, .int n => n = q
  | .num q, .float q' => q' = q
  | .str s, .str s' => s' = s
  | _, _ => False

theorem Value.written_toJson (v : Value) : v.Written v.toJson := by
  cases v with
  | num q =>
      rw [Value.toJson]
      split
      · rename_i hden
        exact Rat.coe_int_num_of_den_eq_one hden
      · rfl
  | null => trivial
  | bool | str => rfl

/-- An allowed value is written in a form that is read back as itself. -/
theorem checkKey_written {k : Key} {v : Value} {value : Json} (h : k.Allows v)
    (hwritten : v.Written value) : checkKey k value = .accepted k v := by
  unfold Key.Allows at h
  unfold checkKey
  rcases h with ⟨hoptional, rfl⟩ | h
  · -- an optional key without a value is written as `null`
    cases value with
    | null => rw [hoptional]
    | bool | int | float | nan | infinity | str | arr | obj => cases hwritten
  · cases hkind : k.spec.kind with
    | choice arg =>
        rw [hkind] at h
        cases v with
        | str s =>
            cases value with
            | str s' =>
                rw [show s' = s from hwritten]
                cases k.spec.optional <;> simp [show s ∈ arg from h]
            | null | bool | int | float | nan | infinity | arr | obj => cases hwritten
        | null | bool | num => cases h
    | bool =>
        rw [hkind] at h
        cases v with
        | bool b =>
            cases value with
            | bool b' =>
                rw [show b' = b from hwritten]
                cases k.spec.optional <;> rfl
            | null | str | int | float | nan | infinity | arr | obj => cases hwritten
        | null | str | num => cases h
    | num lo hi =>
        rw [hkind] at h
        cases v with
        | num q =>
            have hrange : InRange lo hi q := h
            cases value with
            | int n =>
                have hn : (n : ℚ) = q := hwritten
                cases k.spec.optional <;> simp [hn, checkRange_of_inRange hrange]
            | float q' =>
                have hq : q' = q := hwritten
                cases k.spec.optional <;> simp [hq, checkRange_of_inRange hrange]
            | null | bool | str | nan | infinity | arr | obj => cases hwritten
        | null | bool | str => cases h
    | int lo hi =>
        rw [hkind] at h
        cases v with
        | num q =>
            have hden : q.den = 1 := h.1
            have hrange : InRange lo hi q := h.2
            cases value with
            | int n =>
                have hn : (n : ℚ) = q := hwritten
                -- `float` is exact on integers in the range of the key
                have hsmall : n.natAbs < 2 ^ 53 := natAbs_of_inRange (int_bounds hkind) (hn ▸ hrange)
                cases k.spec.optional <;>
                  simp [toFloat_of_lt hsmall, hn, checkRange_of_inRange hrange]
            | float q' =>
                have hq : q' = q := hwritten
                cases k.spec.optional <;> simp [hq, hden, checkRange_of_inRange hrange]
            | null | bool | str | nan | infinity | arr | obj => cases hwritten
        | null | bool | str => cases h

theorem ofDotted_dotted (k : Key) : Key.ofDotted k.dotted = some k := by
  cases k <;> decide +kernel

theorem dotted_ne (k : Key) : k.dotted ≠ "schema" ∧ k.dotted ≠ "governor.hard_max_w" := by
  cases k <;> decide +kernel

theorem checkOne_written {k : Key} {v : Value} {value : Json} (h : k.Allows v)
    (hwritten : v.Written value) : checkOne k.dotted value = .accepted k v := by
  rw [checkOne, if_neg (dotted_ne k).1, if_neg (dotted_ne k).2, ofDotted_dotted]
  exact checkKey_written h hwritten

/-! ## Flattening -/

/-- A fresh key goes to the end. -/
theorem Dict.set_of_fresh {α : Type} {d : Dict α} {key : String} (value : α)
    (h : key ∉ d.map Prod.fst) : d.set key value = d ++ [(key, value)] := by
  induction d with
  | nil => rfl
  | cons item d ih =>
      rcases item with ⟨k, v⟩
      rw [List.map_cons, List.mem_cons, not_or] at h
      rw [Dict.set, if_neg (Ne.symm h.1), ih h.2, List.cons_append]

theorem flattenValue_written (key : String) {v : Value} {value : Json} (h : v.Written value)
    (out : Dict Json) : flattenValue key value out = out.set key value := by
  cases value with
  | obj => cases v <;> cases h
  | null | bool | int | float | nan | infinity | str | arr => rfl

/-- The items of a section, with what is written for each key. -/
def items (written : Key → Json) (ks : List Key) : Dict Json := ks.map fun k => (k.dotted, written k)

/-- A section with what is written for each of its keys. -/
def sectionJson (written : Key → Json) (s : Section) : Json :=
  .obj ((Key.all.filter fun k => k.section_ = s).map fun k => (k.name, written k))

/-- The whole file. -/
def configJson (written : Key → Json) : Json :=
  .obj (("schema", .int 1) :: Section.all.map fun s => (s.name, sectionJson written s))

/-- The items of a section of a configuration. -/
def Settings.items (c : Settings) (ks : List Key) : Dict Json := ks.map fun k => (k.dotted, (c k).toJson)

/-- The keys of a section. -/
def Section.keys (s : Section) : List Key := Key.all.filter fun k => k.section_ = s

section

variable {c : Settings} {written : Key → Json} (hwritten : ∀ k, (c k).Written (written k))

include hwritten

theorem flattenMembers_section (pre : String) (ks : List Key) (out : Dict Json)
    (hpre : ∀ k ∈ ks, pre ++ k.name = k.dotted)
    (hfresh : (out.map Prod.fst ++ ks.map Key.dotted).Nodup) :
    flattenMembers pre (ks.map fun k => (k.name, written k)) out = out ++ items written ks := by
  induction ks generalizing out with
  | nil => simp [flattenMembers, items]
  | cons k ks ih =>
      have hkey : k.dotted ∉ out.map Prod.fst := by
        intro hmem
        exact (List.nodup_append.1 hfresh).2.2 _ hmem _ (by simp) rfl
      rw [List.map_cons, flattenMembers, flattenItem, hpre k List.mem_cons_self,
        flattenValue_written _ (hwritten k), Dict.set_of_fresh _ hkey, ih]
      · simp [items]
      · intro k' hk'
        exact hpre k' (List.mem_cons_of_mem _ hk')
      · simpa [List.append_assoc] using hfresh

theorem flattenMembers_sections (ss : List Section) (out : Dict Json)
    (hfresh : (out.map Prod.fst ++ (ss.flatMap Section.keys).map Key.dotted).Nodup) :
    flattenMembers "" (ss.map fun s => (s.name, sectionJson written s)) out =
      out ++ items written (ss.flatMap Section.keys) := by
  induction ss generalizing out with
  | nil => simp [flattenMembers, items]
  | cons s ss ih =>
      have hhead : (out.map Prod.fst ++ s.keys.map Key.dotted).Nodup := by
        rw [List.flatMap_cons, List.map_append, ← List.append_assoc] at hfresh
        exact (List.nodup_append.1 hfresh).1
      have hpre : ∀ k ∈ s.keys, s.name ++ "." ++ k.name = k.dotted := by
        intro k hk
        have hsection : k.section_ = s := by simpa [Section.keys] using (List.mem_filter.1 hk).2
        rw [Key.dotted, hsection]
      rw [List.map_cons, flattenMembers, flattenItem, String.empty_append, sectionJson,
        flattenValue]
      rw [show (Key.all.filter fun k => k.section_ = s) = s.keys from rfl,
        flattenMembers_section hwritten _ s.keys out hpre hhead, ih]
      · simp [items]
      · simpa [items, List.append_assoc, Function.comp_def] using hfresh

omit hwritten in
theorem sections_keys : Section.all.flatMap Section.keys = Key.all := by decide

/-- What `flatten` makes of a saved configuration. -/
theorem flatten_saved :
    flatten (("schema", .int 1) :: Section.all.map fun s => (s.name, sectionJson written s)) =
      ("schema", .int 1) :: items written Key.all := by
  have hfresh : ((([("schema", .int 1)] : Dict Json).map Prod.fst) ++
      (Section.all.flatMap Section.keys).map Key.dotted).Nodup := by
    rw [sections_keys]
    decide +kernel
  rw [flatten, flattenMembers, flattenItem, String.empty_append, flattenValue]
  · rw [show Dict.set [] "schema" (Json.int 1) = [("schema", Json.int 1)] from rfl,
      flattenMembers_sections hwritten Section.all _ hfresh, sections_keys, List.singleton_append]
  · intro members h
    cases h

/-! ## The round trip -/

theorem checkAll_items (h : ∀ k : Key, k.Allows (c k)) (ks : List Key)
    (accepted : Key → Option Value) (rejected : Dict Reason) :
    checkAll (items written ks) accepted rejected =
      some (fun k => if k ∈ ks then some (c k) else accepted k, rejected) := by
  induction ks generalizing accepted with
  | nil => simp [items, checkAll]
  | cons k ks ih =>
      rw [items, List.map_cons, checkAll, checkOne_written (h k) (hwritten k)]
      dsimp only
      rw [show List.map (fun k => (k.dotted, written k)) ks = items written ks from rfl, ih]
      congr 2
      funext k'
      by_cases hk' : k' ∈ ks
      · simp [hk']
      · by_cases hk : k' = k
        · simp [hk]
        · simp [hk, hk']

/-- A file with a valid configuration is read as it, without a problem. -/
theorem fromDict_configJson (h : c.Valid) : fromDict (configJson written) = some (c, []) := by
  have hmerge : merge Settings.defaults (fun k => some (c k)) = c := rfl
  have hcheck : checkAll (flatten (("schema", .int 1) ::
      Section.all.map fun s => (s.name, sectionJson written s))) noUpdate [] =
      some (fun k => some (c k), []) := by
    rw [flatten_saved hwritten, checkAll]
    simp only [checkOne, if_true, Json.isSchema, decide_true]
    rw [checkAll_items hwritten h.allows]
    congr 2
    funext k
    rw [if_pos (Key.mem_all k)]
  simp only [configJson, fromDict, validate, hcheck, Option.map_some]
  rw [settle_of_ok]
  · rw [applyUpdates, hmerge]
  · rw [hmerge]
    exact h.rules

end

theorem load_save {c : Settings} (h : c.Valid) : load (save c) = some (c, []) :=
  fromDict_configJson (fun k => (c k).written_toJson) h

end TurboMac.Linux
