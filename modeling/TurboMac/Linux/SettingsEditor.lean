import TurboMac.Lib.Python
import TurboMac.Linux.Validate

/-! # The settings editor

`editor_value` and `parse` of the settings screen: what an editor holds for a
value of the configuration, and what Enter sends of it. A number is shown with
six significant digits, and what is shown is sent. A float stands for the decimal
that `repr` writes for it.
-/

namespace TurboMac.Linux

open Python Decimal

/-- `NULL`, the choice that leaves a key alone. -/
def nullChoice : String := "__null__"

/-- `editor_value`; none for a number where the editor offers choices, which is
handed on as it is. A decimal halfway between two of six digits goes to the even one
here, and to the one nearer to its double in the source; neither is the decimal. -/
def editorValue (k : Key) (v : Value) : Option String :=
  match k.spec.kind, v with
  | .choice _, .null | .bool, .null => some nullChoice
  | .choice _, .bool b | .bool, .bool b => some (if b then "true" else "false")
  | .choice _, .str s | .bool, .str s => some s
  | .choice _, .num _ | .bool, .num _ => none
  | _, .null => some ""
  | _, .num q => some (String.ofList (general 6 q))
  | _, .bool b => some (if b then "True" else "False")
  | _, .str s => some s

/-- What `parse` makes of a number: an `int` if it is one. -/
def fromFloat : Python.Float → Json
  | .finite q => if q.den = 1 then .int q.num else .float q
  | .infinity negative => .infinity negative
  | .nan => .nan

/-- `parse`. -/
def parse (k : Key) (raw : String) : Json :=
  if raw = nullChoice then .null
  else
    match k.spec.kind with
    | .bool => if raw = "true" then .bool true else if raw = "false" then .bool false else .str raw
    | .choice _ => .str raw
    | _ =>
      let text := strip raw.toList
      if text = [] ∧ k.spec.optional then .null
      else
        match float text with
        | none => .str (String.ofList text)
        | some v => fromFloat v

/-- What Enter sends for a value that has not been edited. -/
def resubmitted (k : Key) (v : Value) : Option Json := (editorValue k v).map (parse k)

/-! ## Numbers -/

section

variable {k : Key} {q lo hi : ℚ}

theorem strip_general (q : ℚ) : strip (general 6 q) = general 6 q := by
  apply strip_eq
  · exact fun c hc => isSpace_of_isNumeral (isNumeral_general 6 q c (List.mem_of_mem_head? hc))
  · exact fun c hc => isSpace_of_isNumeral (isNumeral_general 6 q c (List.mem_of_mem_getLast? hc))

theorem general_ne_nullChoice (q : ℚ) : String.ofList (general 6 q) ≠ nullChoice := by
  intro heq
  have hmem : '_' ∈ general 6 q := by
    have hlist := congrArg String.toList heq
    rw [String.toList_ofList] at hlist
    rw [hlist]
    decide
  exact absurd (isNumeral_general 6 q '_' hmem) (by decide)

theorem toJson_num_inj {q r : ℚ} : (Value.num q).toJson = (Value.num r).toJson ↔ q = r := by
  refine ⟨fun h => ?_, fun h => h ▸ rfl⟩
  unfold Value.toJson at h
  dsimp only at h
  split at h
  · rename_i hq
    split at h
    · rename_i hr
      have hnum : q.num = r.num := by simpa using h
      rw [← Rat.coe_int_num_of_den_eq_one hq, ← Rat.coe_int_num_of_den_eq_one hr, hnum]
    · cases h
  · split at h
    · cases h
    · simpa using h

/-- No bound of `SPEC` is negative or above 8192. -/
theorem spec_bounds (hkind : k.spec.kind = .num lo hi ∨ k.spec.kind = .int lo hi) :
    0 ≤ lo ∧ hi ≤ 8192 := by
  cases k
  all_goals
    simp [Key.spec] at hkind
    try
      obtain ⟨rfl, rfl⟩ := hkind
      norm_num

theorem abs_le_of_inRange (hkind : k.spec.kind = .num lo hi ∨ k.spec.kind = .int lo hi)
    (hrange : GovernorConfig.InRange lo hi q) : |q| ≤ 8193 := by
  obtain ⟨hlow, hhigh⟩ := spec_bounds hkind
  obtain ⟨hle, hge⟩ := hrange
  have heps : eps = 1 / 1000000000 := rfl
  rw [abs_le]
  constructor
  · linarith
  · linarith

/-- Text of a number comes back as the number that it shows. -/
theorem parse_general {r : ℚ} (hkind : k.spec.kind = .num lo hi ∨ k.spec.kind = .int lo hi)
    (hread : toRat (general 6 q) = some r) (hbound : |q| ≤ 8193) :
    parse k (String.ofList (general 6 q)) = (Value.num r).toJson := by
  have hfloat : float (general 6 q) = some (.finite r) := by
    apply float_eq (isNumeral_general 6 q) hread
    have hle := abs_toRat_general_le (by omega) hread
    have hlimit : (81930 : ℚ) < floatBound := by decide +kernel
    linarith
  have hne : ¬ (general 6 q = [] ∧ k.spec.optional = true) := fun h => general_ne_nil 6 q h.1
  unfold parse
  rw [if_neg (general_ne_nullChoice q), String.toList_ofList, strip_general]
  rcases hkind with hkind | hkind
  · rw [hkind]
    dsimp only
    rw [if_neg hne, hfloat]
    rfl
  · rw [hkind]
    dsimp only
    rw [if_neg hne, hfloat]
    rfl

/-- A number comes back as it was if and only if it has no more than six digits. -/
theorem resubmitted_num_iff (hkind : k.spec.kind = .num lo hi ∨ k.spec.kind = .int lo hi)
    (hrange : GovernorConfig.InRange lo hi q) :
    resubmitted k (.num q) = some (Value.num q).toJson ↔ HasDigits 6 q := by
  have hread := @toRat_general 6 q (by omega)
  generalize (if q = 0 then 0 else if q < 0 then -significantValue 6 |q|
    else significantValue 6 |q|) = r at hread
  have hparse := parse_general hkind hread (abs_le_of_inRange hkind hrange)
  have heditor : editorValue k (.num q) = some (String.ofList (general 6 q)) := by
    unfold editorValue
    rcases hkind with hkind | hkind
    · rw [hkind]
    · rw [hkind]
  rw [resubmitted, heditor, Option.map_some, hparse, Option.some.injEq, toJson_num_inj,
    ← toRat_general_iff (by omega), hread, Option.some.injEq]

/-- An integer key loses nothing. -/
theorem resubmitted_int (hkind : k.spec.kind = .int lo hi) (hden : q.den = 1)
    (hrange : GovernorConfig.InRange lo hi q) :
    resubmitted k (.num q) = some (Value.num q).toJson := by
  have hle := abs_le_of_inRange (.inr hkind) hrange
  rw [resubmitted_num_iff (.inr hkind) hrange]
  have hnum : (q.num : ℚ) = q := Rat.coe_int_num_of_den_eq_one hden
  refine ⟨q.num, 0, ?_, by rw [zpow_zero, mul_one, hnum]⟩
  have hcast : ((|q.num| : ℤ) : ℚ) < 10 ^ 6 := by
    push_cast
    rw [hnum]
    linarith
  exact_mod_cast hcast

/-- No choice is called like the one that leaves a key alone. -/
theorem nullChoice_not_mem {arg : List String} (hkind : k.spec.kind = .choice arg) :
    nullChoice ∉ arg := by
  cases k
  all_goals
    simp [Key.spec, eppChoices] at hkind
    try
      subst hkind
      decide

theorem resubmitted_choice {arg : List String} {s : String} (hkind : k.spec.kind = .choice arg)
    (hmem : s ∈ arg) : resubmitted k (.str s) = some (.str s) := by
  have hne : s ≠ nullChoice := fun heq => nullChoice_not_mem hkind (heq ▸ hmem)
  unfold resubmitted editorValue
  rw [hkind]
  dsimp only
  unfold parse
  rw [Option.map_some, if_neg hne, hkind]

theorem resubmitted_bool (hkind : k.spec.kind = .bool) (b : Bool) :
    resubmitted k (.bool b) = some (.bool b) := by
  unfold resubmitted editorValue
  rw [hkind]
  cases b with
  | true =>
      unfold parse
      rw [Option.map_some, hkind]
      rfl
  | false =>
      unfold parse
      rw [Option.map_some, hkind]
      rfl

/-- `None` comes back from every editor of a key that may be left alone. -/
theorem resubmitted_null (hoptional : k.spec.optional = true) : resubmitted k .null = some .null := by
  cases k
  all_goals
    first
    | exact absurd hoptional (by decide)
    | rfl

end

/-- A value that has not been edited is sent as it is, except for a number of more
than six significant digits. -/
theorem resubmitted_eq_iff {key : String} {value : Json} {k : Key} {v : Value}
    (h : checkOne key value = .accepted k v) :
    resubmitted k v = some v.toJson ↔ ∀ q, v = .num q → HasDigits 6 q := by
  obtain ⟨-, ⟨hoptional, rfl⟩ | hallows⟩ := checkOne_accepted h
  · exact ⟨fun _ q hq => (by cases hq), fun _ => resubmitted_null hoptional⟩
  split at hallows
  · rename_i hkind
    exact ⟨fun _ q hq => (by cases hq), fun _ => resubmitted_choice hkind hallows⟩
  · rename_i hkind
    rw [resubmitted_num_iff (.inl hkind) hallows]
    simp
  · rename_i hkind
    rw [resubmitted_num_iff (.inr hkind) hallows.2]
    simp
  · rename_i hkind
    exact ⟨fun _ q hq => (by cases hq), fun _ => resubmitted_bool hkind _⟩
  · exact hallows.elim

theorem resubmitted_eq_iff_default :
    resubmitted .governorShedRatio (.num (88 / 100)) = some (Value.num (88 / 100)).toJson := by
  refine (@resubmitted_eq_iff "governor.shed_ratio" (.float (88 / 100)) _ _ (by decide +kernel)).mpr ?_
  rintro q hq
  obtain rfl := Value.num.inj hq
  exact ⟨88, -2, by decide, by norm_num⟩

/-- A ceiling of 38.123456 W is shown, and sent, as 38.1235 W. -/
theorem resubmitted_ceiling :
    checkOne "governor.ceiling_w" (.float (38123456 / 1000000)) =
        .accepted .governorCeilingW (.num (38123456 / 1000000)) ∧
      editorValue .governorCeilingW (.num (38123456 / 1000000)) = some "38.1235" ∧
      parse .governorCeilingW "38.1235" = .float (381235 / 10000) ∧
      resubmitted .governorCeilingW (.num (38123456 / 1000000)) ≠
        some (Value.num (38123456 / 1000000)).toJson := by
  have heditor : editorValue .governorCeilingW (.num (38123456 / 1000000)) = some "38.1235" := by
    decide +kernel
  have hfloat : float (strip "38.1235".toList) = some (.finite (381235 / 10000)) := by decide +kernel
  have hparse : parse .governorCeilingW "38.1235" = .float (381235 / 10000) := by
    have hne : "38.1235" ≠ nullChoice := by decide
    have hempty : ¬ (strip "38.1235".toList = [] ∧ Key.governorCeilingW.spec.optional = true) := by
      decide +kernel
    have hden : (381235 / 10000 : ℚ).den ≠ 1 := by decide +kernel
    unfold parse
    rw [if_neg hne]
    show (if _ then _ else _) = _
    rw [if_neg hempty, hfloat]
    exact if_neg hden
  refine ⟨by decide +kernel, heditor, hparse, ?_⟩
  have hjson : (Value.num (38123456 / 1000000)).toJson = .float (38123456 / 1000000) :=
    if_neg (by decide +kernel)
  rw [resubmitted, heditor, Option.map_some, hparse, hjson]
  intro heq
  have hequal := Json.float.inj (Option.some.inj heq)
  norm_num at hequal

end TurboMac.Linux
