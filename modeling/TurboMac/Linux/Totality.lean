import TurboMac.Linux.Store

/-! # Where validation raises

`_check_one` answers every value with a reason, but for the integer keys it first asks
whether `float(value) == int(value)`. Of an infinity there is no `int`, and of an integer
that rounds to 2^1024 no `float`.
-/

namespace TurboMac.Linux

/-! ## `float` -/

/-- The middle between the greatest double and 2^1024. -/
def floatLimit : ℕ := 2 ^ 1024 - 2 ^ 970

theorem two_pow_le {i n : ℕ} (h : i ≤ n) : 2 ^ i ≤ 2 ^ n := Nat.pow_le_pow_right (by decide) h

theorem two_pow_le_mul {i m n : ℕ} (h : i ≤ m + n) : 2 ^ i ≤ 2 ^ m * 2 ^ n := by
  rw [← pow_add]
  exact two_pow_le h

theorem two_pow_mul_le {i m n : ℕ} (h : m + n ≤ i) : 2 ^ m * 2 ^ n ≤ 2 ^ i := by
  rw [← pow_add]
  exact two_pow_le h

theorem two_pow_mul_lt {i m n : ℕ} (h : m + n < i) : 2 ^ m * 2 ^ n < 2 ^ i := by
  rw [← pow_add]
  exact Nat.pow_lt_pow_right (by decide) h

/-- The quotient that `float` keeps of a magnitude has 53 bits. -/
theorem quotient_lt (a : ℕ) : a / 2 ^ (Nat.log2 a - 52) < 2 ^ 53 := by
  rw [Nat.div_lt_iff_lt_mul (by positivity)]
  have hlog : a < 2 ^ (Nat.log2 a + 1) := Nat.lt_log2_self
  exact hlog.trans_le (two_pow_le_mul (by omega))

/-- And all of them, unless it is exact. -/
theorem le_quotient {a : ℕ} (ha : 52 ≤ Nat.log2 a) : 2 ^ 52 ≤ a / 2 ^ (Nat.log2 a - 52) := by
  have hpos : a ≠ 0 := by
    rintro rfl
    cases ha
  rw [Nat.le_div_iff_mul_le (by positivity), ← pow_add]
  have heq : 52 + (Nat.log2 a - 52) = Nat.log2 a := by omega
  rw [heq]
  exact Nat.log2_self_le hpos

/-- Rounded to 53 bits, a magnitude of 1024 bits reaches 2^1024 from the middle on. -/
theorem rounded_iff {a q r p h : ℕ} (ha : a = p * q + r) (hr : r < p) (hp : p = 2 * h) (hq : q < 2 ^ 53) :
    2 ^ 53 ≤ (if p < 2 * r ∨ (2 * r = p ∧ q % 2 = 1) then q + 1 else q) ↔ 2 ^ 54 * h - h ≤ a := by
  have hq' : q ≤ 2 ^ 53 - 1 := by omega
  rcases Nat.lt_or_eq_of_le hq' with hlt | rfl
  · -- below the last quotient
    have hle : p * q ≤ p * (2 ^ 53 - 2) := Nat.mul_le_mul_left p (by omega)
    constructor
    · intro hround
      split at hround <;> omega
    · intro hlimit
      omega
  · split
    · rename_i hup
      constructor
      · intro _
        omega
      · intro _
        omega
    · rename_i hdown
      constructor
      · intro hround
        omega
      · intro hlimit
        omega

/-- `float(n)` overflows from there on. -/
theorem toFloat_eq_none_iff (n : ℤ) : toFloat n = none ↔ floatLimit ≤ n.natAbs := by
  have hsmall : ∀ a h : ℕ, 0 < h → a < 2 ^ 53 * h → ¬ 2 ^ 54 * h - h ≤ a := by omega
  unfold toFloat floatLimit
  dsimp only
  generalize n.natAbs = a
  have hquotient := quotient_lt a
  have hsplit := (Nat.div_add_mod a (2 ^ (Nat.log2 a - 52))).symm
  have hrest : a % 2 ^ (Nat.log2 a - 52) < 2 ^ (Nat.log2 a - 52) := Nat.mod_lt _ (by positivity)
  have hlog : a < 2 ^ (Nat.log2 a + 1) := Nat.lt_log2_self
  simp only [ite_eq_left_iff, reduceCtorEq, imp_false, not_not]
  have hmiddle : 2 ^ 1024 - 2 ^ 970 = 2 ^ 54 * 2 ^ 970 - 2 ^ 970 := by
    rw [← pow_add]
  rw [hmiddle]
  rcases Nat.lt_trichotomy (Nat.log2 a) 1023 with hlow | heq | hhigh
  · -- too small to be rounded up that far
    have ha : a < 2 ^ 53 * 2 ^ 970 := hlog.trans_le (@two_pow_le_mul _ 53 970 (by omega))
    have hshift : 2 ^ (Nat.log2 a - 52) ≤ 2 ^ 970 := @two_pow_le _ 970 (by omega)
    have hround : ∀ rounded ≤ 2 ^ 53, rounded * 2 ^ (Nat.log2 a - 52) ≤ 2 ^ 53 * 2 ^ 970 :=
      fun rounded h => Nat.mul_le_mul h hshift
    have hlast : 2 ^ 53 * 2 ^ 970 < 2 ^ 1024 := @two_pow_mul_lt 1024 53 970 (by decide)
    refine iff_of_false (not_le.2 ((hround _ ?_).trans_lt hlast)) (hsmall a _ (by positivity) ha)
    split <;> omega
  · have hpow : 2 ^ 1024 = 2 ^ 53 * 2 ^ 971 := by
      rw [← pow_add]
    have hdouble : 2 ^ 971 = 2 * 2 ^ 970 := by
      rw [← pow_succ']
    have hshift : Nat.log2 a - 52 = 971 := by omega
    rw [hshift] at hquotient hsplit hrest ⊢
    rw [hpow, Nat.mul_le_mul_right_iff (by positivity)]
    exact rounded_iff hsplit hrest hdouble hquotient
  · -- too large already
    have hle : 2 ^ 54 * 2 ^ 970 ≤ a := by
      have hpos : a ≠ 0 := by
        rintro rfl
        cases hhigh
      exact (@two_pow_mul_le _ 54 970 (by omega)).trans (Nat.log2_self_le hpos)
    have hround : ∀ rounded, 2 ^ 52 ≤ rounded → 2 ^ 1024 ≤ rounded * 2 ^ (Nat.log2 a - 52) := by
      intro rounded h
      exact (two_pow_le_mul (by omega)).trans (Nat.mul_le_mul_right _ h)
    refine iff_of_true (hround _ ?_) (Nat.sub_le_of_le_add (hle.trans (Nat.le_add_right _ _)))
    have hquotient' := @le_quotient a (by omega)
    split <;> omega

/-! ## `_check_one` -/

/-- A number that `float` or `int` does not take. -/
def Json.Overflows : Json → Prop
  | .infinity _ => True
  | .int n => floatLimit ≤ n.natAbs
  | _ => False

theorem Json.Overflows.cases {value : Json} (h : value.Overflows) :
    (∃ n, value = .int n) ∨ ∃ negative, value = .infinity negative := by
  cases value with
  | int n => exact .inl ⟨n, rfl⟩
  | infinity negative => exact .inr ⟨negative, rfl⟩
  | null | bool | float | nan | str | arr | obj => exact absurd h id

/-- A key of an integer. -/
def Key.IsInt (k : Key) : Prop := ∃ lo hi, k.spec.kind = .int lo hi

theorem checkRange_ne_raised (k : Key) (lo hi q : ℚ) : checkRange k lo hi q ≠ .raised := by
  unfold checkRange
  split
  · exact Checked.noConfusion
  · exact Checked.noConfusion

theorem checkKey_raised_iff (k : Key) (value : Json) :
    checkKey k value = .raised ↔ k.IsInt ∧ value.Overflows := by
  -- a key of another kind
  have hother : ∀ {checked : Checked}, checked ≠ .raised → (∀ lo hi, k.spec.kind ≠ .int lo hi) →
      (checked = .raised ↔ k.IsInt ∧ value.Overflows) := by
    intro checked hchecked hkind
    refine iff_of_false hchecked ?_
    rintro ⟨⟨lo, hi, hint⟩, -⟩
    exact hkind lo hi hint
  unfold checkKey
  split
  · simp [Json.Overflows]
  · rename_i hkind
    apply hother
    · split <;> exact Checked.noConfusion
    · simp [hkind]
  · rename_i hkind _
    exact hother Checked.noConfusion (by simp [hkind])
  · rename_i hkind
    exact hother Checked.noConfusion (by simp [hkind])
  · rename_i hkind _
    exact hother Checked.noConfusion (by simp [hkind])
  · rename_i hkind
    exact hother (checkRange_ne_raised _ _ _ _) (by simp [hkind])
  · rename_i hkind
    exact hother (checkRange_ne_raised _ _ _ _) (by simp [hkind])
  · rename_i hkind
    exact hother Checked.noConfusion (by simp [hkind])
  · rename_i n lo hi hkind
    have hint : k.IsInt := ⟨lo, hi, hkind⟩
    have hoverflows : (Json.int n).Overflows ↔ toFloat n = none := (toFloat_eq_none_iff n).symm
    rw [and_iff_right hint, hoverflows]
    cases hfloat : toFloat n with
    | none => exact iff_of_true rfl rfl
    | some q =>
        refine iff_of_false ?_ (Option.some_ne_none q)
        dsimp only
        split
        · exact Checked.noConfusion
        · exact checkRange_ne_raised _ _ _ _
  · refine iff_of_false ?_ (by simp [Json.Overflows])
    split
    · exact Checked.noConfusion
    · exact checkRange_ne_raised _ _ _ _
  · rename_i negative lo hi hkind
    exact iff_of_true rfl ⟨⟨lo, hi, hkind⟩, trivial⟩
  · rename_i hint _ hinfinity
    refine iff_of_false Checked.noConfusion ?_
    rintro ⟨⟨lo, hi, hkind⟩, hvalue⟩
    rcases hvalue.cases with ⟨n, hn⟩ | ⟨negative, hnegative⟩
    · exact hint n lo hi hn hkind
    · exact hinfinity negative lo hi hnegative hkind

/-- An item that makes `_check_one` raise. -/
def Raises (item : String × Json) : Prop :=
  ∃ k, Key.ofDotted item.1 = some k ∧ k.IsInt ∧ item.2.Overflows

theorem checkOne_raised_iff (key : String) (value : Json) :
    checkOne key value = .raised ↔ Raises (key, value) := by
  unfold checkOne
  split
  · rename_i hkey
    refine iff_of_false ?_ ?_
    · split <;> exact Checked.noConfusion
    · rintro ⟨k, hk, -⟩
      exact (dotted_ne k).1 ((ofDotted_some hk).trans hkey)
  split
  · rename_i hkey
    refine iff_of_false Checked.noConfusion ?_
    rintro ⟨k, hk, -⟩
    exact (dotted_ne k).2 ((ofDotted_some hk).trans hkey)
  split
  · rename_i hnone
    refine iff_of_false Checked.noConfusion ?_
    rintro ⟨k, hk, -⟩
    rw [hnone] at hk
    cases hk
  · rename_i k hk
    rw [checkKey_raised_iff]
    constructor
    · intro h
      exact ⟨k, hk, h⟩
    · rintro ⟨k', hk', h⟩
      rw [hk] at hk'
      cases hk'
      exact h

/-! ## The rest -/

theorem checkAll_isSome_iff (updates : Dict Json) (accepted : Key → Option Value)
    (rejected : Dict Reason) :
    (checkAll updates accepted rejected).isSome = true ↔ ∀ item ∈ updates, ¬ Raises item := by
  induction updates generalizing accepted rejected with
  | nil => simp [checkAll]
  | cons item updates ih =>
      rcases item with ⟨key, value⟩
      rw [List.forall_mem_cons, ← checkOne_raised_iff, checkAll]
      cases checkOne key value with
      | accepted k v => simp [ih]
      | schema => simp [ih]
      | rejected reason => simp [ih]
      | raised => simp

theorem validate_isSome_iff (updates : Dict Json) (base : Settings) :
    (validate updates base).isSome = true ↔ ∀ item ∈ updates, ¬ Raises item := by
  rw [validate, Option.isSome_map]
  exact checkAll_isSome_iff updates noUpdate []

/-- The items of a file's content. -/
def Json.items : Json → Dict Json
  | .obj members => flatten members
  | _ => []

/-- The items of a file. -/
def File.items : File → Dict Json
  | .json raw => raw.items
  | .missing | .unreadable _ => []

theorem fromDict_isSome_iff (raw : Json) :
    (fromDict raw).isSome = true ↔ ∀ item ∈ raw.items, ¬ Raises item := by
  cases raw with
  | obj members =>
      rw [fromDict, Option.isSome_map]
      exact validate_isSome_iff (flatten members) Settings.defaults
  | null | bool | int | float | nan | infinity | str | arr => simp [fromDict, Json.items]

theorem load_isSome_iff (file : File) :
    (load file).isSome = true ↔ ∀ item ∈ file.items, ¬ Raises item := by
  cases file with
  | json raw => exact fromDict_isSome_iff raw
  | missing | unreadable => simp [load, File.items]

theorem raises_pop {updates : Dict Json} :
    (∀ item ∈ updates.pop "gpu.mode", ¬ Raises item) ↔ ∀ item ∈ updates, ¬ Raises item := by
  constructor
  · intro h item hitem hraises
    refine h item ?_ hraises
    rw [Dict.pop, List.mem_filter, decide_eq_true_eq]
    refine ⟨hitem, ?_⟩
    -- the mode of the GPU is no integer
    intro hkey
    rcases hraises with ⟨k, hk, ⟨lo, hi, hint⟩, -⟩
    have hmode : Key.ofDotted "gpu.mode" = some .gpuMode := ofDotted_dotted .gpuMode
    rw [hkey, hmode] at hk
    cases hk
    cases hint
  · intro h item hitem
    exact h item (List.mem_of_mem_filter hitem)

theorem setConfig_isSome_iff (d : Daemon) (updates : Dict Json) (saveError : Option String)
    (answers : GpuAnswers) : (d.setConfig updates saveError answers).isSome = true ↔
      ∀ item ∈ updates, ¬ Raises item := by
  have hlocked : (d.setLocked (updates.pop "gpu.mode") saveError).isSome = true ↔
      ∀ item ∈ updates, ¬ Raises item := by
    rw [← raises_pop, ← validate_isSome_iff _ d.config, Daemon.setLocked, Option.isSome_map]
  rw [← hlocked]
  unfold Daemon.setConfig
  cases d.setLocked (updates.pop "gpu.mode") saveError with
  | none => exact Iff.rfl
  | some result =>
      -- the GPU mode is set in one way or another
      refine iff_of_true ?_ rfl
      dsimp only [Option.bind_eq_bind, Option.bind_some]
      split
      · rfl
      · rfl
      · split
        · rfl
        · split <;> rfl

/-- Validation answers exactly the updates without a number that overflows for its key; and so
do `from_dict`, `set_config`, the reload of the configuration and the start of the daemon. -/
theorem validation_total_iff (updates : Dict Json) (base : Settings) (raw : Json) (d : Daemon)
    (saveError : Option String) (answers : GpuAnswers) (file : File) (gpuMode : Option GpuMode) :
    ((validate updates base).isSome = true ↔ ∀ item ∈ updates, ¬ Raises item) ∧
    ((fromDict raw).isSome = true ↔ ∀ item ∈ raw.items, ¬ Raises item) ∧
    ((d.setConfig updates saveError answers).isSome = true ↔ ∀ item ∈ updates, ¬ Raises item) ∧
    (d.reloadConfig.isSome = true ↔ ∀ item ∈ d.file.items, ¬ Raises item) ∧
    ((Daemon.start file gpuMode).isSome = true ↔ ∀ item ∈ file.items, ¬ Raises item) := by
  refine ⟨validate_isSome_iff updates base, fromDict_isSome_iff raw,
    setConfig_isSome_iff d updates saveError answers, ?_, ?_⟩
  · rw [Daemon.reloadConfig, Option.isSome_map]
    exact load_isSome_iff d.file
  · rw [Daemon.start, Option.isSome_map]
    exact load_isSome_iff file

/-- An infinite speed raises, in a request and in the file. -/
theorem validate_raises : Settings.defaults.Valid ∧
    validate [("fan.max_rpm", .infinity false)] Settings.defaults = none ∧
    fromDict (.obj [("fan", .obj [("max_rpm", .infinity false)])]) = none :=
  ⟨defaults_valid, rfl, rfl⟩

end TurboMac.Linux
