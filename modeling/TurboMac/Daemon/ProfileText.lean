import Mathlib.Tactic.NormNum
import TurboMac.Daemon.Profile

/-! # The text of a profile

What `save` writes, `load` reads line by line as the values that were written; its
numbers are read as they were rounded, or cut off after 63 characters.
-/

namespace TurboMac.Daemon

open Decimal
open Kext (U32)

/-- What `validate` accepts. -/
structure CalibrationProfile.Validated (profile : CalibrationProfile) : Prop where
  schema : profile.schemaVersion = 1 ∨ profile.schemaVersion = 2
  hardwareUUID : ProfileStore.safeText profile.identity.hardwareUUID = true
  modelIdentifier : ProfileStore.safeText profile.identity.modelIdentifier = true
  cpuBrand : ProfileStore.safeText profile.identity.cpuBrand = true
  osProductVersion : ProfileStore.safeText profile.identity.osProductVersion = true
  osBuild : ProfileStore.safeText profile.identity.osBuild = true
  pdtrType : ProfileStore.safeText profile.identity.pdtrType = true
  acpwType : ProfileStore.safeText profile.identity.acpwType = true
  capacity_ge : 10 ≤ profile.calibratedCapacityW
  capacity_le : profile.calibratedCapacityW ≤ 250
  reserve_ge : 2 ≤ profile.reserveW
  reserve_le : profile.reserveW ≤ 20
  floor_ge : 1 ≤ profile.raplFloorW
  floor_le : profile.raplFloorW ≤ profile.raplCeilingPL1W
  ceiling_le : profile.raplCeilingPL1W ≤ profile.raplCeilingPL2W
  burst_ge : 0 ≤ profile.cruisePL2BurstW
  burst_le : profile.cruisePL2BurstW ≤ 20
  slope_ge : 1 / 4 ≤ profile.packageToInputSlope
  slope_le : profile.packageToInputSlope ≤ 4
  intercept_ge : -20 ≤ profile.packageToInputInterceptW
  intercept_le : profile.packageToInputInterceptW ≤ 100
  guard_ge : 1 / 10 ≤ profile.guardRatio
  guard_lt : profile.guardRatio < profile.shedRatio
  shed_lt : profile.shedRatio < profile.emergencyRatio
  emergency_le : profile.emergencyRatio ≤ 95 / 100
  shedTarget_ge : 5 / 100 ≤ profile.shedTargetRatio
  shedTarget_lt : profile.shedTargetRatio < profile.guardTargetRatio
  guardTarget_lt : profile.guardTargetRatio < profile.cruiseTargetRatio
  cruiseTarget_le : profile.cruiseTargetRatio ≤ profile.guardRatio
  points : 1 ≤ profile.calibrationPointCount
  calibrated : 0 < profile.calibratedAt
  validated : profile.validationPassed = true → profile.calibratedAt ≤ profile.validatedAt
  unvalidated : profile.validationPassed = false → profile.validatedAt = 0
  autoArm : profile.autoArm = true → profile.validationPassed = true

namespace ProfileStore

theorem validate_iff {profile : CalibrationProfile} : validate profile = true ↔ profile.Validated := by
  unfold validate
  rw [decide_eq_true_eq]
  constructor
  · rintro ⟨h₁, h₂, h₃, h₄, h₅, h₆, h₇, h₈, h₉, h₁₀, h₁₁, h₁₂, h₁₃, h₁₄, h₁₅, h₁₆, h₁₇, h₁₈, h₁₉, h₂₀,
      h₂₁, h₂₂, h₂₃, h₂₄, h₂₅, h₂₆, h₂₇, h₂₈, h₂₉, h₃₀, h₃₁, h₃₂, h₃₃, h₃₄⟩
    exact ⟨h₁, h₂, h₃, h₄, h₅, h₆, h₇, h₈, h₉, h₁₀, h₁₁, h₁₂, h₁₃, h₁₄, h₁₅, h₁₆, h₁₇, h₁₈, h₁₉, h₂₀,
      h₂₁, h₂₂, h₂₃, h₂₄, h₂₅, h₂₆, h₂₇, h₂₈, h₂₉, h₃₀, h₃₁, h₃₂, h₃₃, h₃₄⟩
  · intro h
    exact ⟨h.schema, h.hardwareUUID, h.modelIdentifier, h.cpuBrand, h.osProductVersion, h.osBuild,
      h.pdtrType, h.acpwType, h.capacity_ge, h.capacity_le, h.reserve_ge, h.reserve_le, h.floor_ge,
      h.floor_le, h.ceiling_le, h.burst_ge, h.burst_le, h.slope_ge, h.slope_le, h.intercept_ge,
      h.intercept_le, h.guard_ge, h.guard_lt, h.shed_lt, h.emergency_le, h.shedTarget_ge,
      h.shedTarget_lt, h.guardTarget_lt, h.cruiseTarget_le, h.points, h.calibrated, h.validated,
      h.unvalidated, h.autoArm⟩

/-! ## Lines -/

section

variable {key : String} {value : Text} {values : List (Text × Text)}

theorem safeText_ne_nil (h : safeText value = true) : value ≠ [] := by
  simp only [safeText, Bool.and_eq_true, decide_eq_true_eq] at h
  exact h.1.1

theorem not_mem_of_safeText (h : safeText value = true) : '=' ∉ value ∧ '\n' ∉ value := by
  simp only [safeText, Bool.and_eq_true, List.all_eq_true, decide_eq_true_eq] at h
  constructor
  · intro hmem
    exact h.2 '=' hmem (.inr (.inr rfl))
  · intro hmem
    exact h.2 '\n' hmem (.inl (by decide))

/-- A line of a key and a value that are safe, and of no comment. -/
theorem readLine_line (hkey : safeText key.toList = true) (hhash : key.toList.head? ≠ some '#')
    (hvalue : safeText value = true) (hnew : ∀ item ∈ values, item.1 ≠ key.toList) :
    readLine values (key.toList ++ '=' :: value) = .ok (values ++ [(key.toList, value)]) := by
  have hne : key.toList ≠ [] := safeText_ne_nil hkey
  have hhead : (key.toList ++ '=' :: value).head? = key.toList.head? := by
    cases hlist : key.toList with
    | nil => exact absurd hlist hne
    | cons c rest => rfl
  have hequals : '=' ∉ key.toList := (not_mem_of_safeText hkey).1
  have htake : (key.toList ++ '=' :: value).takeWhile (· ≠ '=') = key.toList := by
    rw [List.takeWhile_append_of_pos]
    · simp
    · intro c hc
      have hc' : c ≠ '=' := by
        rintro rfl
        exact hequals hc
      simpa using hc'
  have hdrop : (key.toList ++ '=' :: value).drop (key.toList.length + 1) = value := by
    rw [List.drop_append]
    simp
  have hany : values.any (·.1 = key.toList) = false := by
    rw [List.any_eq_false]
    intro item hitem
    simpa using hnew item hitem
  unfold readLine
  rw [if_neg]
  · dsimp only
    rw [htake, if_neg]
    · rw [hdrop, hkey, hvalue, hany]
      rfl
    · rintro (hlength | hnil)
      · rw [List.length_append, List.length_cons] at hlength
        omega
      · exact hne hnil
  · rintro (hnil | hcomment)
    · exact hne (List.append_eq_nil_iff.1 hnil).1
    · rw [hhead] at hcomment
      exact hhash hcomment

end

/-- Entries that `load` reads as they are. -/
structure Readable (entries : List (String × Text)) : Prop where
  keys : ∀ entry ∈ entries, safeText entry.1.toList = true ∧ entry.1.toList.head? ≠ some '#'
  values : ∀ entry ∈ entries, safeText entry.2 = true
  nodup : (entries.map fun entry => entry.1.toList).Nodup

/-- The values of entries. -/
def valuesOf (entries : List (String × Text)) : List (Text × Text) :=
  entries.map fun entry => (entry.1.toList, entry.2)

theorem lookup_valuesOf (entries : List (String × Text)) (key : String) :
    (valuesOf entries).lookup key.toList = entries.lookup key := by
  induction entries with
  | nil => rfl
  | cons entry entries ih =>
      have hkey : (key.toList == entry.1.toList) = (key == entry.1) := by
        rw [Bool.eq_iff_iff, beq_iff_eq, beq_iff_eq, String.toList_inj]
      rw [valuesOf, List.map_cons, List.lookup_cons, List.lookup_cons, hkey]
      cases key == entry.1
      · exact ih
      · rfl

theorem get_valuesOf (entries : List (String × Text)) (key : String) :
    get (valuesOf entries) key = (entries.lookup key).getD [] := by
  rw [get, lookup_valuesOf]

theorem readLines_entries {entries : List (String × Text)} (h : Readable entries)
    (values : List (Text × Text))
    (hnew : ∀ entry ∈ entries, ∀ item ∈ values, item.1 ≠ entry.1.toList) :
    (entries.map fun entry => entry.1.toList ++ '=' :: entry.2).foldlM readLine values =
      .ok (values ++ valuesOf entries) := by
  induction entries generalizing values with
  | nil =>
      rw [valuesOf, List.map_nil, List.map_nil, List.append_nil]
      rfl
  | cons entry entries ih =>
      have hkey := h.keys entry List.mem_cons_self
      have hnodup := h.nodup
      rw [List.map_cons, List.nodup_cons] at hnodup
      rw [List.map_cons, List.foldlM_cons, readLine_line hkey.1 hkey.2
        (h.values entry List.mem_cons_self) (hnew entry List.mem_cons_self)]
      have hrest : Readable entries :=
        ⟨fun e he => h.keys e (List.mem_cons_of_mem _ he),
          fun e he => h.values e (List.mem_cons_of_mem _ he), hnodup.2⟩
      have hfold := ih hrest (values ++ [(entry.1.toList, entry.2)]) ?_
      · rw [List.append_assoc] at hfold
        exact hfold
      · intro e he item hitem
        rcases List.mem_append.1 hitem with hitem | hitem
        · exact hnew e (List.mem_cons_of_mem _ he) item hitem
        · rw [List.mem_singleton.1 hitem]
          intro heq
          apply hnodup.1
          rw [List.mem_map]
          exact ⟨e, he, heq.symm⟩

/-- The lines of a text. -/
theorem splitOn_lines (lines : List Text) (h : ∀ l ∈ lines, '\n' ∉ l) :
    (lines.flatMap fun l => l ++ ['\n']).splitOn '\n' = lines ++ [[]] := by
  induction lines with
  | nil => rfl
  | cons l lines ih =>
      have hl : ∀ c ∈ l, (c == '\n') = false := by
        intro c hc
        rw [beq_eq_false_iff_ne]
        rintro rfl
        exact h l List.mem_cons_self hc
      have hrest := ih fun l' hl' => h l' (List.mem_cons_of_mem _ hl')
      rw [List.splitOn_eq_splitOnP] at hrest ⊢
      rw [List.flatMap_cons, List.append_assoc, List.singleton_append,
        List.splitOnP_append_cons_of_forall_mem hl '\n' (by decide), hrest]
      rfl

/-! ## Numbers -/

/-- The characters of a number. -/
def Numeric (text : Text) : Prop := ∀ c ∈ text, c.isDigit = true ∨ c = '-' ∨ c = '.'

section

variable {text : Text} {v : ℚ}

theorem digit_range {c : Char} (h : c.isDigit = true) : 48 ≤ c.toNat ∧ c.toNat ≤ 57 :=
  Char.isDigit_iff_toNat.1 h

theorem Numeric.safe (h : Numeric text) (hne : text ≠ []) (hlength : text.length ≤ 256) :
    safeText text = true := by
  simp only [safeText, Bool.and_eq_true, List.all_eq_true, decide_eq_true_eq]
  refine ⟨⟨hne, hlength⟩, ?_⟩
  intro c hc
  rcases h c hc with hdigit | rfl | rfl
  · have hrange := digit_range hdigit
    rintro (hlow | hdelete | rfl)
    · omega
    · omega
    · exact absurd hdigit (by decide)
  · decide
  · decide

theorem Numeric.dropWhile (h : Numeric text) : text.dropWhile isSpace = text := by
  cases text with
  | nil => rfl
  | cons c text =>
      have hc : isSpace c = false := by
        unfold isSpace
        rw [decide_eq_false_iff_not]
        rcases h c List.mem_cons_self with hdigit | rfl | rfl
        · have hrange := digit_range hdigit
          rintro (rfl | hspace)
          · exact absurd hdigit (by decide)
          · omega
        · decide
        · decide
      rw [List.dropWhile_cons, hc]
      rfl

theorem numeric_digits (h : text.all Char.isDigit = true) : Numeric text := by
  rw [List.all_eq_true] at h
  intro c hc
  exact .inl (h c hc)

theorem numeric_minus (negative : Bool) (h : Numeric text) : Numeric (minus negative ++ text) := by
  intro c hc
  rcases List.mem_append.1 hc with hc | hc
  · cases negative with
    | false => cases hc
    | true => exact .inr (.inl (List.mem_singleton.1 hc))
  · exact h c hc

theorem numeric_ofInt (n : ℤ) : Numeric (ofInt n) := numeric_minus _ (numeric_digits (all_toDigits _))

theorem ofInt_ne_nil (n : ℤ) : ofInt n ≠ [] := by
  unfold ofInt
  rw [Ne, List.append_eq_nil_iff, not_and]
  intro _
  exact Nat.toDigits_ne_nil

theorem numeric_ofRat (places : ℕ) (v : ℚ) : Numeric (ofRat places v) := by
  apply numeric_minus
  intro c hc
  rcases List.mem_append.1 hc with hc | hc
  · exact numeric_digits (all_toDigits _) c hc
  · rcases List.mem_cons.1 hc with rfl | hc
    · exact .inr (.inr rfl)
    · exact numeric_digits (fraction_spec places _).1 c hc

theorem numeric_numberText (v : ℚ) : Numeric (numberText v) := by
  intro c hc
  exact numeric_ofRat 6 v c (List.mem_of_mem_take hc)

theorem numberText_ne_nil (v : ℚ) : numberText v ≠ [] := by
  unfold numberText ofRat fixed
  rw [Ne, List.take_eq_nil_iff, not_or]
  refine ⟨by decide, ?_⟩
  simp

theorem length_numberText (v : ℚ) : (numberText v).length ≤ 63 := by
  unfold numberText
  rw [List.length_take]
  exact Nat.min_le_left _ _

theorem safe_numberText (v : ℚ) : safeText (numberText v) = true := by
  apply (numeric_numberText v).safe (numberText_ne_nil v)
  have hlength := length_numberText v
  omega

/-- An integer of 64 bits has at most 20 characters. -/
theorem length_ofInt_le {n : ℤ} (h : n.natAbs < 10 ^ 19) : (ofInt n).length ≤ 20 := by
  have hlength := (Nat.length_toDigits_le_iff (by decide) (by decide)).2 h
  have hminus : (minus (decide (n < 0))).length ≤ 1 := by
    cases decide (n < 0) <;> decide
  unfold ofInt
  rw [List.length_append]
  omega

theorem safe_ofInt {n : ℤ} (h : n.natAbs < 10 ^ 19) : safeText (ofInt n) = true := by
  apply (numeric_ofInt n).safe (ofInt_ne_nil n)
  have hlength := length_ofInt_le h
  omega

theorem parseInt64_ofInt {n : ℤ} (h : -2 ^ 63 ≤ n ∧ n < 2 ^ 63) :
    parseInt64 (ofInt n) = some (Int64.ofInt n) := by
  unfold parseInt64
  rw [(numeric_ofInt n).dropWhile, toInt_ofInt, Option.bind_some, if_pos h]

/-- What is read of a number that is written. -/
def readBack (v : ℚ) : ℚ := (parseDouble (numberText v)).getD 0

/-- A number of six places, or a whole one, is in range. -/
theorem parseDouble_of_toRat {parsed : ℚ} (hnumeric : Numeric text) (h : toRat text = some parsed)
    (z : ℤ) (hz : parsed = z / 10 ^ 6) (hle : |parsed| ≤ 10 ^ 63) : parseDouble text = some parsed := by
  unfold parseDouble
  rw [hnumeric.dropWhile, h, Option.filter_some, if_pos]
  rw [decide_eq_true_eq]
  by_cases hzero : parsed = 0
  · exact .inl hzero
  · refine .inr ⟨?_, lt_of_le_of_lt hle (by decide +kernel)⟩
    have hne : z ≠ 0 := by
      rintro rfl
      apply hzero
      rw [hz]
      simp
    have hone : (1 : ℚ) ≤ |(z : ℚ)| := by
      exact_mod_cast Int.one_le_abs hne
    have hsmall : (2 : ℚ) ^ (-1022 : ℤ) ≤ 1 / 10 ^ 6 := by
      have hpow : (2 : ℚ) ^ (-1022 : ℤ) ≤ 2 ^ (-20 : ℤ) := zpow_le_zpow_right₀ (by norm_num) (by norm_num)
      exact hpow.trans (by norm_num)
    rw [hz, abs_div]
    have hten : |(10 : ℚ) ^ 6| = 10 ^ 6 := abs_of_pos (by norm_num)
    rw [hten]
    exact hsmall.trans (div_le_div_of_nonneg_right hone (by norm_num))

theorem rounded_eq_div (v : ℚ) : ∃ z : ℤ, rounded 6 v = z / 10 ^ 6 := ⟨_, rfl⟩

/-- A number that fits is read as it was rounded. -/
theorem parseDouble_numberText {bound k : ℕ} (hk : 0 < k) (hk' : k ≤ 55) (hv : |v| ≤ bound)
    (hbound : bound < 10 ^ k) : parseDouble (numberText v) = some (rounded 6 v) := by
  have hlength := @length_ofRat_le 6 v bound k (by decide) hk hv hbound
  have hread : toRat (numberText v) = some (rounded 6 v) := by
    unfold numberText
    rw [List.take_of_length_le (by omega), toRat_ofRat (by decide)]
  rcases rounded_eq_div v with ⟨z, hz⟩
  apply parseDouble_of_toRat (numeric_numberText v) hread z hz
  have herror := @abs_rounded_sub_le 6 v
  have hpow : (bound : ℚ) < 10 ^ 55 := by
    have hcast : ((bound : ℕ) : ℚ) < ((10 ^ k : ℕ) : ℚ) := by exact_mod_cast hbound
    have hle : ((10 ^ k : ℕ) : ℚ) ≤ 10 ^ 55 := by
      push_cast
      exact pow_le_pow_right₀ (by norm_num) hk'
    linarith
  have htriangle := abs_add_le (rounded 6 v - v) v
  rw [sub_add_cancel] at htriangle
  have hhalf : (1 : ℚ) / 2 / 10 ^ 6 ≤ 1 := by norm_num
  have hlarge : (10 : ℚ) ^ 55 + 1 ≤ 10 ^ 63 := by norm_num
  linarith

end

end ProfileStore

end TurboMac.Daemon
