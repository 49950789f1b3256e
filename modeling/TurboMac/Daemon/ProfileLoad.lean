import TurboMac.Daemon.ProfileText

/-! # What `load` reads of a saved profile

The text of a profile that `validate` accepts is read whole: every line, every key
of the schema, every number as far as the text has it. What is read is checked again.
-/

namespace TurboMac.Daemon

open Decimal
open Kext (U32)

/-- A finite `double`. -/
def IsDouble (v : ℚ) : Prop := ∃ m e : ℤ, |m| < 2 ^ 53 ∧ v = m * 2 ^ e

/-- A `double` of 53 bits or more is a whole number. -/
theorem IsDouble.whole {v : ℚ} (h : IsDouble v) (hv : 2 ^ 53 ≤ v) : ∃ n : ℕ, v = n := by
  rcases h with ⟨m, e, hm, rfl⟩
  have hpow : (0 : ℚ) < 2 ^ e := zpow_pos (by norm_num) e
  have hm' : (m : ℚ) < 2 ^ 53 := by
    have hlt := (abs_lt.1 hm).2
    exact_mod_cast hlt
  have hmpos : (0 : ℚ) < m := by
    by_contra hneg
    have hle := mul_nonpos_of_nonpos_of_nonneg (not_lt.1 hneg) hpow.le
    linarith
  rcases lt_or_ge e 0 with he | he
  · have hone : (2 : ℚ) ^ e ≤ 1 := zpow_le_one_of_nonpos₀ (by norm_num) he.le
    have hle := mul_le_of_le_one_right hmpos.le hone
    linarith
  · lift e to ℕ using he
    have hmnat : 0 < m := by exact_mod_cast hmpos
    lift m to ℕ using hmnat.le
    refine ⟨m * 2 ^ e, ?_⟩
    push_cast
    rw [zpow_natCast]

namespace ProfileStore

/-- A power is read as it was rounded, or cut off. -/
theorem parseDouble_power {v : ℚ} (hdouble : IsDouble v) (hv : 0 ≤ v) :
    (v < 10 ^ 63 ∧ parseDouble (numberText v) = some (rounded 6 v)) ∨
      (10 ^ 63 ≤ v ∧ ∃ m : ℕ, parseDouble (numberText v) = some (m : ℚ) ∧ (m : ℚ) + 1 ≤ v) := by
  rcases lt_or_ge v (2 ^ 53) with hsmall | hlarge
  · -- sixteen digits before the point are read in full
    refine .inl ⟨hsmall.trans (by norm_num), ?_⟩
    apply @parseDouble_numberText v (2 ^ 53) 16 (by decide) (by decide)
    · rw [abs_of_nonneg hv]
      push_cast
      exact hsmall.le
    · decide
  · -- a larger double is a whole number
    rcases hdouble.whole hlarge with ⟨n, rfl⟩
    rcases lt_or_ge n (10 ^ 63) with hn | hn
    · have hn' : (n : ℚ) < 10 ^ 63 := by exact_mod_cast hn
      have hrounded : rounded 6 (n : ℚ) = n := by
        apply @rounded_eq 6 n (n * 10 ^ 6)
        push_cast
        rfl
      refine .inl ⟨hn', ?_⟩
      rw [hrounded]
      apply parseDouble_of_toRat (numeric_numberText _)
        (toRat_take_natCast (by decide) (by decide) hn) (n * 10 ^ 6)
      · push_cast
        norm_num
      · rw [abs_of_nonneg hv]
        exact hn'.le
    · -- more digits than the buffer has are cut off
      rcases toRat_take_of_le (by decide : 0 < 6) (by decide) hn with ⟨m, hread, hm⟩
      have hm' : (m : ℚ) + 1 ≤ 10 ^ 63 := by exact_mod_cast hm
      have hn' : (10 : ℚ) ^ 63 ≤ n := by exact_mod_cast hn
      refine .inr ⟨hn', m, ?_, hm'.trans hn'⟩
      apply parseDouble_of_toRat (numeric_numberText _) hread (m * 10 ^ 6)
      · push_cast
        norm_num
      · rw [abs_of_nonneg (Nat.cast_nonneg m)]
        linarith

/-- A number that is read, whatever as. -/
theorem parseDouble_readBack {v parsed : ℚ} (h : parseDouble (numberText v) = some parsed) :
    parseDouble (numberText v) = some (readBack v) := by
  rw [readBack, h]
  rfl

end ProfileStore

open ProfileStore

namespace CalibrationProfile

/-- What `load` makes of a profile that `save` has written. -/
def readBack (profile : CalibrationProfile) : CalibrationProfile :=
  let defaults : CalibrationProfile := {}
  let ratio (field : CalibrationProfile → ℚ) : ℚ :=
    if profile.schemaVersion = 2 then ProfileStore.readBack (field profile) else field defaults
  { profile with
    calibratedCapacityW := ProfileStore.readBack profile.calibratedCapacityW
    reserveW := ProfileStore.readBack profile.reserveW
    raplFloorW := ProfileStore.readBack profile.raplFloorW
    raplCeilingPL1W := ProfileStore.readBack profile.raplCeilingPL1W
    raplCeilingPL2W := ProfileStore.readBack profile.raplCeilingPL2W
    cruisePL2BurstW := ProfileStore.readBack profile.cruisePL2BurstW
    packageToInputSlope := ProfileStore.readBack profile.packageToInputSlope
    packageToInputInterceptW := ProfileStore.readBack profile.packageToInputInterceptW
    guardRatio := ratio guardRatio
    shedRatio := ratio shedRatio
    emergencyRatio := ratio emergencyRatio
    cruiseTargetRatio := ratio cruiseTargetRatio
    guardTargetRatio := ratio guardTargetRatio
    shedTargetRatio := ratio shedTargetRatio }

/-- Every number of a profile is read, whatever as. -/
structure Reads (profile : CalibrationProfile) : Prop where
  capacity : parseDouble (numberText profile.calibratedCapacityW) =
    some (ProfileStore.readBack profile.calibratedCapacityW)
  reserve : parseDouble (numberText profile.reserveW) = some (ProfileStore.readBack profile.reserveW)
  floor : parseDouble (numberText profile.raplFloorW) =
    some (ProfileStore.readBack profile.raplFloorW)
  ceilingPL1 : parseDouble (numberText profile.raplCeilingPL1W) =
    some (ProfileStore.readBack profile.raplCeilingPL1W)
  ceilingPL2 : parseDouble (numberText profile.raplCeilingPL2W) =
    some (ProfileStore.readBack profile.raplCeilingPL2W)
  burst : parseDouble (numberText profile.cruisePL2BurstW) =
    some (ProfileStore.readBack profile.cruisePL2BurstW)
  slope : parseDouble (numberText profile.packageToInputSlope) =
    some (ProfileStore.readBack profile.packageToInputSlope)
  intercept : parseDouble (numberText profile.packageToInputInterceptW) =
    some (ProfileStore.readBack profile.packageToInputInterceptW)
  guard : parseDouble (numberText profile.guardRatio) =
    some (ProfileStore.readBack profile.guardRatio)
  shed : parseDouble (numberText profile.shedRatio) = some (ProfileStore.readBack profile.shedRatio)
  emergency : parseDouble (numberText profile.emergencyRatio) =
    some (ProfileStore.readBack profile.emergencyRatio)
  cruiseTarget : parseDouble (numberText profile.cruiseTargetRatio) =
    some (ProfileStore.readBack profile.cruiseTargetRatio)
  guardTarget : parseDouble (numberText profile.guardTargetRatio) =
    some (ProfileStore.readBack profile.guardTargetRatio)
  shedTarget : parseDouble (numberText profile.shedTargetRatio) =
    some (ProfileStore.readBack profile.shedTargetRatio)

end CalibrationProfile

namespace ProfileStore

variable {p : CalibrationProfile}

theorem parseFlag_flagText (value : Bool) : parseFlag (flagText value) = some value := by
  cases value <;> rfl

/-- The powers that are read, in a profile that has nothing else yet. -/
theorem readPowers_entries (h : p.Reads)
    (hcalibrated : parseInt64 (ofInt p.calibratedAt.toInt) = some p.calibratedAt)
    (hvalidated : parseInt64 (ofInt p.validatedAt.toInt) = some p.validatedAt) :
    readPowers (valuesOf (entries p)) = some {
      calibratedCapacityW := readBack p.calibratedCapacityW
      reserveW := readBack p.reserveW
      raplFloorW := readBack p.raplFloorW
      raplCeilingPL1W := readBack p.raplCeilingPL1W
      raplCeilingPL2W := readBack p.raplCeilingPL2W
      cruisePL2BurstW := readBack p.cruisePL2BurstW
      packageToInputSlope := readBack p.packageToInputSlope
      packageToInputInterceptW := readBack p.packageToInputInterceptW
      calibratedAt := p.calibratedAt
      validatedAt := p.validatedAt
      validationPassed := p.validationPassed
      autoArm := p.autoArm } := by
  unfold readPowers
  by_cases hschema : p.schemaVersion = 2
  · simp only [get_valuesOf, entries, if_pos hschema]
    simp [List.lookup_cons, h.capacity, h.reserve, h.floor, h.ceilingPL1, h.ceilingPL2, h.burst,
      h.slope, h.intercept, hcalibrated, hvalidated, parseFlag_flagText]
  · simp only [get_valuesOf, entries, if_neg hschema]
    simp [List.lookup_cons, h.capacity, h.reserve, h.floor, h.ceilingPL1, h.ceilingPL2, h.burst,
      h.slope, h.intercept, hcalibrated, hvalidated, parseFlag_flagText]

/-- The policy that is read, in any profile. -/
theorem readPolicy_entries (h : p.Reads) (hschema : p.schemaVersion = 2) (q : CalibrationProfile) :
    readPolicy (valuesOf (entries p)) q = some { q with
      guardRatio := readBack p.guardRatio
      shedRatio := readBack p.shedRatio
      emergencyRatio := readBack p.emergencyRatio
      cruiseTargetRatio := readBack p.cruiseTargetRatio
      guardTargetRatio := readBack p.guardTargetRatio
      shedTargetRatio := readBack p.shedTargetRatio } := by
  unfold readPolicy
  simp only [get_valuesOf]
  simp [entries, hschema, List.lookup_cons, h.guard, h.shed, h.emergency, h.cruiseTarget,
    h.guardTarget, h.shedTarget]

theorem parsePointCount_ofInt {n : U32} (h : 1 ≤ n) : parsePointCount (ofInt n.toNat) = some n := by
  have hlt := n.isLt
  have hpos : 1 ≤ n.toNat := h
  have hint : (Int64.ofInt n.toNat).toInt = n.toNat := by
    rw [Int64.toInt_ofInt]
    apply Int.bmod_eq_of_le
    · have hsize : (Int64.size : ℤ) = 2 ^ 64 := rfl
      omega
    · have hsize : (Int64.size : ℤ) = 2 ^ 64 := rfl
      omega
  unfold parsePointCount
  rw [parseInt64_ofInt (by omega), Option.bind_some, hint, if_neg (by omega)]
  congr 1
  apply BitVec.eq_of_toNat_eq
  rw [BitVec.toNat_ofInt]
  omega

theorem parseInt64_toInt (n : Int64) : parseInt64 (ofInt n.toInt) = some n := by
  rw [parseInt64_ofInt ⟨n.le_toInt, n.toInt_lt⟩, Int64.ofInt_toInt]

/-- No key is unexpected. -/
theorem find_unexpected {entries : List (String × Text)} {expected : List String}
    (h : ∀ entry ∈ entries, entry.1 ∈ expected) :
    ((valuesOf entries).insertionSort fun item item' => item.1 ≤ item'.1).find?
      (fun item => expected.all fun key => key.toList ≠ item.1) = none := by
  rw [List.find?_eq_none]
  intro item hitem hall
  rw [List.mem_insertionSort, valuesOf, List.mem_map] at hitem
  rcases hitem with ⟨entry, hentry, rfl⟩
  rw [List.all_eq_true] at hall
  have hne := hall entry.1 (h entry hentry)
  simp at hne

theorem entries_keys (p : CalibrationProfile) :
    (entries p).map Prod.fst = common.take 16 ++ (if p.schemaVersion = 2 then policyKeys else []) ++
      common.drop 16 := by
  unfold entries
  split <;> rfl

theorem entries_expected : ∀ entry ∈ entries p,
    entry.1 ∈ common ++ if p.schemaVersion = 2 then policyKeys else [] := by
  intro entry hentry
  have hkey : entry.1 ∈ (entries p).map Prod.fst := List.mem_map_of_mem hentry
  rw [entries_keys] at hkey
  simp only [List.mem_append] at hkey ⊢
  rcases hkey with (hkey | hkey) | hkey
  · exact .inl (List.mem_of_mem_take hkey)
  · exact .inr hkey
  · exact .inl (List.mem_of_mem_drop hkey)

theorem length_valuesOf_entries (p : CalibrationProfile) : (valuesOf (entries p)).length =
    (common ++ if p.schemaVersion = 2 then policyKeys else []).length := by
  unfold valuesOf entries
  split <;> rfl

/-- The version that is read decides which keys are expected. -/
theorem schema_entries (hschema : p.schemaVersion = 1 ∨ p.schemaVersion = 2) :
    ((valuesOf (entries p)).lookup "schema_version".toList).bind parseInt64 =
      some (if p.schemaVersion = 2 then 2 else 1) := by
  have hlookup : (entries p).lookup "schema_version" = some (ofInt p.schemaVersion.toNat) := by
    unfold entries
    rfl
  rw [lookup_valuesOf, hlookup, Option.bind_some]
  rcases hschema with hone | htwo
  · rw [hone]
    decide
  · rw [htwo]
    decide

theorem get_entries {key : String} {value : Text} (h : (entries p).lookup key = some value) :
    get (valuesOf (entries p)) key = value := by
  rw [get_valuesOf, h]
  rfl

theorem lookup_points (p : CalibrationProfile) :
    (entries p).lookup "calibration_point_count" = some (ofInt p.calibrationPointCount.toNat) := by
  unfold entries
  split <;> rfl

/-- What `load` reads of a profile that `save` has written. -/
theorem readValues_entries (h : p.Reads) (hvalid : p.Validated) :
    readValues (valuesOf (entries p)) = .ok p.readBack := by
  have hpowers := readPowers_entries h (parseInt64_toInt _) (parseInt64_toInt _)
  have hpolicy := readPolicy_entries h
  have hschema := schema_entries hvalid.schema
  have hlength := length_valuesOf_entries p
  have hfind := find_unexpected (entries_expected (p := p))
  have hpoints : parsePointCount (get (valuesOf (entries p)) "calibration_point_count") =
      some p.calibrationPointCount := by
    rw [get_entries (lookup_points p)]
    exact parsePointCount_ofInt hvalid.points
  have huuid : get _ "hardware_uuid" = p.identity.hardwareUUID := get_entries rfl
  have hmodel : get _ "model_identifier" = p.identity.modelIdentifier := get_entries rfl
  have hcpu : get _ "cpu_brand" = p.identity.cpuBrand := get_entries rfl
  have hversion : get _ "os_product_version" = p.identity.osProductVersion := get_entries rfl
  have hbuild : get _ "os_build" = p.identity.osBuild := get_entries rfl
  have hpdtr : get _ "smc_pdtr_type" = p.identity.pdtrType := get_entries rfl
  have hacpw : get _ "smc_acpw_type" = p.identity.acpwType := get_entries rfl
  -- From here on only what is read matters, not the text it is read from.
  generalize valuesOf (entries p) = values at *
  unfold readValues
  rcases hvalid.schema with hone | htwo
  · have hne : ¬ p.schemaVersion = 2 := by
      rw [hone]
      decide
    have hother : ¬ some (1 : Int64) = some 2 := by decide
    rw [if_neg hne] at hschema hlength hfind
    rw [hschema]
    simp only [if_neg hother]
    rw [if_neg (by decide), if_neg (by simpa using hlength), hfind, hpowers]
    dsimp only
    rw [hpoints, huuid, hmodel, hcpu, hversion, hbuild, hpdtr, hacpw]
    unfold CalibrationProfile.readBack
    simp only [hone]
    rfl
  · rw [if_pos htwo] at hschema hlength hfind
    rw [hschema]
    simp only [if_pos]
    rw [if_neg (by decide), if_neg (by simpa using hlength), hfind, hpowers]
    dsimp only
    rw [hpolicy htwo]
    dsimp only
    rw [hpoints, huuid, hmodel, hcpu, hversion, hbuild, hpdtr, hacpw]
    unfold CalibrationProfile.readBack
    simp only [htwo]
    rfl

/-! ## The text as a whole -/

theorem natAbs_toNat_lt (n : U32) : ((n.toNat : ℤ)).natAbs < 10 ^ 19 := by
  have hlt := n.isLt
  omega

theorem natAbs_toInt_lt (n : Int64) : n.toInt.natAbs < 10 ^ 19 := by
  have hle := n.le_toInt
  have hlt := n.toInt_lt
  omega

theorem safe_flagText (value : Bool) : safeText (flagText value) = true := by
  cases value <;> rfl

/-- No key is taken for a comment, and each fits its line. -/
theorem keys_plain : ∀ key ∈ common.take 16 ++ policyKeys ++ common.drop 16,
    safeText key.toList = true ∧ key.toList.head? ≠ some '#' ∧ key.toList.length ≤ 40 := by
  decide +kernel

theorem readable_entries (h : p.Validated) : Readable (entries p) := by
  have hsublist : (entries p).map Prod.fst |>.Sublist
      (common.take 16 ++ policyKeys ++ common.drop 16) := by
    rw [entries_keys]
    apply List.Sublist.append_right
    apply List.Sublist.append_left
    split
    · exact List.Sublist.refl _
    · exact List.nil_sublist _
  refine ⟨?_, ?_, ?_⟩
  · intro entry hentry
    obtain ⟨hsafe, hhead, -⟩ := keys_plain entry.1 (hsublist.mem (List.mem_map_of_mem hentry))
    exact ⟨hsafe, hhead⟩
  · have hnumber := safe_numberText
    unfold entries
    simp only [List.forall_mem_append, List.forall_mem_cons]
    refine ⟨⟨?_, ?_⟩, ?_⟩
    · simp only [hnumber, h.hardwareUUID, h.modelIdentifier, h.cpuBrand, h.osProductVersion, h.osBuild,
        h.pdtrType, h.acpwType, safe_ofInt (natAbs_toNat_lt p.schemaVersion)]
      simp
    · split
      · simp only [List.forall_mem_cons, hnumber]
        simp
      · simp
    · simp only [safe_ofInt (natAbs_toNat_lt p.calibrationPointCount), safe_flagText,
        safe_ofInt (natAbs_toInt_lt p.calibratedAt), safe_ofInt (natAbs_toInt_lt p.validatedAt)]
      simp
  · have hkeys : (common.take 16 ++ policyKeys ++ common.drop 16).Nodup := by decide +kernel
    have hnodup := hkeys.map fun _ _ => String.toList_injective
    have hmap := (hsublist.map String.toList).nodup hnodup
    rw [List.map_map] at hmap
    exact hmap

/-- The lines of a profile's text. -/
def contentLines (p : CalibrationProfile) : List Text :=
  ("# TurboMac RAPL calibration profile v".toList ++ ofInt p.schemaVersion.toNat) ::
    (entries p).map fun entry => entry.1.toList ++ '=' :: entry.2

theorem content_eq (p : CalibrationProfile) :
    content p = (contentLines p).flatMap fun l => l ++ ['\n'] := by
  have hlines : ∀ entries : List (String × Text), (entries.flatMap fun entry => line entry.1 entry.2) =
      (entries.map fun entry => entry.1.toList ++ '=' :: entry.2).flatMap fun l => l ++ ['\n'] := by
    intro entries
    rw [List.flatMap_map]
    rfl
  unfold content contentLines
  rw [hlines]
  generalize (entries p).map _ = lines
  generalize "# TurboMac RAPL calibration profile v".toList = header
  rw [List.flatMap_cons]

theorem splitOn_content (h : p.Validated) : (content p).splitOn '\n' = contentLines p ++ [[]] := by
  have hreadable := readable_entries h
  rw [content_eq]
  apply splitOn_lines
  intro l hl
  rcases List.mem_cons.1 hl with rfl | hl
  · intro hmem
    rcases List.mem_append.1 hmem with hmem | hmem
    · exact absurd hmem (by decide)
    · exact (not_mem_of_safeText (safe_ofInt (natAbs_toNat_lt p.schemaVersion))).2 hmem
  · rcases List.mem_map.1 hl with ⟨entry, hentry, rfl⟩
    intro hmem
    rcases List.mem_append.1 hmem with hmem | hmem
    · exact (not_mem_of_safeText (hreadable.keys entry hentry).1).2 hmem
    · rcases List.mem_cons.1 hmem with hmem | hmem
      · cases hmem
      · exact (not_mem_of_safeText (hreadable.values entry hentry)).2 hmem

theorem readLines_content (h : p.Validated) :
    readLines ((content p).splitOn '\n') = .ok (valuesOf (entries p)) := by
  have hheader : ∀ text, readLine [] ("# TurboMac RAPL calibration profile v".toList ++ text) = .ok [] := by
    intro text
    unfold readLine
    rw [if_pos]
    exact .inr rfl
  have hentries := readLines_entries (readable_entries h) [] (by simp)
  rw [splitOn_content h, readLines, contentLines, List.cons_append, List.foldlM_cons, hheader]
  show List.foldlM readLine [] (_ ++ [[]]) = _
  rw [List.foldlM_append, hentries]
  rfl

theorem safeText_length {value : Text} (h : safeText value = true) : value.length ≤ 256 := by
  simp only [safeText, Bool.and_eq_true, decide_eq_true_eq] at h
  exact h.1.2

theorem length_entries (p : CalibrationProfile) : (entries p).length ≤ 27 := by
  unfold entries
  split
  · exact Nat.le_refl 27
  · exact Nat.le_add_right 21 6

theorem length_line (h : p.Validated) {entry : String × Text} (hentry : entry ∈ entries p) :
    (line entry.1 entry.2).length ≤ 300 := by
  have hreadable := readable_entries h
  have hkey : entry.1.toList.length ≤ 40 := by
    have hmem : entry.1 ∈ (entries p).map Prod.fst := List.mem_map_of_mem hentry
    refine (keys_plain entry.1 ?_).2.2
    rw [entries_keys] at hmem
    split at hmem
    · exact hmem
    · simp only [List.mem_append, List.not_mem_nil, or_false] at hmem ⊢
      rcases hmem with hmem | hmem
      · exact .inl (.inl hmem)
      · exact .inr hmem
  have hvalue := safeText_length (hreadable.values entry hentry)
  rw [line, List.length_append, List.length_append, List.length_cons, List.length_singleton]
  omega

theorem length_content (h : p.Validated) : (content p).length ≤ 16384 := by
  have hline : ∀ n ∈ (entries p).map fun entry => (line entry.1 entry.2).length, n ≤ 300 := by
    intro n hn
    rcases List.mem_map.1 hn with ⟨entry, hentry, rfl⟩
    exact length_line h hentry
  have hcount := length_entries p
  have hsum := List.sum_le_card_nsmul _ 300 hline
  have hversion := length_ofInt_le (natAbs_toNat_lt p.schemaVersion)
  have hheader : "# TurboMac RAPL calibration profile v".toList.length = 37 := rfl
  rw [List.length_map, nsmul_eq_mul, Nat.cast_id] at hsum
  unfold content
  generalize "# TurboMac RAPL calibration profile v".toList = header at hheader ⊢
  simp only [List.length_append, List.length_flatMap, List.length_singleton]
  omega

/-- A saved profile is read as its text says, and accepted if that is valid. -/
theorem load_content (h : p.Reads) (hvalid : p.Validated) : load (.ok (content p)) =
    if validate p.readBack then .ok p.readBack
    else .error "calibration profile failed bounds validation" := by
  have hlength := length_content hvalid
  unfold load
  simp only [bind, Except.bind]
  rw [if_neg (by omega), readLines_content hvalid]
  dsimp only
  rw [readValues_entries h hvalid]
  rfl

end ProfileStore

end TurboMac.Daemon
