import TurboMac.Linux.Capture

/-! # `rapl.py`: a limit is written and read back

`apply_and_verify` over the files of a zone and the MSR, whatever these answer, and
over a package that answers as it should: powercap cuts a limit to the register's
units of 1/8 W and reads it back from there. There the readback never fails.
The time windows and `max_power_uw`, which are read with the limits and compared with
nothing, are left out.
-/

namespace TurboMac.Linux

open Decimal

/-! ## The firmware's record -/

/-- The firmware's limits as they may be loaded: a limit that is missing or no finite
number is none. -/
structure FirmwareRecord where
  pl1W : Option ℚ
  pl2W : Option ℚ
  suspect : Bool
deriving DecidableEq, Repr

/-- `valid_firmware`, together with the limits it vouches for. -/
def FirmwareRecord.valid? (fw : FirmwareRecord) : Option (ℚ × ℚ) :=
  match fw.pl1W, fw.pl2W with
  | some pl1W, some pl2W =>
    if fw.suspect = false ∧ 0 < pl1W ∧ 0 < pl2W then some (pl1W, pl2W) else none
  | _, _ => none

/-- `clamp_limits`. -/
def clampToRecord (pl1W pl2W hardMaxW : ℚ) (firmware : Option FirmwareRecord) : ℚ × ℚ :=
  let (m1, m2) :=
    match firmware.bind FirmwareRecord.valid? with
    | some (fw1, fw2) => (min hardMaxW fw1, min hardMaxW fw2)
    | none => (hardMaxW, hardMaxW)
  (floorEighth (min pl1W m1), floorEighth (min pl2W m2))

/-- What `load_or_capture_firmware` returns, as a record. -/
def FirmwareLimits.record (fw : FirmwareLimits) : FirmwareRecord :=
  ⟨some fw.pl1.watts, some fw.pl2.watts, fw.suspect⟩

/-! ## The files and the MSR -/

/-- The files of the zone that are written and read back. -/
inductive ZoneFile where
  | powerLimit (constraint : Fin 2)
  | enabled
deriving DecidableEq, Repr

/-- The indices of the constraints. -/
structure Constraints where
  long : Fin 2
  short : Fin 2
deriving DecidableEq, Repr

/-- How `__init__` finds them by the constraints' names. -/
def Constraints.ofNames (names : Fin 2 → Option String) : Constraints :=
  [0, 1].foldl
    (fun c i =>
      if names i = some "long_term" then { c with long := i }
      else if names i = some "short_term" then { c with short := i }
      else c)
    ⟨0, 1⟩

/-- MSR 0x610, decoded. -/
structure MsrLimit where
  pl1W : ℚ
  pl1Enable : Bool
  pl2W : ℚ
  pl2Enable : Bool
  lock : Bool
deriving DecidableEq, Repr

/-- The power unit of `decode_units`. -/
def powerUnitW (v : ℕ) : ℚ := 1 / 2 ^ (v % 2 ^ 4)

/-- `decode_pkg_limit`. -/
def decodePkgLimit (v : ℕ) (unitW : ℚ) : MsrLimit where
  pl1W := (v % 2 ^ 15 : ℕ) * unitW
  pl1Enable := v / 2 ^ 15 % 2 = 1
  pl2W := (v / 2 ^ 32 % 2 ^ 15 : ℕ) * unitW
  pl2Enable := v / 2 ^ 47 % 2 = 1
  lock := v / 2 ^ 63 % 2 = 1

/-- A machine's answers: the error of a write that fails, the number of a file that can
be read, and the MSRs 0x606 and 0x610 where there is a device that can be read. -/
structure ZoneAccess (σ : Type) where
  write : ZoneFile → ℤ → σ → Option String × σ
  read : ZoneFile → σ → Option ℤ
  powerUnitMsr : σ → Option ℕ
  pkgLimitMsr : σ → Option ℕ

/-- The fields of `read_limits` that are compared. -/
structure SysfsLimits where
  pl1Uw : Option ℤ
  pl2Uw : Option ℤ
  enabled : Option ℤ
deriving DecidableEq, Repr

/-- What `apply_and_verify` gives as its reason. -/
inductive ReadbackReason where
  | sysfsUnavailable
  | sysfsReads (pl1Uw pl2Uw : ℤ)
  | sysfsDisabled
  | msrUnavailable
  | msrReads (msr : MsrLimit)
  | msrDisabled
  | matching
  | writeErrors (errs : List String)
deriving DecidableEq, Repr

/-- `MSR_TOLERANCE_W`. -/
def msrToleranceW : ℚ := 1 / 8

/-- `compare_limits`. -/
def compareLimits (wantPl1 wantPl2 : ℚ) (sysfs : SysfsLimits) (msr : Option MsrLimit) :
    Bool × ReadbackReason :=
  match sysfs.pl1Uw, sysfs.pl2Uw with
  | some pl1Uw, some pl2Uw =>
    if pl1Uw ≠ wToUw wantPl1 ∨ pl2Uw ≠ wToUw wantPl2 then (false, .sysfsReads pl1Uw pl2Uw)
    else if sysfs.enabled ≠ some 1 then (false, .sysfsDisabled)
    else
      match msr with
      | none => (true, .msrUnavailable)
      | some msr =>
        if msrToleranceW < |msr.pl1W - wantPl1| ∨ msrToleranceW < |msr.pl2W - wantPl2| then
          (false, .msrReads msr)
        else if msr.pl1Enable = false then (false, .msrDisabled)
        else (true, .matching)
  | _, _ => (false, .sysfsUnavailable)

/-- What `apply_and_verify` returns. -/
structure ReadbackRecord where
  ok : Bool
  reason : ReadbackReason
  pl1W : ℚ
  pl2W : ℚ
  sysfs : SysfsLimits
  msr : Option MsrLimit
  writeErrors : List String
deriving DecidableEq, Repr

namespace ZoneAccess

variable {σ : Type} (z : ZoneAccess σ) (c : Constraints)

/-- `write_limits`. -/
def writeLimits (pl1W pl2W : ℚ) (s : σ) : List String × σ :=
  let (err1, s) := z.write (.powerLimit c.long) (wToUw pl1W) s
  let (err2, s) := z.write (.powerLimit c.short) (wToUw pl2W) s
  let (err3, s) := z.write .enabled 1 s
  ([err1, err2, err3].filterMap id, s)

/-- `read_limits`. -/
def readLimits (s : σ) : SysfsLimits :=
  ⟨z.read (.powerLimit c.long) s, z.read (.powerLimit c.short) s, z.read .enabled s⟩

/-- `pkg_limit`. -/
def pkgLimit (s : σ) : Option MsrLimit := do
  let units ← z.powerUnitMsr s
  let v ← z.pkgLimitMsr s
  return decodePkgLimit v (powerUnitW units)

/-- `apply_and_verify`. -/
def applyAndVerify (pl1W pl2W hardMaxW : ℚ) (firmware : Option FirmwareRecord) (s : σ) :
    ReadbackRecord × σ :=
  let (pl1W, pl2W) := clampToRecord pl1W pl2W hardMaxW firmware
  let (errs, s) := z.writeLimits c pl1W pl2W s
  let sysfs := z.readLimits c s
  let msr := z.pkgLimit s
  let (ok, reason) := compareLimits pl1W pl2W sysfs msr
  let (ok, reason) := if errs = [] then (ok, reason) else (false, .writeErrors errs)
  (⟨ok, reason, pl1W, pl2W, sysfs, msr, errs⟩, s)

end ZoneAccess

/-! ## A package that answers -/

/-- The register behind both: a limit in units of 1/8 W, and all other bits. -/
structure Package where
  pl1Units : ℤ
  pl2Units : ℤ
  enabled : Bool
  /-- whether the short constraint is the first one -/
  swapped : Bool
  msrReadable : Bool
  otherUnits : ℕ
  pl1Bits : Fin (2 ^ 16)
  pl2Bits : Fin (2 ^ 15)
deriving DecidableEq, Repr

namespace Package

/-- A unit in microwatts. -/
def unitUw : ℤ := 125000

/-- The constraint of PL1. -/
def long (swapped : Bool) : Fin 2 := if swapped then 1 else 0

def constraintName (swapped : Bool) (i : Fin 2) : Option String :=
  some (if i = long swapped then "long_term" else "short_term")

/-- What is written to a file never fails, and is cut to whole units. -/
def write (file : ZoneFile) (v : ℤ) (p : Package) : Option String × Package :=
  match file with
  | .powerLimit i =>
    (none, if i = long p.swapped then { p with pl1Units := v / unitUw }
      else { p with pl2Units := v / unitUw })
  | .enabled => (none, { p with enabled := v ≠ 0 })

def read (file : ZoneFile) (p : Package) : Option ℤ :=
  match file with
  | .powerLimit i => some ((if i = long p.swapped then p.pl1Units else p.pl2Units) * unitUw)
  | .enabled => some (if p.enabled then 1 else 0)

/-- MSR 0x606: the power unit is 1/8 W. -/
def unitRegister (p : Package) : ℕ := 3 + 2 ^ 4 * p.otherUnits

/-- MSR 0x610, unlocked. -/
def register (p : Package) : ℕ :=
  let enable := if p.enabled then 1 else 0
  p.pl1Units.toNat + 2 ^ 15 * (enable + 2 * p.pl1Bits) +
    2 ^ 32 * (p.pl2Units.toNat + 2 ^ 15 * (enable + 2 * p.pl2Bits))

def access : ZoneAccess Package where
  write := write
  read := read
  powerUnitMsr p := if p.msrReadable then some p.unitRegister else none
  pkgLimitMsr p := if p.msrReadable then some p.register else none

/-- The constraints of a `Rapl` of the package. -/
def constraints (p : Package) : Constraints := .ofNames (constraintName p.swapped)

end Package

/-! ## What is written -/

/-- `floor_eighth` in units. -/
def floorUnits (w : ℚ) : ℤ := ⌊w * 8 + 1 / 1000000000⌋

theorem floorEighth_eq (w : ℚ) : floorEighth w = floorUnits w / 8 := rfl

theorem wToUw_floorEighth (w : ℚ) : wToUw (floorEighth w) = floorUnits w * Package.unitUw := by
  have hcast : floorEighth w * 1000000 = ((floorUnits w * Package.unitUw : ℤ) : ℚ) := by
    rw [floorEighth_eq, Package.unitUw]
    push_cast
    ring
  rw [wToUw, hcast, roundHalfEven_intCast]

theorem floorEighth_le (w : ℚ) : floorEighth w ≤ w + 1 / 1000000000 := by
  have hle : (floorUnits w : ℚ) ≤ w * 8 + 1 / 1000000000 := Int.floor_le _
  rw [floorEighth_eq]
  linarith

theorem floorEighth_gt (w : ℚ) : w - 1 / 8 < floorEighth w := by
  have hlt : w * 8 + 1 / 1000000000 < floorUnits w + 1 := Int.lt_floor_add_one _
  rw [floorEighth_eq]
  linarith

theorem floorUnits_nonneg {w : ℚ} (h : 0 ≤ w) : 0 ≤ floorUnits w := by
  apply Int.floor_nonneg.2
  positivity

/-- What may be written for a request, with the firmware's limit where there is one. -/
structure WithinLimits (request : ℚ) (firmwareW : Option ℚ) (w : ℚ) : Prop where
  multiple : ∃ n : ℕ, w = n / 8
  le_hardMax : w ≤ 45
  le_request : w ≤ request + 1 / 1000000000
  le_firmware : ∀ f ∈ firmwareW, w ≤ f + 1 / 1000000000
  gt : firmwareW.elim (min request 45) (min (min request 45)) - 1 / 8 < w

/-- One limit of `clamp_limits`. -/
theorem withinLimits_floorEighth {request : ℚ} (hrequest : 0 < request) {firmwareW : Option ℚ}
    (hfirmware : ∀ f ∈ firmwareW, 0 < f) :
    WithinLimits request firmwareW
      (floorEighth (min request (firmwareW.elim hardMaxW (min hardMaxW)))) := by
  have hmax : firmwareW.elim hardMaxW (min hardMaxW) ≤ hardMaxW := by
    cases firmwareW with
    | none => exact le_refl hardMaxW
    | some f => exact min_le_left _ _
  have hpos : 0 < min request (firmwareW.elim hardMaxW (min hardMaxW)) := by
    refine lt_min hrequest ?_
    cases firmwareW with
    | none => norm_num [hardMaxW]
    | some f => exact lt_min (by norm_num [hardMaxW]) (hfirmware f rfl)
  have hle := floorEighth_le (min request (firmwareW.elim hardMaxW (min hardMaxW)))
  refine ⟨?_, ?_, ?_, ?_, ?_⟩
  -- a whole number of units, at most the hard limit, the request and the firmware's limit
  · obtain ⟨n, hn⟩ := Int.eq_ofNat_of_zero_le (floorUnits_nonneg hpos.le)
    refine ⟨n, ?_⟩
    rw [floorEighth_eq, hn, Int.cast_natCast]
  · have hmono := floorEighth_mono ((min_le_right request _).trans hmax)
    rwa [floorEighth_hardMaxW] at hmono
  · have hreq := min_le_left request (firmwareW.elim hardMaxW (min hardMaxW))
    linarith
  · intro f hf
    rw [Option.mem_def] at hf
    subst hf
    have hfw : min request (min hardMaxW f) ≤ f := (min_le_right _ _).trans (min_le_right _ _)
    rw [Option.elim_some] at hle ⊢
    linarith
  -- and less than a unit below the least of them
  · have hgt := floorEighth_gt (min request (firmwareW.elim hardMaxW (min hardMaxW)))
    refine lt_of_le_of_lt (le_of_eq ?_) hgt
    cases firmwareW with
    | none => rfl
    | some f => rw [Option.elim_some, Option.elim_some, min_assoc, hardMaxW]

theorem floorUnits_mem {w : ℚ} {request : ℚ} {firmwareW : Option ℚ}
    (h : WithinLimits request firmwareW (floorEighth w)) : 0 ≤ floorUnits w ∧ floorUnits w ≤ 360 := by
  obtain ⟨n, hn⟩ := h.multiple
  have hle := h.le_hardMax
  rw [floorEighth_eq] at hn hle
  constructor
  · have hnonneg : (0 : ℚ) ≤ floorUnits w := by
      have hcast : (0 : ℚ) ≤ n := Nat.cast_nonneg n
      linarith
    exact_mod_cast hnonneg
  · have hmax : (floorUnits w : ℚ) ≤ 360 := by linarith
    exact_mod_cast hmax

/-- The limits of the record that `clamp_limits` goes by. -/
def firmwarePl1W (firmware : Option FirmwareRecord) : Option ℚ :=
  (firmware.bind FirmwareRecord.valid?).map Prod.fst

def firmwarePl2W (firmware : Option FirmwareRecord) : Option ℚ :=
  (firmware.bind FirmwareRecord.valid?).map Prod.snd

theorem clampToRecord_eq (pl1W pl2W : ℚ) (firmware : Option FirmwareRecord) :
    clampToRecord pl1W pl2W hardMaxW firmware =
      (floorEighth (min pl1W ((firmwarePl1W firmware).elim hardMaxW (min hardMaxW))),
        floorEighth (min pl2W ((firmwarePl2W firmware).elim hardMaxW (min hardMaxW)))) := by
  unfold clampToRecord firmwarePl1W firmwarePl2W
  cases firmware.bind FirmwareRecord.valid? with
  | none => rfl
  | some limits => rfl

theorem FirmwareRecord.valid?_pos {fw : FirmwareRecord} {limits : ℚ × ℚ}
    (h : fw.valid? = some limits) : 0 < limits.1 ∧ 0 < limits.2 := by
  unfold FirmwareRecord.valid? at h
  split at h
  · split_ifs at h with hvalid
    cases h
    exact hvalid.2
  · cases h

theorem firmwareW_pos (firmware : Option FirmwareRecord) :
    (∀ f ∈ firmwarePl1W firmware, 0 < f) ∧ ∀ f ∈ firmwarePl2W firmware, 0 < f := by
  unfold firmwarePl1W firmwarePl2W
  constructor
  · intro f hf
    obtain ⟨limits, hlimits, rfl⟩ := Option.map_eq_some_iff.1 hf
    obtain ⟨fw, -, hvalid⟩ := Option.bind_eq_some_iff.1 hlimits
    exact (FirmwareRecord.valid?_pos hvalid).1
  · intro f hf
    obtain ⟨limits, hlimits, rfl⟩ := Option.map_eq_some_iff.1 hf
    obtain ⟨fw, -, hvalid⟩ := Option.bind_eq_some_iff.1 hlimits
    exact (FirmwareRecord.valid?_pos hvalid).2

/-- A record that has been captured clamps as its limits do. -/
theorem clampToRecord_record (pl1W pl2W : ℚ) (firmware : Option FirmwareLimits) :
    clampToRecord pl1W pl2W hardMaxW (firmware.map FirmwareLimits.record) =
      clampLimits pl1W pl2W hardMaxW firmware := by
  have hpos (l : Limit) : 0 < l.watts ↔ 0 < l.uw := by
    rw [Limit.watts, div_pos_iff_of_pos_right (by norm_num)]
    norm_cast
  cases firmware with
  | none => rfl
  | some fw =>
      unfold clampToRecord clampLimits
      by_cases hvalid : validFirmware fw
      · have hrecord : fw.record.valid? = some (fw.pl1.watts, fw.pl2.watts) := by
          simp only [validFirmware, Bool.and_eq_true, Bool.not_eq_true', decide_eq_true_eq] at hvalid
          simp only [FirmwareLimits.record, FirmwareRecord.valid?, hpos]
          rw [if_pos ⟨hvalid.1.1, hvalid.1.2, hvalid.2⟩]
        simp only [Option.map_some, Option.bind_some, hrecord, Option.filter_some, hvalid, if_true]
      · have hrecord : fw.record.valid? = none := by
          simp only [validFirmware, Bool.and_eq_true, Bool.not_eq_true', decide_eq_true_eq] at hvalid
          simp only [FirmwareLimits.record, FirmwareRecord.valid?, hpos]
          rw [if_neg]
          rintro ⟨hsuspect, hpl1, hpl2⟩
          exact hvalid ⟨⟨hsuspect, hpl1⟩, hpl2⟩
        simp only [Option.map_some, Option.bind_some, hrecord, Option.filter_some, hvalid]
        rfl

/-! ## What is read back -/

namespace Package

variable (p : Package)

theorem constraints_long : p.constraints.long = long p.swapped := by
  unfold constraints
  cases p.swapped with
  | false => decide
  | true => decide

theorem constraints_short : p.constraints.short ≠ long p.swapped := by
  unfold constraints
  cases p.swapped with
  | false => decide
  | true => decide

theorem floor_units (n : ℤ) : n * unitUw / unitUw = n := by
  apply Int.mul_ediv_cancel
  decide

theorem writeLimits_eq (w1 w2 : ℚ) :
    access.writeLimits p.constraints (floorEighth w1) (floorEighth w2) p =
      ([], { p with pl1Units := floorUnits w1, pl2Units := floorUnits w2, enabled := true }) := by
  simp only [ZoneAccess.writeLimits, access, write, constraints_long, if_true,
    if_neg p.constraints_short, wToUw_floorEighth, floor_units]
  rfl

theorem readLimits_eq : access.readLimits p.constraints p =
    ⟨some (p.pl1Units * unitUw), some (p.pl2Units * unitUw), some (if p.enabled then 1 else 0)⟩ := by
  simp only [ZoneAccess.readLimits, access, read, constraints_long, if_true,
    if_neg p.constraints_short]

theorem powerUnitW_unitRegister : powerUnitW p.unitRegister = 1 / 8 := by
  have hmod : (3 + 2 ^ 4 * p.otherUnits) % 2 ^ 4 = 3 := by omega
  rw [powerUnitW, unitRegister, hmod]
  norm_num

/-- The MSR has the limits of the register. -/
theorem decodePkgLimit_register (h1 : 0 ≤ p.pl1Units ∧ p.pl1Units ≤ 360)
    (h2 : 0 ≤ p.pl2Units ∧ p.pl2Units ≤ 360) (henabled : p.enabled = true) :
    decodePkgLimit p.register (1 / 8) = ⟨p.pl1Units / 8, true, p.pl2Units / 8, true, false⟩ := by
  obtain ⟨n1, hn1⟩ := Int.eq_ofNat_of_zero_le h1.1
  obtain ⟨n2, hn2⟩ := Int.eq_ofNat_of_zero_le h2.1
  have hb1 := p.pl1Bits.isLt
  have hb2 := p.pl2Bits.isLt
  have hregister : p.register =
      n1 + 2 ^ 15 * (1 + 2 * p.pl1Bits) + 2 ^ 32 * (n2 + 2 ^ 15 * (1 + 2 * p.pl2Bits)) := by
    simp only [register, hn1, hn2, henabled, if_true, Int.toNat_natCast]
  rw [hn1] at h1
  rw [hn2] at h2
  have hf1 : p.register % 2 ^ 15 = n1 := by omega
  have hf2 : p.register / 2 ^ 32 % 2 ^ 15 = n2 := by omega
  have he1 : p.register / 2 ^ 15 % 2 = 1 := by omega
  have he2 : p.register / 2 ^ 47 % 2 = 1 := by omega
  have hlock : ¬ p.register / 2 ^ 63 % 2 = 1 := by omega
  simp only [decodePkgLimit, hf1, hf2, he1, he2, hlock, decide_true, decide_false, hn1, hn2,
    Int.cast_natCast, mul_one_div]

theorem pkgLimit_eq (h1 : 0 ≤ p.pl1Units ∧ p.pl1Units ≤ 360)
    (h2 : 0 ≤ p.pl2Units ∧ p.pl2Units ≤ 360) (henabled : p.enabled = true) :
    access.pkgLimit p =
      if p.msrReadable then some ⟨p.pl1Units / 8, true, p.pl2Units / 8, true, false⟩ else none := by
  cases hreadable : p.msrReadable with
  | false => simp [ZoneAccess.pkgLimit, access, hreadable]
  | true =>
      simp only [ZoneAccess.pkgLimit, access, hreadable, if_true, Option.bind_eq_bind,
        Option.bind_some, powerUnitW_unitRegister, decodePkgLimit_register p h1 h2 henabled]
      rfl

end Package

theorem compareLimits_ok (n1 n2 : ℚ) (msr : Option MsrLimit)
    (hmsr : ∀ m ∈ msr, m.pl1W = n1 ∧ m.pl2W = n2 ∧ m.pl1Enable = true) :
    (compareLimits n1 n2 ⟨some (wToUw n1), some (wToUw n2), some 1⟩ msr).1 = true := by
  have htolerance : ¬ msrToleranceW < 0 := by norm_num [msrToleranceW]
  unfold compareLimits
  cases msr with
  | none => simp
  | some m =>
      obtain ⟨h1, h2, henable⟩ := hmsr m rfl
      simp [h1, h2, henable, htolerance]

/-- On a package that answers the readback never fails, and what is written is the
request, cut to the limits and to whole units. -/
theorem readback_agrees (p : Package) {pl1W pl2W : ℚ} (hpl1 : 0 < pl1W) (hpl2 : 0 < pl2W)
    (firmware : Option FirmwareRecord) :
    let (r, p') := Package.access.applyAndVerify p.constraints pl1W pl2W hardMaxW firmware p
    r.ok = true ∧
      p'.pl1Units = r.pl1W * 8 ∧ WithinLimits pl1W (firmwarePl1W firmware) r.pl1W ∧
      p'.pl2Units = r.pl2W * 8 ∧ WithinLimits pl2W (firmwarePl2W firmware) r.pl2W := by
  have hfw := firmwareW_pos firmware
  have hw1 := withinLimits_floorEighth hpl1 hfw.1
  have hw2 := withinLimits_floorEighth hpl2 hfw.2
  have hclamp := clampToRecord_eq pl1W pl2W firmware
  set w1 := min pl1W ((firmwarePl1W firmware).elim hardMaxW (min hardMaxW))
  set w2 := min pl2W ((firmwarePl2W firmware).elim hardMaxW (min hardMaxW))
  have hn1 := floorUnits_mem hw1
  have hn2 := floorUnits_mem hw2
  -- the package after the three writes, and what is read of it
  let p' : Package := { p with pl1Units := floorUnits w1, pl2Units := floorUnits w2, enabled := true }
  have hwrite := p.writeLimits_eq w1 w2
  have hread : Package.access.readLimits p.constraints p' =
      ⟨some (wToUw (floorEighth w1)), some (wToUw (floorEighth w2)), some 1⟩ := by
    rw [wToUw_floorEighth, wToUw_floorEighth]
    exact p'.readLimits_eq
  have hmsr := p'.pkgLimit_eq hn1 hn2 rfl
  have hok : (compareLimits (floorEighth w1) (floorEighth w2)
      (Package.access.readLimits p.constraints p') (Package.access.pkgLimit p')).1 = true := by
    rw [hread]
    apply compareLimits_ok
    intro m hm
    rw [hmsr] at hm
    split_ifs at hm
    · cases hm
      exact ⟨rfl, rfl, rfl⟩
    · cases hm
  simp only [ZoneAccess.applyAndVerify, hclamp, hwrite, if_true]
  refine ⟨hok, ?_, hw1, ?_, hw2⟩
  · rw [floorEighth_eq]
    ring
  · rw [floorEighth_eq]
    ring

/-- A package as it is after a boot. -/
def samplePackage : Package := ⟨640, 800, true, false, true, 0, 0, 0⟩

theorem readback_agrees_sample :
    let (r, p') := Package.access.applyAndVerify samplePackage.constraints (401 / 10) 60 hardMaxW
      (some ⟨some 80, some (383 / 10), false⟩) samplePackage
    r.ok = true ∧
      p'.pl1Units = r.pl1W * 8 ∧ WithinLimits (401 / 10) (some 80) r.pl1W ∧
      p'.pl2Units = r.pl2W * 8 ∧ WithinLimits 60 (some (383 / 10)) r.pl2W := by
  have hvalid : (⟨some 80, some (383 / 10), false⟩ : FirmwareRecord).valid? = some (80, 383 / 10) := by
    norm_num [FirmwareRecord.valid?]
  have hagrees := @readback_agrees samplePackage (401 / 10) 60 (by norm_num)
    (by norm_num) (some ⟨some 80, some (383 / 10), false⟩)
  simpa only [firmwarePl1W, firmwarePl2W, Option.bind_some, hvalid, Option.map_some] using hagrees

end TurboMac.Linux
