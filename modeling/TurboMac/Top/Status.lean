import TurboMac.Daemon.Status
import TurboMac.Lib.Strtod

/-! # `parseStatusJSON`

The cockpit knows no grammar: it searches the text for each quoted key and reads what
follows the next colon. One field that it cannot read makes it refuse the whole status.
-/

namespace TurboMac.Top

open Members Decimal Daemon
open Strtod (strtod InRange)
open Kext (U32)

/-- `Snapshot`. -/
structure Snapshot where
  valid : Bool := false
  ok : Bool := false
  armed : Bool := false
  profileValid : Bool := false
  autoArm : Bool := false
  validationPassed : Bool := false
  telemetryReady : Bool := false
  nonCPUOverBudget : Bool := false
  appleGuardEnabled : Bool := false
  raplLocked : Bool := false
  hwpEnabled : Bool := false
  hwpReadbackValid : Bool := false
  hwpFailsafeActive : Bool := false
  band : Text := "unknown".toList
  inputW : ℚ := 0
  capacityW : ℚ := 0
  packageW : ℚ := 0
  nonCPUW : ℚ := 0
  guardW : ℚ := 0
  shedW : ℚ := 0
  emergencyW : ℚ := 0
  pl1W : ℚ := 0
  pl2W : ℚ := 0
  cpuTempC : ℚ := 0
  smcInvalidConsecutive : U32 := 0
  hwpLogicalCPUCount : U32 := 0

def isBlank (c : Char) : Bool := decide (c ∈ [' ', '\t', '\r', '\n'])

/-- `findValue`: the text at the position it finds. -/
def findValue (json : Text) (key : String) : Option Text :=
  (after (quoted key.toList) json).bind fun found =>
    (after [':'] found).bind fun found =>
      let value := found.dropWhile isBlank
      if value = [] then none else some value

def readBool (json : Text) (key : String) : Option Bool :=
  (findValue json key).bind fun value =>
    if "true".toList <+: value then some true
    else if "false".toList <+: value then some false
    else none

def readDouble (json : Text) (key : String) : Option ℚ := (findValue json key).bind strtod

def readUnsigned (json : Text) (key : String) : Option U32 :=
  (readDouble json key).bind fun parsed =>
    if parsed < 0 ∨ 4294967295 < parsed ∨ (⌊parsed⌋ : ℚ) ≠ parsed then none
    else some (BitVec.ofInt 32 ⌊parsed⌋)

def readString (json : Text) (key : String) : Option Text :=
  (findValue json key).bind fun value =>
    match value with
    | '"' :: text => if '"' ∈ text then some (text.takeWhile (· ≠ '"')) else none
    | _ => none

/-- The fields of `parseStatusJSON`, in the order in which it reads them. -/
def readFields (json : Text) : Option Snapshot := do
  let ok ← readBool json "ok"
  let armed ← readBool json "armed"
  let profileValid ← readBool json "profile_valid"
  let autoArm ← readBool json "auto_arm"
  let validationPassed ← readBool json "validation_passed"
  let telemetryReady ← readBool json "telemetry_ready"
  let band ← readString json "band"
  let inputW ← readDouble json "input_w"
  let capacityW ← readDouble json "capacity_w"
  let packageW ← readDouble json "package_w"
  let nonCPUW ← readDouble json "non_cpu_w"
  let guardW ← readDouble json "guard_w"
  let shedW ← readDouble json "shed_w"
  let emergencyW ← readDouble json "emergency_w"
  let pl1W ← readDouble json "pl1_w"
  let pl2W ← readDouble json "pl2_w"
  let cpuTempC ← readDouble json "cpu_temp_c"
  let nonCPUOverBudget ← readBool json "non_cpu_over_budget"
  let smcInvalidConsecutive ← readUnsigned json "smc_invalid_consecutive"
  let appleGuardEnabled ← readBool json "apple_guard_enabled"
  let raplLocked ← readBool json "rapl_locked"
  let hwpEnabled ← readBool json "hwp_enabled"
  let hwpFailsafeActive ← readBool json "hwp_failsafe_active"
  let hwpReadbackValid ← readBool json "hwp_readback_valid"
  let hwpLogicalCPUCount ← readUnsigned json "hwp_logical_cpu_count"
  return {
    ok := ok
    armed := armed
    profileValid := profileValid
    autoArm := autoArm
    validationPassed := validationPassed
    telemetryReady := telemetryReady
    band := band
    inputW := inputW
    capacityW := capacityW
    packageW := packageW
    nonCPUW := nonCPUW
    guardW := guardW
    shedW := shedW
    emergencyW := emergencyW
    pl1W := pl1W
    pl2W := pl2W
    cpuTempC := cpuTempC
    nonCPUOverBudget := nonCPUOverBudget
    smcInvalidConsecutive := smcInvalidConsecutive
    appleGuardEnabled := appleGuardEnabled
    raplLocked := raplLocked
    hwpEnabled := hwpEnabled
    hwpFailsafeActive := hwpFailsafeActive
    hwpReadbackValid := hwpReadbackValid
    hwpLogicalCPUCount := hwpLogicalCPUCount }

/-- `parseStatusJSON`. -/
def parseStatusJSON (json : Text) : Except String Snapshot :=
  match readFields json with
  | none => .error "missing or malformed status field"
  | some parsed =>
    if parsed.band = "cruise".toList ∨ parsed.band = "guard".toList ∨ parsed.band = "shed".toList ∨
        parsed.band = "emergency".toList then
      .ok { parsed with valid := true }
    else .error "unknown governor band"

/-! ## A member of the text -/

section

variable {key : String} {members : List (String × Value)} {tail : Text}

/-- What is found of a text of members. -/
theorem findValue_members (hkey : Word key.toList) (h : Searchable key members) {v : Value}
    (hlookup : members.lookup key = some v) (hblank : ∀ c rest, v.text = c :: rest → isBlank c = false)
    (tail : Text) : ∃ rest, findValue ('{' :: (render members ++ tail)) key = some (v.text ++ ',' :: rest) := by
  obtain ⟨rest, hafter⟩ := after_render hkey h hlookup tail
  refine ⟨rest, ?_⟩
  have hopen : after (quoted key.toList) ('{' :: (render members ++ tail)) =
      some (':' :: (v.text ++ ',' :: rest)) := by
    rw [← hafter]
    have hbrace : '"' ∉ ['{'] := by decide
    exact after_append_of_notMem hbrace
  have hcolon : after [':'] (':' :: (v.text ++ ',' :: rest)) = some (v.text ++ ',' :: rest) :=
    after_append [':'] _
  have hvalue : (v.text ++ ',' :: rest).dropWhile isBlank = v.text ++ ',' :: rest := by
    cases htext : v.text with
    | nil => rfl
    | cons c text =>
        rw [List.cons_append, List.dropWhile_cons, hblank c text htext]
        rfl
  unfold findValue
  rw [hopen, Option.bind_some, hcolon, Option.bind_some]
  dsimp only
  rw [hvalue, if_neg (by simp)]

theorem readBool_members (hkey : Word key.toList) (h : Searchable key members) {b : Bool}
    (hlookup : members.lookup key = some (flag b)) :
    readBool ('{' :: (render members ++ tail)) key = some b := by
  obtain ⟨rest, hfind⟩ := findValue_members hkey h hlookup
    (by cases b <;> (intro c rest heq; cases heq; decide)) tail
  unfold readBool
  rw [hfind, Option.bind_some]
  cases b with
  | true => rfl
  | false => rfl

theorem not_blank_digits (negative : Bool) {digits text : Text} (hne : digits ≠ [])
    (hall : digits.all Char.isDigit = true) :
    ∀ c rest, minus negative ++ (digits ++ text) = c :: rest → isBlank c = false := by
  intro c rest heq
  cases negative with
  | true =>
      obtain ⟨rfl, -⟩ := List.cons.inj heq
      decide
  | false =>
      cases digits with
      | nil => exact absurd rfl hne
      | cons d digits =>
          obtain ⟨rfl, -⟩ := List.cons.inj heq
          rw [List.all_cons, Bool.and_eq_true] at hall
          unfold isBlank
          rw [decide_eq_false_iff_not]
          intro hmem
          simp only [List.mem_cons, List.not_mem_nil, or_false] at hmem
          rcases hmem with rfl | rfl | rfl | rfl
          all_goals exact absurd hall.1 (by decide)

theorem readDouble_members (hkey : Word key.toList) (h : Searchable key members) {v : ℚ}
    (hv : InRange v) (hlookup : members.lookup key = some (decimals v)) :
    readDouble ('{' :: (render members ++ tail)) key = some (rounded 3 v) := by
  obtain ⟨rest, hfind⟩ := findValue_members hkey h hlookup
    (not_blank_digits _ Nat.toDigits_ne_nil (all_toDigits _)) tail
  unfold readDouble
  rw [hfind, Option.bind_some]
  exact Strtod.strtod_ofRat (by omega) (by omega) hv (Strtod.ends_comma rest)

theorem readUnsigned_members (hkey : Word key.toList) (h : Searchable key members) {v : U32}
    (hlookup : members.lookup key = some (natural v)) :
    readUnsigned ('{' :: (render members ++ tail)) key = some v := by
  have hblank : ∀ c rest, (natural v).text = c :: rest → isBlank c = false := by
    intro c rest heq
    have hdigits := @not_blank_digits false (Nat.toDigits 10 v.toNat) [] Nat.toDigits_ne_nil (all_toDigits _)
    rw [List.append_nil] at hdigits
    exact hdigits c rest heq
  obtain ⟨rest, hfind⟩ := findValue_members hkey h hlookup hblank tail
  have hlt := v.isLt
  have hread : readDouble ('{' :: (render members ++ tail)) key = some (v.toNat : ℚ) := by
    unfold readDouble
    rw [hfind, Option.bind_some]
    exact Strtod.strtod_natural (by omega) (Strtod.ends_comma rest)
  have hle : ((v.toNat : ℕ) : ℚ) ≤ ((4294967295 : ℕ) : ℚ) := by exact_mod_cast (by omega)
  have hfloor : ⌊((v.toNat : ℕ) : ℚ)⌋ = (v.toNat : ℤ) := Int.floor_natCast _
  unfold readUnsigned
  rw [hread, Option.bind_some, hfloor, if_neg]
  · simp
  · simp only [not_or, not_lt, ne_eq, not_not]
    exact ⟨by positivity, hle, by simp⟩

theorem readString_members (hkey : Word key.toList) (h : Searchable key members) {s : Text}
    (hs : '"' ∉ s) (hlookup : members.lookup key = some (.string s)) :
    readString ('{' :: (render members ++ tail)) key = some s := by
  obtain ⟨rest, hfind⟩ := findValue_members hkey h hlookup
    (by intro c rest heq; cases heq; decide) tail
  have htake : (s ++ '"' :: ',' :: rest).takeWhile (· ≠ '"') = s := by
    rw [List.takeWhile_append_of_pos]
    · simp
    · intro c hc
      have hne : c ≠ '"' := by
        rintro rfl
        exact hs hc
      simpa using hne
  have htext : (Value.string s).text ++ ',' :: rest = '"' :: (s ++ '"' :: ',' :: rest) := by
    simp [Value.text, quoted]
  unfold readString
  rw [hfind, Option.bind_some, htext]
  show (if '"' ∈ s ++ '"' :: ',' :: rest then _ else _) = _
  rw [if_pos (by simp), htake]

end

end TurboMac.Top
