import Mathlib.Data.Fintype.Basic
import TurboMac.Lib.Repair
import TurboMac.Linux.Config

/-! # `config.py`

The whole configuration. A configuration has a value for each key of `SPEC`, and
is written `{section: {key: value}}` in the file. Numbers are exact rationals,
for Python's integers and floats alike; an error text is kept as the reason it
gives.
-/

namespace TurboMac.Linux

open Repair

/-! ## JSON -/

/-- What `json.load` returns. -/
inductive Json where
  | null
  | bool (b : Bool)
  | int (n : ℤ)
  | float (q : ℚ)
  | nan
  | infinity (negative : Bool)
  | str (s : String)
  | arr (items : List Json)
  | obj (members : List (String × Json))

/-- A dictionary, in the order of its items. -/
abbrev Dict (α : Type) := List (String × α)

namespace Dict

variable {α : Type}

/-- `d[key] = value`. -/
def set : Dict α → String → α → Dict α
  | [], key, value => [(key, value)]
  | (k, v) :: d, key, value => if k = key then (k, value) :: d else (k, v) :: set d key value

/-- `d.setdefault(key, value)`. -/
def setdefault (d : Dict α) (key : String) (value : α) : Dict α :=
  if (d.lookup key).isSome then d else d ++ [(key, value)]

/-- `d.pop(key, None)`. -/
def pop (d : Dict α) (key : String) : Dict α := d.filter fun item => item.1 ≠ key

end Dict

/-- `float(n)`: 53 bits, ties to even, or none for an `OverflowError`. -/
def toFloat (n : ℤ) : Option ℚ :=
  let shift := Nat.log2 n.natAbs - 52
  let quotient := n.natAbs / 2 ^ shift
  let rest := n.natAbs % 2 ^ shift
  let rounded := if 2 ^ shift < 2 * rest ∨ (2 * rest = 2 ^ shift ∧ quotient % 2 = 1) then quotient + 1
    else quotient
  let value := rounded * 2 ^ shift
  if 2 ^ 1024 ≤ value then none else some (n.sign * value)

/-! ## Keys -/

/-- A key of `SPEC`. -/
inductive Key where
  | governorMode
  | governorStaticCapW
  | governorCeilingW
  | governorFloorW
  | governorBurstW
  | governorShedRatio
  | governorEmergencyRatio
  | governorRecoverRatio
  | governorCutStepW
  | governorRecoverStepW
  | governorRecoverIntervalS
  | governorStaleTimeoutS
  | governorThermalTrimC
  | governorThermalRecoverC
  | governorThermalStepW
  | governorThermalIntervalS
  | gpuMode
  | gpuCapW
  | fanMode
  | fanPowerFloorW
  | fanPowerFloorRpm
  | fanT1C
  | fanT1Rpm
  | fanT2C
  | fanT2Rpm
  | fanT3C
  | fanT3Rpm
  | fanHysteresisC
  | fanStepDownIntervalS
  | fanMaxRpm
  | cpuNoTurbo
  | cpuEpp
  | cpuMaxPerfPct
  | loggingRetentionDays
  | loggingMaxMib
deriving DecidableEq, Repr

/-- A section of the file. -/
inductive Section where
  | governor
  | gpu
  | fan
  | cpu
  | logging
deriving DecidableEq, Repr

def Section.name : Section → String
  | .governor => "governor"
  | .gpu => "gpu"
  | .fan => "fan"
  | .cpu => "cpu"
  | .logging => "logging"

def Section.all : List Section := [.governor, .gpu, .fan, .cpu, .logging]

namespace Key

/-- The keys, in the order of `SPEC`. -/
def all : List Key :=
  [.governorMode, .governorStaticCapW, .governorCeilingW, .governorFloorW, .governorBurstW,
    .governorShedRatio, .governorEmergencyRatio, .governorRecoverRatio, .governorCutStepW,
    .governorRecoverStepW, .governorRecoverIntervalS, .governorStaleTimeoutS, .governorThermalTrimC,
    .governorThermalRecoverC, .governorThermalStepW, .governorThermalIntervalS, .gpuMode, .gpuCapW,
    .fanMode, .fanPowerFloorW, .fanPowerFloorRpm, .fanT1C, .fanT1Rpm, .fanT2C, .fanT2Rpm, .fanT3C,
    .fanT3Rpm, .fanHysteresisC, .fanStepDownIntervalS, .fanMaxRpm, .cpuNoTurbo, .cpuEpp,
    .cpuMaxPerfPct, .loggingRetentionDays, .loggingMaxMib]

theorem mem_all (k : Key) : k ∈ all := by
  cases k <;> decide

theorem nodup_all : all.Nodup := by decide

instance : Fintype Key := ⟨⟨all, nodup_all⟩, mem_all⟩

def section_ : Key → Section
  | .governorMode | .governorStaticCapW | .governorCeilingW | .governorFloorW | .governorBurstW
  | .governorShedRatio | .governorEmergencyRatio | .governorRecoverRatio | .governorCutStepW
  | .governorRecoverStepW | .governorRecoverIntervalS | .governorStaleTimeoutS
  | .governorThermalTrimC | .governorThermalRecoverC | .governorThermalStepW
  | .governorThermalIntervalS => .governor
  | .gpuMode | .gpuCapW => .gpu
  | .fanMode | .fanPowerFloorW | .fanPowerFloorRpm | .fanT1C | .fanT1Rpm | .fanT2C | .fanT2Rpm
  | .fanT3C | .fanT3Rpm | .fanHysteresisC | .fanStepDownIntervalS | .fanMaxRpm => .fan
  | .cpuNoTurbo | .cpuEpp | .cpuMaxPerfPct => .cpu
  | .loggingRetentionDays | .loggingMaxMib => .logging

/-- The key within its section. -/
def name : Key → String
  | .governorMode => "mode"
  | .governorStaticCapW => "static_cap_w"
  | .governorCeilingW => "ceiling_w"
  | .governorFloorW => "floor_w"
  | .governorBurstW => "burst_w"
  | .governorShedRatio => "shed_ratio"
  | .governorEmergencyRatio => "emergency_ratio"
  | .governorRecoverRatio => "recover_ratio"
  | .governorCutStepW => "cut_step_w"
  | .governorRecoverStepW => "recover_step_w"
  | .governorRecoverIntervalS => "recover_interval_s"
  | .governorStaleTimeoutS => "stale_timeout_s"
  | .governorThermalTrimC => "thermal_trim_c"
  | .governorThermalRecoverC => "thermal_recover_c"
  | .governorThermalStepW => "thermal_step_w"
  | .governorThermalIntervalS => "thermal_interval_s"
  | .gpuMode => "mode"
  | .gpuCapW => "cap_w"
  | .fanMode => "mode"
  | .fanPowerFloorW => "power_floor_w"
  | .fanPowerFloorRpm => "power_floor_rpm"
  | .fanT1C => "t1_c"
  | .fanT1Rpm => "t1_rpm"
  | .fanT2C => "t2_c"
  | .fanT2Rpm => "t2_rpm"
  | .fanT3C => "t3_c"
  | .fanT3Rpm => "t3_rpm"
  | .fanHysteresisC => "hysteresis_c"
  | .fanStepDownIntervalS => "step_down_interval_s"
  | .fanMaxRpm => "max_rpm"
  | .cpuNoTurbo => "no_turbo"
  | .cpuEpp => "epp"
  | .cpuMaxPerfPct => "max_perf_pct"
  | .loggingRetentionDays => "retention_days"
  | .loggingMaxMib => "max_mib"

/-- The dotted key. -/
def dotted (k : Key) : String := k.section_.name ++ "." ++ k.name

def ofDotted (key : String) : Option Key := all.find? fun k => k.dotted = key

end Key

/-! ## Values -/

/-- The value of a key. -/
inductive Value where
  | null
  | bool (b : Bool)
  | num (q : ℚ)
  | str (s : String)
deriving DecidableEq, Repr

/-- The value of a key whose values are numbers. -/
def Value.number : Value → ℚ
  | .num q => q
  | _ => 0

def Value.toJson : Value → Json
  | .null => .null
  | .bool b => .bool b
  | .num q => if q.den = 1 then .int q.num else .float q
  | .str s => .str s

/-- A kind of `SPEC`, without its question mark. -/
inductive Kind where
  | choice (arg : List String)
  | num (lo hi : ℚ)
  | int (lo hi : ℚ)
  | bool
deriving Repr

/-- An entry of `SPEC`; the question mark allows `None`. -/
structure Spec where
  kind : Kind
  optional : Bool := false

/-- `EPP_CHOICES`. -/
def eppChoices : List String :=
  ["default", "performance", "balance_performance", "balance_power", "power"]

/-- `SPEC`. -/
def Key.spec : Key → Spec
  | .governorMode => { kind := .choice ["off", "static", "dynamic"] }
  | .governorStaticCapW => { kind := .num 10 45 }
  | .governorCeilingW => { kind := .num 10 45 }
  | .governorFloorW => { kind := .num 9 20 }
  | .governorBurstW => { kind := .num 0 5 }
  | .governorShedRatio => { kind := .num (70 / 100) (95 / 100) }
  | .governorEmergencyRatio => { kind := .num (73 / 100) (98 / 100) }
  | .governorRecoverRatio => { kind := .num (50 / 100) (90 / 100) }
  | .governorCutStepW => { kind := .num 1 15 }
  | .governorRecoverStepW => { kind := .num 1 5 }
  | .governorRecoverIntervalS => { kind := .num 1 30 }
  | .governorStaleTimeoutS => { kind := .num 1 10 }
  | .governorThermalTrimC => { kind := .num 80 99, optional := true }
  | .governorThermalRecoverC => { kind := .num 70 97 }
  | .governorThermalStepW => { kind := .num (1 / 2) 5 }
  | .governorThermalIntervalS => { kind := .num 1 30 }
  | .gpuMode => { kind := .choice ["auto", "low", "off"] }
  | .gpuCapW => { kind := .num 5 35 }
  | .fanMode => { kind := .choice ["auto", "floor"] }
  | .fanPowerFloorW => { kind := .num 10 45 }
  | .fanPowerFloorRpm => { kind := .int 2000 5900 }
  | .fanT1C => { kind := .num 50 99 }
  | .fanT1Rpm => { kind := .int 2000 5900 }
  | .fanT2C => { kind := .num 50 99 }
  | .fanT2Rpm => { kind := .int 2000 5900 }
  | .fanT3C => { kind := .num 50 99 }
  | .fanT3Rpm => { kind := .int 2000 5900 }
  | .fanHysteresisC => { kind := .num 2 15 }
  | .fanStepDownIntervalS => { kind := .num 5 120 }
  | .fanMaxRpm => { kind := .int 2500 5900 }
  | .cpuNoTurbo => { kind := .bool, optional := true }
  | .cpuEpp => { kind := .choice eppChoices, optional := true }
  | .cpuMaxPerfPct => { kind := .int 20 100, optional := true }
  | .loggingRetentionDays => { kind := .int 1 365 }
  | .loggingMaxMib => { kind := .int 16 8192 }

/-- A live configuration. -/
abbrev Settings := Key → Value

/-- `DEFAULTS`. -/
def Settings.defaults : Settings
  | .governorMode => .str "static"
  | .governorStaticCapW => .num 35
  | .governorCeilingW => .num 45
  | .governorFloorW => .num 10
  | .governorBurstW => .num 0
  | .governorShedRatio => .num (88 / 100)
  | .governorEmergencyRatio => .num (94 / 100)
  | .governorRecoverRatio => .num (78 / 100)
  | .governorCutStepW => .num 5
  | .governorRecoverStepW => .num 1
  | .governorRecoverIntervalS => .num 3
  | .governorStaleTimeoutS => .num 2
  | .governorThermalTrimC => .num 97
  | .governorThermalRecoverC => .num 92
  | .governorThermalStepW => .num 1
  | .governorThermalIntervalS => .num 3
  | .gpuMode => .str "auto"
  | .gpuCapW => .num 15
  | .fanMode => .str "floor"
  | .fanPowerFloorW => .num 25
  | .fanPowerFloorRpm => .num 3500
  | .fanT1C => .num 78
  | .fanT1Rpm => .num 3500
  | .fanT2C => .num 84
  | .fanT2Rpm => .num 4500
  | .fanT3C => .num 90
  | .fanT3Rpm => .num 5900
  | .fanHysteresisC => .num 6
  | .fanStepDownIntervalS => .num 20
  | .fanMaxRpm => .num 5900
  | .cpuNoTurbo => .null
  | .cpuEpp => .null
  | .cpuMaxPerfPct => .null
  | .loggingRetentionDays => .num 14
  | .loggingMaxMib => .num 1024

/-! ## `CROSS_RULES` -/

/-- A rule that compares the numbers of two keys. -/
def crossRule (a b : Key) (rel : ℚ → ℚ → Bool) (reason : String) : Rule Key Value String where
  keys := [a, b]
  ok c := rel (c a).number (c b).number
  reason := reason

/-- The rule on the thermal thresholds; without a trim there is none. -/
def thermalRule : Rule Key Value String where
  keys := [.governorThermalRecoverC, .governorThermalTrimC]
  ok c := decide (c .governorThermalTrimC = .null ∨
    (c .governorThermalRecoverC).number ≤ (c .governorThermalTrimC).number - 2 + eps)
  reason := "thermal_recover_c must be <= thermal_trim_c - 2"

/-- `CROSS_RULES`. -/
def crossRules : List (Rule Key Value String) :=
  [crossRule .governorStaticCapW .governorCeilingW (fun cap ceiling => cap ≤ ceiling + eps)
      "static_cap_w must be <= ceiling_w",
    crossRule .governorRecoverRatio .governorShedRatio (fun recover shed => recover ≤ shed - 5 / 100 + eps)
      "recover_ratio must be <= shed_ratio - 0.05",
    crossRule .governorEmergencyRatio .governorShedRatio
      (fun emergency shed => shed + 3 / 100 - eps ≤ emergency)
      "emergency_ratio must be >= shed_ratio + 0.03",
    thermalRule,
    crossRule .fanT1C .fanT2C (fun t1 t2 => t1 < t2 - eps) "t1_c must be < t2_c",
    crossRule .fanT2C .fanT3C (fun t2 t3 => t2 < t3 - eps) "t2_c must be < t3_c",
    crossRule .fanT1Rpm .fanT2Rpm (fun t1 t2 => t1 ≤ t2) "t1_rpm must be <= t2_rpm",
    crossRule .fanT2Rpm .fanT3Rpm (fun t2 t3 => t2 ≤ t3) "t2_rpm must be <= t3_rpm"]

/-! ## `_check_one` and `validate` -/

/-- The text of a rejection. -/
inductive Reason where
  /-- `schema must be 1` -/
  | schema
  /-- `hard_max_w is fixed at 45 W` -/
  | hardMax
  /-- `unknown key` -/
  | unknownKey
  /-- `must be one of {...}` -/
  | oneOf (arg : List String)
  /-- `must be true or false` -/
  | notBool
  /-- `must be a number` -/
  | notNumber
  /-- `must be an integer` -/
  | notInteger
  /-- `out of range {lo:g}..{hi:g}` -/
  | outOfRange (lo hi : ℚ)
  /-- the reason of a cross rule -/
  | rule (reason : String)
  /-- `top level must be an object` -/
  | notObject
  /-- `unreadable, using defaults: {exc}` -/
  | unreadable (exc : String)
  /-- a `ValueError` of `set_gpu` -/
  | gpu (message : String)
deriving DecidableEq, Repr

/-- What `_check_one` finds. -/
inductive Checked where
  /-- the key's own value, normalized -/
  | accepted (k : Key) (v : Value)
  /-- `schema`, which no configuration keeps -/
  | schema
  | rejected (reason : Reason)
  /-- an `OverflowError` of `float` or `int` -/
  | raised
deriving DecidableEq, Repr

/-- `value == SCHEMA`. -/
def Json.isSchema : Json → Bool
  | .bool b => b
  | .int n => n = 1
  | .float q => q = 1
  | _ => false

/-- The range check of `_check_one`. -/
def checkRange (k : Key) (lo hi q : ℚ) : Checked :=
  if lo - eps ≤ q ∧ q ≤ hi + eps then .accepted k (.num q) else .rejected (.outOfRange lo hi)

/-- `_check_one` for a key of `SPEC`. -/
def checkKey (k : Key) (value : Json) : Checked :=
  match k.spec.optional, value, k.spec.kind with
  | true, .null, _ => .accepted k .null
  | _, .str s, .choice arg => if s ∈ arg then .accepted k (.str s) else .rejected (.oneOf arg)
  | _, _, .choice arg => .rejected (.oneOf arg)
  | _, .bool b, .bool => .accepted k (.bool b)
  | _, _, .bool => .rejected .notBool
  | _, .int n, .num lo hi => checkRange k lo hi n
  | _, .float q, .num lo hi => checkRange k lo hi q
  | _, .infinity _, .num lo hi => .rejected (.outOfRange lo hi)
  | _, .int n, .int lo hi =>
    match toFloat n with
    | none => .raised
    | some q => if q ≠ n then .rejected .notInteger else checkRange k lo hi n
  | _, .float q, .int lo hi => if q.den ≠ 1 then .rejected .notInteger else checkRange k lo hi q
  | _, .infinity _, .int _ _ => .raised
  | _, _, _ => .rejected .notNumber

/-- `_check_one`. -/
def checkOne (key : String) (value : Json) : Checked :=
  if key = "schema" then if value.isSchema then .schema else .rejected .schema
  else if key = "governor.hard_max_w" then .rejected .hardMax
  else
    match Key.ofDotted key with
    | none => .rejected .unknownKey
    | some k => checkKey k value

/-- The first loop of `validate`, or none if it raises. -/
def checkAll : Dict Json → (Key → Option Value) → Dict Reason →
    Option ((Key → Option Value) × Dict Reason)
  | [], accepted, rejected => some (accepted, rejected)
  | (key, value) :: updates, accepted, rejected =>
    match checkOne key value with
    | .accepted k v => checkAll updates (Function.update accepted k (some v)) rejected
    | .schema => checkAll updates accepted rejected
    | .rejected reason => checkAll updates accepted (rejected.set key reason)
    | .raised => none

def noUpdate : Key → Option Value := fun _ => none

/-- `rejected.setdefault(k, reason)`. -/
def rejectRule (rejected : Dict Reason) (k : Key) (reason : String) : Dict Reason :=
  rejected.setdefault k.dotted (.rule reason)

/-- `validate`: what is accepted, and what is rejected with its reason; none if it
raises. -/
def validate (updates : Dict Json) (base : Settings) : Option ((Key → Option Value) × Dict Reason) :=
  (checkAll updates noUpdate []).map fun (accepted, rejected) =>
    settle rejectRule crossRules base (crossRules.length + 1) accepted rejected

/-- `apply_updates`. -/
def applyUpdates (cfg : Settings) (updates : Key → Option Value) : Settings := merge cfg updates

/-! ## The file -/

mutual

/-- One item of `flatten`. -/
def flattenValue (key : String) (value : Json) (out : Dict Json) : Dict Json :=
  match value with
  | .obj members => flattenMembers (key ++ ".") members out
  | value => out.set key value

def flattenMembers (pre : String) (members : List (String × Json)) (out : Dict Json) : Dict Json :=
  match members with
  | [] => out
  | item :: members => flattenMembers pre members (flattenItem pre item out)

def flattenItem (pre : String) (item : String × Json) (out : Dict Json) : Dict Json :=
  match item with
  | (k, v) => flattenValue (pre ++ k) v out

end

/-- `flatten`. -/
def flatten (members : List (String × Json)) : Dict Json := flattenMembers "" members []

/-- `from_dict`: the configuration and the problems, none if it raises. -/
def fromDict : Json → Option (Settings × Dict Reason)
  | .obj members =>
    (validate (flatten members) Settings.defaults).map fun (accepted, rejected) =>
      (applyUpdates Settings.defaults accepted, rejected)
  | _ => some (Settings.defaults, [("<file>", .notObject)])

/-- What the file system has under the path of the configuration. -/
inductive File where
  | missing
  | unreadable (exc : String)
  | json (raw : Json)

/-- `load`, or none if it raises. -/
def load : File → Option (Settings × Dict Reason)
  | .missing => some (Settings.defaults, [])
  | .unreadable exc => some (Settings.defaults, [("<file>", .unreadable exc)])
  | .json raw => fromDict raw

/-- The section of a configuration, as `json.dump` writes it. -/
def Settings.sectionJson (c : Settings) (s : Section) : Json :=
  .obj ((Key.all.filter fun k => k.section_ = s).map fun k => (k.name, (c k).toJson))

/-- `save`: the file with the whole configuration. -/
def save (c : Settings) : File :=
  .json (.obj (("schema", .int 1) :: Section.all.map fun s => (s.name, c.sectionJson s)))

end TurboMac.Linux
