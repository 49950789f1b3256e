import Mathlib.Data.Char
import Mathlib.Data.List.Lex
import Mathlib.Data.List.Sort
import TurboMac.Kext.Codec
import TurboMac.Lib.Decimal

/-! # `Profile.cpp`: `ProfileStore`

The calibration profile, its text and its checks. A `std::string` is a list with a
character for each byte. A number is rational; `std::isfinite` holds of each, and
`strtod` reads what the text says (of its forms, the hexadecimal ones are left
out). The files themselves are an argument of `load` and `save`.
-/

namespace TurboMac.Daemon

open Decimal
open Kext (U32)

abbrev Text := List Char

structure MachineIdentity where
  hardwareUUID : Text := []
  modelIdentifier : Text := []
  cpuBrand : Text := []
  osProductVersion : Text := []
  osBuild : Text := []
  pdtrType : Text := []
  acpwType : Text := []
deriving DecidableEq

structure CalibrationProfile where
  schemaVersion : U32 := 2
  identity : MachineIdentity := {}
  calibratedCapacityW : ℚ := 0
  reserveW : ℚ := 2
  raplFloorW : ℚ := 0
  raplCeilingPL1W : ℚ := 0
  raplCeilingPL2W : ℚ := 0
  cruisePL2BurstW : ℚ := 0
  packageToInputSlope : ℚ := 1
  packageToInputInterceptW : ℚ := 0
  guardRatio : ℚ := 5661 / 10000
  shedRatio : ℚ := 6541 / 10000
  emergencyRatio : ℚ := 7296 / 10000
  cruiseTargetRatio : ℚ := 5661 / 10000
  guardTargetRatio : ℚ := 5221 / 10000
  shedTargetRatio : ℚ := 4781 / 10000
  calibrationPointCount : U32 := 0
  validationPassed : Bool := false
  autoArm : Bool := false
  calibratedAt : Int64 := 0
  validatedAt : Int64 := 0
deriving DecidableEq

namespace ProfileStore

/-! ## Checks -/

/-- `safeText`. -/
def safeText (value : Text) : Bool :=
  decide (value ≠ [] ∧ value.length ≤ 256) &&
    value.all fun character =>
      decide (¬ (character.toNat < 0x20 ∨ character.toNat = 0x7f ∨ character = '='))

/-- `validate`. -/
def validate (profile : CalibrationProfile) : Bool :=
  decide (
    (profile.schemaVersion = 1 ∨ profile.schemaVersion = 2) ∧
    safeText profile.identity.hardwareUUID = true ∧
    safeText profile.identity.modelIdentifier = true ∧
    safeText profile.identity.cpuBrand = true ∧
    safeText profile.identity.osProductVersion = true ∧
    safeText profile.identity.osBuild = true ∧
    safeText profile.identity.pdtrType = true ∧
    safeText profile.identity.acpwType = true ∧
    10 ≤ profile.calibratedCapacityW ∧
    profile.calibratedCapacityW ≤ 250 ∧
    2 ≤ profile.reserveW ∧
    profile.reserveW ≤ 20 ∧
    1 ≤ profile.raplFloorW ∧
    profile.raplFloorW ≤ profile.raplCeilingPL1W ∧
    profile.raplCeilingPL1W ≤ profile.raplCeilingPL2W ∧
    0 ≤ profile.cruisePL2BurstW ∧
    profile.cruisePL2BurstW ≤ 20 ∧
    1 / 4 ≤ profile.packageToInputSlope ∧
    profile.packageToInputSlope ≤ 4 ∧
    -20 ≤ profile.packageToInputInterceptW ∧
    profile.packageToInputInterceptW ≤ 100 ∧
    1 / 10 ≤ profile.guardRatio ∧
    profile.guardRatio < profile.shedRatio ∧
    profile.shedRatio < profile.emergencyRatio ∧
    profile.emergencyRatio ≤ 95 / 100 ∧
    5 / 100 ≤ profile.shedTargetRatio ∧
    profile.shedTargetRatio < profile.guardTargetRatio ∧
    profile.guardTargetRatio < profile.cruiseTargetRatio ∧
    profile.cruiseTargetRatio ≤ profile.guardRatio ∧
    1 ≤ profile.calibrationPointCount ∧
    0 < profile.calibratedAt ∧
    (profile.validationPassed = true → profile.calibratedAt ≤ profile.validatedAt) ∧
    (profile.validationPassed = false → profile.validatedAt = 0) ∧
    (profile.autoArm = true → profile.validationPassed = true))

/-- `matches`. -/
def «matches» (profile : CalibrationProfile) (identity : MachineIdentity) : Bool :=
  profile.identity == identity

/-! ## `save` -/

/-- `line`, of a text. -/
def line (key : String) (value : Text) : Text := key.toList ++ '=' :: value ++ ['\n']

/-- `snprintf(buffer, sizeof(buffer), "%.6f", value)`, with a buffer of 64. -/
def numberText (value : ℚ) : Text := (ofRat 6 value).take 63

def flagText (value : Bool) : Text := if value then "true".toList else "false".toList

/-- What `save` writes for the keys, in its order. -/
def entries (profile : CalibrationProfile) : List (String × Text) :=
  [("schema_version", ofInt profile.schemaVersion.toNat),
    ("hardware_uuid", profile.identity.hardwareUUID),
    ("model_identifier", profile.identity.modelIdentifier),
    ("cpu_brand", profile.identity.cpuBrand),
    ("os_product_version", profile.identity.osProductVersion),
    ("os_build", profile.identity.osBuild),
    ("smc_pdtr_type", profile.identity.pdtrType),
    ("smc_acpw_type", profile.identity.acpwType),
    ("calibrated_capacity_w", numberText profile.calibratedCapacityW),
    ("reserve_w", numberText profile.reserveW),
    ("rapl_floor_w", numberText profile.raplFloorW),
    ("rapl_ceiling_pl1_w", numberText profile.raplCeilingPL1W),
    ("rapl_ceiling_pl2_w", numberText profile.raplCeilingPL2W),
    ("cruise_pl2_burst_w", numberText profile.cruisePL2BurstW),
    ("package_to_input_slope", numberText profile.packageToInputSlope),
    ("package_to_input_intercept_w", numberText profile.packageToInputInterceptW)] ++
  (if profile.schemaVersion = 2 then
    [("guard_ratio", numberText profile.guardRatio),
      ("shed_ratio", numberText profile.shedRatio),
      ("emergency_ratio", numberText profile.emergencyRatio),
      ("cruise_target_ratio", numberText profile.cruiseTargetRatio),
      ("guard_target_ratio", numberText profile.guardTargetRatio),
      ("shed_target_ratio", numberText profile.shedTargetRatio)]
  else []) ++
  [("calibration_point_count", ofInt profile.calibrationPointCount.toNat),
    ("validation_passed", flagText profile.validationPassed),
    ("auto_arm", flagText profile.autoArm),
    ("calibrated_at", ofInt profile.calibratedAt.toInt),
    ("validated_at", ofInt profile.validatedAt.toInt)]

/-- `content` of `save`. -/
def content (profile : CalibrationProfile) : Text :=
  "# TurboMac RAPL calibration profile v".toList ++ ofInt profile.schemaVersion.toNat ++ ['\n'] ++
    (entries profile).flatMap fun entry => line entry.1 entry.2

/-- `save`: what it commits, if the file system lets it. -/
def save (profile : CalibrationProfile) (filesystem : Except String Unit) : Except String Text :=
  if !validate profile then .error "calibration profile failed bounds validation"
  else filesystem.map fun _ => content profile

/-! ## `load` -/

def isSpace (character : Char) : Bool :=
  decide (character = ' ' ∨ 9 ≤ character.toNat ∧ character.toNat ≤ 13)

/-- `parseDouble`; `errno` is set where the number is too large or too small. -/
def parseDouble (input : Text) : Option ℚ :=
  (toRat (input.dropWhile isSpace)).filter fun parsed =>
    decide (parsed = 0 ∨ 2 ^ (-1022 : ℤ) ≤ |parsed| ∧ |parsed| < 2 ^ 1024 - 2 ^ 970)

/-- `parseInt64`; `errno` is set where the number is out of range. -/
def parseInt64 (input : Text) : Option Int64 :=
  (toInt (input.dropWhile isSpace)).bind fun parsed =>
    if -2 ^ 63 ≤ parsed ∧ parsed < 2 ^ 63 then some (Int64.ofInt parsed) else none

/-- One turn of the loop of `load` over the lines. -/
def readLine (values : List (Text × Text)) (current : Text) : Except String (List (Text × Text)) :=
  if current = [] ∨ current.head? = some '#' then .ok values
  else
    let key := current.takeWhile (· ≠ '=')
    if key.length = current.length ∨ key = [] then .error "profile contains a malformed line"
    else
      let value := current.drop (key.length + 1)
      if !safeText key || !safeText value || values.any (·.1 = key) then
        .error "profile contains an invalid or duplicate key"
      else .ok (values ++ [(key, value)])

/-- The loop of `load` over the lines. -/
def readLines (lines : List Text) : Except String (List (Text × Text)) := lines.foldlM readLine []

def «common» : List String :=
  ["schema_version", "hardware_uuid", "model_identifier", "cpu_brand",
    "os_product_version", "os_build", "smc_pdtr_type", "smc_acpw_type",
    "calibrated_capacity_w", "reserve_w", "rapl_floor_w",
    "rapl_ceiling_pl1_w", "rapl_ceiling_pl2_w", "cruise_pl2_burst_w",
    "package_to_input_slope", "package_to_input_intercept_w",
    "calibration_point_count", "validation_passed", "auto_arm",
    "calibrated_at", "validated_at"]

/-- The keys that schema 2 has too. -/
def policyKeys : List String :=
  ["guard_ratio", "shed_ratio", "emergency_ratio",
    "cruise_target_ratio", "guard_target_ratio", "shed_target_ratio"]

/-- `values[key]`. -/
def get (values : List (Text × Text)) (key : String) : Text := (values.lookup key.toList).getD []

/-- The flag of `values[key]`, if it is one. -/
def parseFlag (input : Text) : Option Bool :=
  if input = "true".toList then some true else if input = "false".toList then some false else none

/-- The powers, the times and the flags. -/
def readPowers (values : List (Text × Text)) : Option CalibrationProfile := do
  let calibratedCapacityW ← parseDouble (get values "calibrated_capacity_w")
  let reserveW ← parseDouble (get values "reserve_w")
  let raplFloorW ← parseDouble (get values "rapl_floor_w")
  let raplCeilingPL1W ← parseDouble (get values "rapl_ceiling_pl1_w")
  let raplCeilingPL2W ← parseDouble (get values "rapl_ceiling_pl2_w")
  let cruisePL2BurstW ← parseDouble (get values "cruise_pl2_burst_w")
  let packageToInputSlope ← parseDouble (get values "package_to_input_slope")
  let packageToInputInterceptW ← parseDouble (get values "package_to_input_intercept_w")
  let calibratedAt ← parseInt64 (get values "calibrated_at")
  let validatedAt ← parseInt64 (get values "validated_at")
  let validationPassed ← parseFlag (get values "validation_passed")
  let autoArm ← parseFlag (get values "auto_arm")
  return {
    calibratedCapacityW := calibratedCapacityW
    reserveW := reserveW
    raplFloorW := raplFloorW
    raplCeilingPL1W := raplCeilingPL1W
    raplCeilingPL2W := raplCeilingPL2W
    cruisePL2BurstW := cruisePL2BurstW
    packageToInputSlope := packageToInputSlope
    packageToInputInterceptW := packageToInputInterceptW
    calibratedAt := calibratedAt
    validatedAt := validatedAt
    validationPassed := validationPassed
    autoArm := autoArm }

/-- The control policy of schema 2. -/
def readPolicy (values : List (Text × Text)) (profile : CalibrationProfile) :
    Option CalibrationProfile := do
  let guardRatio ← parseDouble (get values "guard_ratio")
  let shedRatio ← parseDouble (get values "shed_ratio")
  let emergencyRatio ← parseDouble (get values "emergency_ratio")
  let cruiseTargetRatio ← parseDouble (get values "cruise_target_ratio")
  let guardTargetRatio ← parseDouble (get values "guard_target_ratio")
  let shedTargetRatio ← parseDouble (get values "shed_target_ratio")
  return { profile with
    guardRatio := guardRatio
    shedRatio := shedRatio
    emergencyRatio := emergencyRatio
    cruiseTargetRatio := cruiseTargetRatio
    guardTargetRatio := guardTargetRatio
    shedTargetRatio := shedTargetRatio }

/-- The count of calibration points, of 32 bits and not 0. -/
def parsePointCount (input : Text) : Option U32 :=
  (parseInt64 input).bind fun pointCount =>
    if pointCount.toInt < 1 ∨ 2 ^ 32 - 1 < pointCount.toInt then none
    else some (BitVec.ofInt 32 pointCount.toInt)

/-- What `load` makes of the values. -/
def readValues (values : List (Text × Text)) : Except String CalibrationProfile :=
  let schema := (values.lookup "schema_version".toList).bind parseInt64
  let expected := «common» ++ if schema = some 2 then policyKeys else []
  if schema ≠ some 1 ∧ schema ≠ some 2 then .error "profile contains an unsupported schema version"
  else if values.length ≠ expected.length then .error "profile has missing or unexpected keys"
  else
    match (values.insertionSort fun item item' => item.1 ≤ item'.1).find? fun item =>
        expected.all fun key => key.toList ≠ item.1 with
    | some item => .error (String.ofList ("profile has an unexpected key: ".toList ++ item.1))
    | none =>
      match readPowers values with
      | none => .error "profile contains an invalid value"
      | some profile =>
        match if schema = some 2 then readPolicy values profile else some profile with
        | none => .error "profile contains an invalid control policy"
        | some profile =>
          match parsePointCount (get values "calibration_point_count") with
          | none => .error "profile contains an invalid calibration point count"
          | some pointCount =>
            .ok { profile with
              calibrationPointCount := pointCount
              schemaVersion := if schema = some 2 then 2 else 1
              identity := {
                hardwareUUID := get values "hardware_uuid"
                modelIdentifier := get values "model_identifier"
                cpuBrand := get values "cpu_brand"
                osProductVersion := get values "os_product_version"
                osBuild := get values "os_build"
                pdtrType := get values "smc_pdtr_type"
                acpwType := get values "smc_acpw_type" } }

/-- `load`, of what the protected file holds, if it can be read. -/
def load (file : Except String Text) : Except String CalibrationProfile := do
  let content ← file
  if 16384 < content.length then throw "profile is too large"
  let values ← readLines (content.splitOn '\n')
  let profile ← readValues values
  if validate profile then return profile
  else throw "calibration profile failed bounds validation"

end ProfileStore

end TurboMac.Daemon
