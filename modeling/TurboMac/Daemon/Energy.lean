import Mathlib.Data.Rat.Floor
import TurboMac.Kext.Codec

/-! # `Energy.h`

Package power from two readings of the energy counter, whose difference wraps
at 32 bits.
-/

namespace TurboMac.Daemon

open Kext (U32 U64)

/-- `turboMacPackagePowerWatts`, or none if it returns false. -/
def packagePowerWatts (previousRaw currentRaw energyExponent : U32) (elapsedSeconds : ℚ) :
    Option ℚ :=
  if 32 ≤ energyExponent ∨ elapsedSeconds ≤ 0 ∨ 2 < elapsedSeconds then none
  else
    let delta := currentRaw - previousRaw
    let joules : ℚ := delta.toNat / 2 ^ energyExponent.toNat
    let result := joules / elapsedSeconds
    if result < 0 ∨ 500 < result then none else some result

/-- `TurboMacEnergySampleResult`, with the watts of a valid one. -/
inductive EnergySampleResult where
  | baseline
  | valid (watts : ℚ)
  | invalid
deriving DecidableEq, Repr

structure EnergyTracker where
  initialized : Bool
  previousRaw : U32
  previousTime : ℚ
deriving DecidableEq, Repr

namespace EnergyTracker

/-- `reset`. -/
def reset : EnergyTracker := ⟨false, 0, -1⟩

/-- `sample`. -/
def sample (tracker : EnergyTracker) (currentRaw energyExponent : U32) (nowSeconds : ℚ) :
    EnergySampleResult × EnergyTracker :=
  if nowSeconds < 0 then (.invalid, tracker)
  else if tracker.initialized = false then (.baseline, ⟨true, currentRaw, nowSeconds⟩)
  else
    let elapsed := nowSeconds - tracker.previousTime
    let result :=
      match packagePowerWatts tracker.previousRaw currentRaw energyExponent elapsed with
      | some watts => .valid watts
      | none => .invalid
    (result, { tracker with previousRaw := currentRaw, previousTime := nowSeconds })

end EnergyTracker

end TurboMac.Daemon
