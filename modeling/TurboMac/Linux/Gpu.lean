import TurboMac.Linux.Settings

/-! # `gpu.py`: the mode changes -/

namespace TurboMac.Linux

/-- The values of `gpu.mode`. -/
inductive GpuMode where
  | auto
  | low
  | off
deriving DecidableEq, Repr

def GpuMode.name : GpuMode → String
  | .auto => "auto"
  | .low => "low"
  | .off => "off"

/-- `mode in ("auto", "low", "off")`. -/
def GpuMode.ofJson : Json → Option GpuMode
  | .str "auto" => some .auto
  | .str "low" => some .low
  | .str "off" => some .off
  | _ => none

/-- What `apply_mode` returns, without its steps. -/
structure GpuResult where
  ok : Bool
  mode : GpuMode
  reason : String
deriving DecidableEq, Repr

/-- The hardware's part of a mode change: the errors of `_apply_off` and of `_apply_on`. -/
structure GpuOutcome where
  off : Option String
  on : Option String

/-- `apply_mode`; `Gpu.mode` becomes the mode it returns. -/
def applyMode (mode : GpuMode) (outcome : GpuOutcome) : GpuResult :=
  match mode, outcome.off with
  | .off, none => ⟨true, .off, "dGPU off (switcheroo DIS Off)"⟩
  | .off, some res =>
    ⟨false, .low, match outcome.on with
      | none => res
      | some err => res ++ "; revert: " ++ err⟩
  | mode, _ =>
    match outcome.on with
    | none => ⟨true, mode, mode.name ++ " applied"⟩
    | some err => ⟨false, mode, err⟩

end TurboMac.Linux
