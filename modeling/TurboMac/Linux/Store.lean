import TurboMac.Linux.Gpu
import TurboMac.Linux.Persist

/-! # `main.py`: the requests that change the configuration

The live configuration, the file it is saved to, and the mode the GPU was last
put in. A request is handled to its end before the next one; what the hardware
and the file system answer is an argument of the request.
-/

namespace TurboMac.Linux

open Repair

structure Daemon where
  config : Settings
  file : File
  /-- `Gpu.mode` -/
  gpuMode : Option GpuMode

/-- What a mode change meets: a change that is running, the hardware, and the
error of the save. -/
structure GpuAnswers where
  busy : Bool
  outcome : GpuOutcome
  saveError : Option String

/-- The reply to `gpu.set`. -/
structure GpuReply where
  result : GpuResult
  persistError : Option String

/-- The reply to `config.set`; the digest is that of `config`. -/
structure ConfigReply where
  accepted : Key → Option Value
  rejected : Dict Reason
  persisted : Bool
  error : Option String
  config : Settings
  gpu : Option GpuReply

namespace Daemon

/-- The file after a `save` of a configuration. -/
def saved (d : Daemon) (c : Settings) (saveError : Option String) : File :=
  if saveError.isNone then save c else d.file

/-- `if accepted:`. -/
def isUpdate (accepted : Key → Option Value) : Bool := Key.all.any fun k => (accepted k).isSome

/-- `set_config` under `cfg_lock`, or none if it raises. -/
def setLocked (d : Daemon) (updates : Dict Json) (saveError : Option String) :
    Option ((Key → Option Value) × Dict Reason × Daemon) :=
  (validate updates d.config).map fun (accepted, rejected) =>
    let new := applyUpdates d.config accepted
    if isUpdate accepted then
      (accepted, rejected, { d with config := new, file := d.saved new saveError })
    else (accepted, rejected, d)

/-- The last part of `set_gpu`, under `cfg_lock`: persist the mode actually reached. -/
def persistGpu (d : Daemon) (mode : GpuMode) (saveError : Option String) : Daemon :=
  let config := applyUpdates d.config (Function.update noUpdate .gpuMode (some (.str mode.name)))
  { d with config := config, file := d.saved config saveError }

/-- `set_gpu`, or the `ValueError` it raises. -/
def setGpu (d : Daemon) (mode : Json) (answers : GpuAnswers) : Except String (GpuReply × Daemon) :=
  match GpuMode.ofJson mode with
  | none => .error "mode must be auto, low or off"
  | some mode =>
    if answers.busy then .error "a GPU mode change is already running"
    else
      let res := applyMode mode answers.outcome
      let d := { d with gpuMode := some res.mode }
      .ok (⟨res, answers.saveError⟩, d.persistGpu res.mode answers.saveError)

/-- `gpu_mode == self.config["gpu"]["mode"]`. -/
def isCurrentMode (d : Daemon) : Json → Bool
  | .str s => d.config .gpuMode = .str s
  | _ => false

/-- `set_config`, or none if it raises. -/
def setConfig (d : Daemon) (updates : Dict Json) (saveError : Option String)
    (answers : GpuAnswers) : Option (ConfigReply × Daemon) := do
  let (accepted, rejected, d) ← d.setLocked (updates.pop "gpu.mode") saveError
  let reply : ConfigReply :=
    { accepted := accepted
      rejected := rejected
      persisted := !isUpdate accepted || saveError.isNone
      error := if isUpdate accepted then saveError else none
      config := d.config
      gpu := none }
  match updates.lookup "gpu.mode" with
  -- `updates.pop("gpu.mode", None)`: a `null` is no request either
  | none | some .null => return (reply, d)
  | some mode =>
    if d.isCurrentMode mode then
      return ({ reply with accepted := Function.update accepted .gpuMode (some (d.config .gpuMode)) }, d)
    else
      match d.setGpu mode answers with
      | .error message => return ({ reply with rejected := rejected.set "gpu.mode" (.gpu message) }, d)
      | .ok (gpu, d) =>
        return ({ reply with
          gpu := some gpu
          accepted := Function.update accepted .gpuMode (some (.str gpu.result.mode.name)) }, d)

/-- `reload_config`, or none if it raises. -/
def reloadConfig (d : Daemon) : Option Daemon :=
  (load d.file).map fun (cfg, _) => { d with config := cfg }

/-- The configuration of a new daemon, or none if `__init__` raises. -/
def start (file : File) (gpuMode : Option GpuMode) : Option Daemon :=
  (load file).map fun (cfg, _) => ⟨cfg, file, gpuMode⟩

end Daemon

/-- What changes the configuration. -/
inductive Request where
  | configSet (updates : Dict Json) (saveError : Option String) (answers : GpuAnswers)
  | configReset (saveError : Option String) (answers : GpuAnswers)
  | gpuSet (mode : Json) (answers : GpuAnswers)
  /-- `SIGHUP`, with a file that may have been edited -/
  | reload (file : File)

/-- `config.flatten(config.DEFAULTS)` without `schema`. -/
def resetUpdates : Dict Json := Settings.defaults.items Key.all

/-- The daemon after a request, or none if its handler raises. -/
def Request.handle (d : Daemon) : Request → Option Daemon
  | .configSet updates saveError answers => (d.setConfig updates saveError answers).map Prod.snd
  | .configReset saveError answers => (d.setConfig resetUpdates saveError answers).map Prod.snd
  | .gpuSet mode answers => (d.setGpu mode answers).toOption.map Prod.snd
  | .reload file => { d with file := file }.reloadConfig

/-- A daemon started on a file, after some requests. -/
def serve (file : File) (gpuMode : Option GpuMode) (requests : List Request) : Option Daemon :=
  (Daemon.start file gpuMode).bind fun d => requests.foldlM Request.handle d

/-! ## Every request leaves a valid configuration -/

section

variable {d d' : Daemon}

theorem setLocked_valid (h : d.config.Valid) {updates : Dict Json} {saveError : Option String}
    {accepted : Key → Option Value} {rejected : Dict Reason}
    (hset : d.setLocked updates saveError = some (accepted, rejected, d')) : d'.config.Valid := by
  unfold Daemon.setLocked at hset
  rw [Option.map_eq_some_iff] at hset
  rcases hset with ⟨⟨accepted', rejected'⟩, hvalidate, hset⟩
  dsimp only at hset
  split at hset
  · cases hset
    exact validate_valid h hvalidate
  · cases hset
    exact h

theorem applyUpdates_one (c : Settings) (k : Key) (v : Value) :
    applyUpdates c (Function.update noUpdate k (some v)) = Function.update c k v := by
  funext k'
  rw [applyUpdates]
  by_cases hk : k' = k
  · subst hk
    rw [Function.update_self]
    exact merge_of_some (Function.update_self _ _ _)
  · rw [Function.update_of_ne hk]
    exact merge_of_none (Function.update_of_ne hk _ _)

theorem persistGpu_config (d : Daemon) (mode : GpuMode) (saveError : Option String) :
    (d.persistGpu mode saveError).config = Function.update d.config .gpuMode (.str mode.name) :=
  applyUpdates_one d.config .gpuMode (.str mode.name)

/-- No cross rule looks at the GPU mode. -/
theorem crossRules_gpuMode {r : Rule Key Value String} (hr : r ∈ crossRules) (c : Settings)
    (v : Value) : r.ok (Function.update c .gpuMode v) = r.ok c := by
  have hkeys : .gpuMode ∉ r.keys := by
    revert r
    decide
  apply local_crossRules r hr
  intro k hk
  apply Function.update_of_ne
  intro heq
  exact hkeys (heq ▸ hk)

/-- The mode that is persisted is one `SPEC` allows, and no rule looks at it. -/
theorem persistGpu_valid (h : d.config.Valid) (mode : GpuMode) (saveError : Option String) :
    (d.persistGpu mode saveError).config.Valid := by
  rw [persistGpu_config]
  constructor
  · intro k
    by_cases hk : k = .gpuMode
    · subst hk
      rw [Function.update_self]
      cases mode <;> decide
    · rw [Function.update_of_ne hk]
      exact h.allows k
  · intro r hr
    rw [crossRules_gpuMode hr]
    exact h.rules r hr

theorem setGpu_valid (h : d.config.Valid) {mode : Json} {answers : GpuAnswers} {reply : GpuReply}
    (hset : d.setGpu mode answers = .ok (reply, d')) : d'.config.Valid := by
  unfold Daemon.setGpu at hset
  split at hset
  · cases hset
  · split at hset
    · cases hset
    · rename_i mode _ _
      cases hset
      have hmode : ({ d with gpuMode := some (applyMode mode answers.outcome).mode } :
          Daemon).config.Valid := h
      exact persistGpu_valid hmode _ answers.saveError

theorem setConfig_valid (h : d.config.Valid) {updates : Dict Json} {saveError : Option String}
    {answers : GpuAnswers} {reply : ConfigReply}
    (hset : d.setConfig updates saveError answers = some (reply, d')) : d'.config.Valid := by
  unfold Daemon.setConfig at hset
  rcases Option.bind_eq_some_iff.1 hset with ⟨⟨accepted, rejected, d₁⟩, hlocked, hset⟩
  have h₁ := setLocked_valid h hlocked
  dsimp only at hset
  split at hset
  · cases hset
    exact h₁
  · cases hset
    exact h₁
  · split at hset
    · cases hset
      exact h₁
    · split at hset
      · cases hset
        exact h₁
      · rename_i hgpu
        cases hset
        exact setGpu_valid h₁ hgpu

theorem handle_valid (h : d.config.Valid) {request : Request}
    (hrun : request.handle d = some d') : d'.config.Valid := by
  cases request with
  | configSet updates saveError answers =>
      rcases Option.map_eq_some_iff.1 hrun with ⟨⟨reply, d₁⟩, hset, rfl⟩
      exact setConfig_valid h hset
  | configReset saveError answers =>
      rcases Option.map_eq_some_iff.1 hrun with ⟨⟨reply, d₁⟩, hset, rfl⟩
      exact setConfig_valid h hset
  | gpuSet mode answers =>
      rcases Option.map_eq_some_iff.1 hrun with ⟨⟨reply, d₁⟩, hset, rfl⟩
      cases hgpu : d.setGpu mode answers with
      | error message =>
          rw [hgpu] at hset
          cases hset
      | ok result =>
          rw [hgpu] at hset
          cases hset
          exact setGpu_valid h hgpu
  | reload file =>
      rcases Option.map_eq_some_iff.1 hrun with ⟨⟨cfg, problems⟩, hload, rfl⟩
      exact load_valid hload

theorem foldlM_valid (h : d.config.Valid) (requests : List Request)
    (hrun : requests.foldlM Request.handle d = some d') : d'.config.Valid := by
  induction requests generalizing d with
  | nil =>
      cases hrun
      exact h
  | cons request requests ih =>
      rw [List.foldlM_cons] at hrun
      rcases Option.bind_eq_some_iff.1 hrun with ⟨d₁, hhandle, hrest⟩
      exact ih (handle_valid h hhandle) hrest

end

/-- Whatever the file of the start and the requests since: the live configuration
satisfies every bound and every cross rule; and the rounds of `validate` always
end with no rule broken over a valid base. -/
theorem live_config_valid (file : File) (gpuMode : Option GpuMode) (requests : List Request)
    (d : Daemon) (hrun : serve file gpuMode requests = some d) :
    d.config.Valid ∧
      ∀ (base : Settings) (updates : Dict Json) (accepted : Key → Option Value)
        (rejected : Dict Reason), base.Valid → validate updates base = some (accepted, rejected) →
        ∀ r ∈ crossRules, r.ok (applyUpdates base accepted) = true := by
  constructor
  · rcases Option.bind_eq_some_iff.1 hrun with ⟨d₁, hstart, hrequests⟩
    rcases Option.map_eq_some_iff.1 hstart with ⟨⟨cfg, problems⟩, hload, rfl⟩
    exact foldlM_valid (load_valid hload) requests hrequests
  · intro base updates accepted rejected hbase hvalidate
    exact (validate_valid hbase hvalidate).rules

/-- An update with a broken chain of ratios, an edited file, and mode changes. -/
def sampleRequests : List Request :=
  let answers : GpuAnswers := ⟨false, ⟨some "fbcon unbind: EIO", none⟩, none⟩
  [.configSet [("governor.shed_ratio", .float (3 / 4)), ("governor.emergency_ratio", .float (19 / 25)),
      ("fan.max_rpm", .str "fast"), ("gpu.mode", .str "off")] none answers,
    .reload (.json (.obj [("governor", .obj [("ceiling_w", .int 30)]), ("schema", .int 1)])),
    .gpuSet (.str "low") answers,
    .configReset (some "EROFS") answers]

theorem live_config_valid_sample :
    ((serve .missing none sampleRequests).get (by decide +kernel)).config.Valid :=
  (live_config_valid .missing none sampleRequests _ (Option.some_get _).symm).1

end TurboMac.Linux
