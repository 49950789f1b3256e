import TurboMac.Linux.Store

/-! # `config.reset`

A reset is an update with every default. The cross rules are checked on the
merge, in which nothing of the live configuration is left but the GPU mode, and
no rule looks at that; so nothing is rejected. The GPU mode itself is a request
to the hardware, refused while another one is running.
-/

namespace TurboMac.Linux

open Repair

/-- The keys that a reset gives to `validate`. -/
def resetKeys : List Key := Key.all.filter fun k => k ≠ .gpuMode

theorem dotted_eq_gpuMode (k : Key) : k.dotted ≠ "gpu.mode" ↔ k ≠ .gpuMode := by
  cases k <;> decide +kernel

theorem resetUpdates_pop : resetUpdates.pop "gpu.mode" = Settings.defaults.items resetKeys := by
  unfold resetUpdates Dict.pop Settings.items resetKeys
  rw [List.filter_map]
  apply congrArg (List.map _)
  apply List.filter_congr
  intro k _
  simp only [Function.comp_apply, decide_eq_decide]
  exact dotted_eq_gpuMode k

theorem resetUpdates_lookup : resetUpdates.lookup "gpu.mode" = some (.str "auto") := rfl

/-- What a reset accepts. -/
def resetAccepted (k : Key) : Option Value :=
  if k = .gpuMode then none else some (Settings.defaults k)

theorem merge_resetAccepted (base : Settings) :
    merge base resetAccepted = Function.update Settings.defaults .gpuMode (base .gpuMode) := by
  funext k
  by_cases hk : k = .gpuMode
  · subst hk
    rw [Function.update_self]
    exact merge_of_none rfl
  · rw [Function.update_of_ne hk]
    exact merge_of_some (if_neg hk)

/-- Against any configuration, every default is accepted. -/
theorem validate_reset (base : Settings) :
    validate (resetUpdates.pop "gpu.mode") base = some (resetAccepted, []) := by
  have hcheck : checkAll (resetUpdates.pop "gpu.mode") noUpdate [] = some (resetAccepted, []) := by
    rw [resetUpdates_pop]
    refine (checkAll_items (fun k => (Settings.defaults k).written_toJson) defaults_valid.allows
      resetKeys noUpdate []).trans ?_
    congr 2
    funext k
    by_cases hk : k = .gpuMode
    · simp [resetAccepted, resetKeys, noUpdate, hk]
    · simp [resetAccepted, resetKeys, hk, Key.mem_all]
  simp only [validate, hcheck, Option.map_some]
  rw [settle_of_ok]
  intro r hr
  rw [merge_resetAccepted, crossRules_gpuMode hr]
  exact defaults_valid.rules r hr

/-! ## The request -/

/-- The defaults, with some GPU mode. -/
theorem defaults_gpuMode_iff (v : Value) :
    Function.update Settings.defaults .gpuMode v = Settings.defaults ↔ v = .str "auto" := by
  constructor
  · intro h
    have hmode := congrFun h .gpuMode
    rw [Function.update_self] at hmode
    exact hmode
  · rintro rfl
    exact Function.update_eq_self Key.gpuMode Settings.defaults

/-- A reset rejects nothing but, perhaps, the GPU mode, and leaves the defaults
but for it. -/
structure ResetOutcome (d : Daemon) (answers : GpuAnswers) (reply : ConfigReply) (d' : Daemon) :
    Prop where
  accepted : ∀ k : Key, k ≠ .gpuMode → reply.accepted k = some (Settings.defaults k)
  rejected : ∀ item ∈ reply.rejected, item.1 = "gpu.mode"
  config : ∀ k : Key, k ≠ .gpuMode → d'.config k = Settings.defaults k
  defaults_iff : d'.config = Settings.defaults ↔
    d.config .gpuMode = .str "auto" ∨ answers.busy = false

/-- The daemon once the other keys are reset. -/
def Daemon.resetLocked (d : Daemon) (saveError : Option String) : Daemon :=
  let config := Function.update Settings.defaults .gpuMode (d.config .gpuMode)
  { d with config := config, file := d.saved config saveError }

theorem setLocked_reset (d : Daemon) (saveError : Option String) :
    d.setLocked (resetUpdates.pop "gpu.mode") saveError =
      some (resetAccepted, [], d.resetLocked saveError) := by
  have hupdate : Daemon.isUpdate resetAccepted = true := by decide
  rw [Daemon.setLocked, validate_reset, Option.map_some]
  dsimp only
  rw [if_pos hupdate, applyUpdates, merge_resetAccepted]
  rfl

theorem setConfig_reset (d : Daemon) (saveError : Option String) (answers : GpuAnswers) :
    ∃ reply d', d.setConfig resetUpdates saveError answers = some (reply, d') ∧
      ResetOutcome d answers reply d' := by
  have hother : ∀ (v : Value) (k : Key), k ≠ .gpuMode →
      Function.update Settings.defaults .gpuMode v k = Settings.defaults k := by
    intro v k hk
    exact Function.update_of_ne hk _ _
  have haccepted : ∀ k : Key, k ≠ .gpuMode → resetAccepted k = some (Settings.defaults k) := by
    intro k hk
    exact if_neg hk
  unfold Daemon.setConfig
  rw [setLocked_reset, Option.bind_eq_bind, Option.bind_some, resetUpdates_lookup]
  dsimp only
  have hmode : (d.resetLocked saveError).config .gpuMode = d.config .gpuMode := by
    exact Function.update_self Key.gpuMode (d.config .gpuMode) Settings.defaults
  by_cases hcurrent : d.config .gpuMode = .str "auto"
  · -- the mode is the default one already
    have hsame : (d.resetLocked saveError).isCurrentMode (.str "auto") = true := by
      simp [Daemon.isCurrentMode, hmode, hcurrent]
    rw [if_pos hsame]
    refine ⟨_, _, rfl, ?_, ?_, ?_, ?_⟩
    · intro k hk
      exact (Function.update_of_ne hk _ _).trans (haccepted k hk)
    · intro item hitem
      cases hitem
    · exact hother _
    · exact ⟨fun _ => .inl hcurrent, fun _ => (defaults_gpuMode_iff _).2 hcurrent⟩
  have hchange : (d.resetLocked saveError).isCurrentMode (.str "auto") ≠ true := by
    simp [Daemon.isCurrentMode, hmode, hcurrent]
  rw [if_neg hchange]
  cases hbusy : answers.busy with
  | true =>
      have hrefused : (d.resetLocked saveError).setGpu (.str "auto") answers =
          .error "a GPU mode change is already running" := by
        simp [Daemon.setGpu, GpuMode.ofJson, hbusy]
      rw [hrefused]
      refine ⟨_, _, rfl, haccepted, ?_, hother _, ?_⟩
      · intro item hitem
        rw [List.mem_singleton.1 hitem]
      · refine (defaults_gpuMode_iff _).trans ?_
        simp [hbusy]
  | false =>
      -- whatever the hardware answers, the mode that `auto` reaches is `auto`
      have happlied : (applyMode .auto answers.outcome).mode = .auto := by
        unfold applyMode
        cases answers.outcome.on <;> rfl
      have hgpu : (d.resetLocked saveError).setGpu (.str "auto") answers =
          .ok (⟨applyMode .auto answers.outcome, answers.saveError⟩,
            { d.resetLocked saveError with gpuMode := some .auto }.persistGpu .auto
              answers.saveError) := by
        simp [Daemon.setGpu, GpuMode.ofJson, hbusy, happlied]
      have hconfig : ({ d.resetLocked saveError with gpuMode := some .auto }.persistGpu .auto
          answers.saveError).config = Settings.defaults := by
        rw [persistGpu_config]
        refine (Function.update_idem _ _ _).trans ?_
        exact (defaults_gpuMode_iff _).2 rfl
      rw [hgpu]
      refine ⟨_, _, rfl, ?_, ?_, ?_, ?_⟩
      · intro k hk
        exact (Function.update_of_ne hk _ _).trans (haccepted k hk)
      · intro item hitem
        cases hitem
      · intro k _
        exact congrFun hconfig k
      · exact ⟨fun _ => .inr hbusy, fun _ => hconfig⟩

/-! ## Round trip and reset -/

/-- A saved configuration is read as it was, however far from the defaults; every
default is accepted over any live configuration; and a reset leaves the defaults,
the GPU mode apart where another change of it is running. -/
theorem config_round_trip_and_reset :
    (∀ (c : Settings) (written : Key → Json), c.Valid → (∀ k, (c k).Written (written k)) →
      fromDict (configJson written) = some (c, [])) ∧
    (∀ base : Settings, validate (resetUpdates.pop "gpu.mode") base = some (resetAccepted, [])) ∧
    ∀ (d : Daemon) (saveError : Option String) (answers : GpuAnswers), ∃ reply d',
      d.setConfig resetUpdates saveError answers = some (reply, d') ∧
        ResetOutcome d answers reply d' := by
  refine ⟨?_, validate_reset, setConfig_reset⟩
  intro c written hvalid hwritten
  exact fromDict_configJson hwritten hvalid

/-- A configuration at the other end of most ranges, without a thermal trim. -/
def farSettings : Settings
  | .governorMode => .str "dynamic"
  | .governorStaticCapW => .num 10
  | .governorCeilingW => .num 10
  | .governorFloorW => .num (37 / 2)
  | .governorShedRatio => .num (70 / 100)
  | .governorEmergencyRatio => .num (73 / 100)
  | .governorRecoverRatio => .num (1 / 2)
  | .governorThermalTrimC => .null
  | .fanT1C => .num 50
  | .fanT1Rpm => .num 2000
  | .fanT2C => .num 51
  | .fanT2Rpm => .num 2000
  | .fanT3C => .num 52
  | .fanT3Rpm => .num 2000
  | .cpuNoTurbo => .bool true
  | .cpuEpp => .str "power"
  | k => Settings.defaults k

theorem farSettings_valid : farSettings.Valid := by
  constructor
  · intro k
    cases k <;> decide +kernel
  · decide +kernel

theorem config_round_trip_far : fromDict (configJson fun k => (farSettings k).toJson) =
    some (farSettings, []) :=
  config_round_trip_and_reset.1 farSettings _ farSettings_valid fun k => (farSettings k).written_toJson

/-- A reset while the GPU mode is being changed. -/
theorem reset_refused :
    let d : Daemon := ⟨Function.update Settings.defaults .gpuMode (.str "off"), .missing, some .off⟩
    d.config.Valid ∧ ∃ d', Request.handle d (.configReset none ⟨true, ⟨none, none⟩, none⟩) = some d' ∧
      d'.config ≠ Settings.defaults := by
  intro d
  constructor
  · constructor
    · intro k
      cases k <;> decide +kernel
    · decide +kernel
  · rcases setConfig_reset d none ⟨true, ⟨none, none⟩, none⟩ with ⟨reply, d', hset, houtcome⟩
    refine ⟨d', ?_, ?_⟩
    · rw [Request.handle, hset]
      rfl
    · rw [ne_eq, houtcome.defaults_iff]
      decide

end TurboMac.Linux
