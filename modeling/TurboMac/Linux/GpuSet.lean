import TurboMac.Linux.Reload

/-! # Concurrent `gpu.set` requests

`set_gpu` looks whether a change is running, changes the mode under `Gpu.lock`,
and persists the mode reached under `cfg_lock`. Between these steps any other
request may take its own.
-/

namespace TurboMac.Linux

/-- How far a `set_gpu` has come. -/
inductive GpuCall where
  /-- past the busy check -/
  | checked (mode : GpuMode)
  /-- `apply_mode` has returned -/
  | applied (mode : GpuMode)
deriving DecidableEq, Repr

def GpuCall.isApplied : GpuCall → Bool
  | .checked _ => false
  | .applied _ => true

/-- The daemon, who holds `Gpu.lock`, the requests under way, and whether any
`apply_mode` has run. -/
structure GpuShared where
  daemon : Daemon
  lock : Option ℕ
  calls : List (ℕ × GpuCall)
  ran : Bool

/-- A step of a request; requests are numbered. -/
inductive GpuStep where
  | check (call : ℕ) (mode : Json)
  /-- `apply_mode` takes the lock -/
  | lock (call : ℕ)
  /-- the rest of `apply_mode` -/
  | apply (call : ℕ) (outcome : GpuOutcome)
  | persist (call : ℕ) (saveError : Option String)

/-- The file has a mode. -/
def File.Records (file : File) (mode : GpuMode) : Prop :=
  ∃ cfg, file.settings = some cfg ∧ cfg .gpuMode = .str mode.name

namespace GpuShared

def stage (s : GpuShared) (call : ℕ) : Option GpuCall := s.calls.lookup call

/-- The other requests. -/
def others (s : GpuShared) (call : ℕ) : List (ℕ × GpuCall) := s.calls.filter fun item => item.1 ≠ call

/-- The state after a step, if the step can be taken. -/
def step (s : GpuShared) : GpuStep → Option GpuShared
  | .check call mode =>
    if (s.stage call).isSome then none
    else
      match GpuMode.ofJson mode with
      | none => some s
      -- `self.gpu.busy` is looked at without taking the lock
      | some mode =>
        if s.lock.isSome then some s else some { s with calls := (call, .checked mode) :: s.calls }
  | .lock call =>
    match s.stage call, s.lock with
    | some (.checked _), none => some { s with lock := some call }
    | _, _ => none
  | .apply call outcome =>
    match s.stage call with
    | some (.checked mode) =>
      if s.lock ≠ some call then none
      else
        let res := applyMode mode outcome
        some { s with
          daemon := { s.daemon with gpuMode := some res.mode }
          lock := none
          calls := (call, .applied res.mode) :: s.others call
          ran := true }
    | _ => none
  | .persist call saveError =>
    match s.stage call with
    | some (.applied mode) =>
      some { s with
        daemon := s.daemon.persistGpu mode saveError
        calls := s.others call }
    | _ => none

def interleave (s : GpuShared) (steps : List GpuStep) : Option GpuShared := 
  Interleaving.run step s steps

/-- No request is between its `apply_mode` and its persist. -/
def Settled (s : GpuShared) : Prop := (s.calls.any fun item => item.2.isApplied) = false

/-- With every mode change persisted, memory and file have the mode that the last
one left. -/
def Persisted (s : GpuShared) : Prop :=
  s.ran = true → s.Settled → ∀ mode, s.daemon.gpuMode = some mode →
    s.daemon.config .gpuMode = .str mode.name ∧ s.daemon.file.Records mode

/-- A persist that leaves no other to come has the mode of the hardware, and its
save succeeds, or the file has that mode already. -/
def Timely (s : GpuShared) : GpuStep → Prop
  | .persist call saveError =>
    ((s.others call).any fun item => item.2.isApplied) = true ∨
      ∃ mode, s.stage call = some (.applied mode) ∧ s.daemon.gpuMode = some mode ∧
        (saveError = none ∨ s.daemon.file.Records mode)
  | _ => True

/-- What every step keeps. -/
structure Sound (s : GpuShared) : Prop where
  valid : s.daemon.config.Valid
  ran : ∀ call mode, s.stage call = some (.applied mode) → s.ran = true
  mode : s.ran = true → s.daemon.gpuMode.isSome = true

/-! ## Steps -/

section

variable {s s' : GpuShared}

theorem lookup_others (s : GpuShared) (call call' : ℕ) :
    (s.others call).lookup call' = if call' = call then none else s.calls.lookup call' := by
  unfold others
  induction s.calls with
  | nil => simp
  | cons item calls ih =>
      rcases item with ⟨c, stage⟩
      by_cases hc : c = call
      · subst hc
        rw [List.filter_cons_of_neg (by simp), ih]
        by_cases hcall : call' = c
        · simp [hcall]
        · simp [hcall, List.lookup_cons, beq_false_of_ne hcall]
      · rw [List.filter_cons_of_pos (by simpa using hc), List.lookup_cons, List.lookup_cons, ih]
        by_cases hcall : call' = c
        · subst hcall
          simp [hc]
        · simp [beq_false_of_ne hcall]

/-- What a step does. -/
theorem step_cases {x : GpuStep} (hstep : s.step x = some s') :
    (∃ call mode, x = .check call mode ∧ (s' = s ∨ ∃ mode, s.stage call = none ∧
      s' = { s with calls := (call, .checked mode) :: s.calls })) ∨
    (∃ call, x = .lock call ∧ s' = { s with lock := some call }) ∨
    (∃ call outcome mode, x = .apply call outcome ∧ s.stage call = some (.checked mode) ∧
      s' = { s with
        daemon := { s.daemon with gpuMode := some (applyMode mode outcome).mode }
        lock := none
        calls := (call, .applied (applyMode mode outcome).mode) :: s.others call
        ran := true }) ∨
    ∃ call saveError mode, x = .persist call saveError ∧ s.stage call = some (.applied mode) ∧
      s' = { s with
        daemon := s.daemon.persistGpu mode saveError
        calls := s.others call } := by
  cases x with
  | check call mode =>
      rw [step] at hstep
      split at hstep
      · cases hstep
      · rename_i hfresh
        refine .inl ⟨call, mode, rfl, ?_⟩
        split at hstep
        · -- the mode is not known, or not available
          cases hstep
          exact .inl rfl
        · split at hstep
          · cases hstep
            exact .inl rfl
          · cases hstep
            exact .inr ⟨_, by simpa using hfresh, rfl⟩
  | lock call =>
      rw [step] at hstep
      split at hstep
      · cases hstep
        exact .inr (.inl ⟨call, rfl, rfl⟩)
      · cases hstep
  | apply call outcome =>
      rw [step] at hstep
      split at hstep
      · rename_i mode hstage
        split at hstep
        · cases hstep
        · cases hstep
          exact .inr (.inr (.inl ⟨call, outcome, mode, rfl, hstage, rfl⟩))
      · cases hstep
  | persist call saveError =>
      rw [step] at hstep
      split at hstep
      · rename_i mode hstage
        cases hstep
        exact .inr (.inr (.inr ⟨call, saveError, mode, rfl, hstage, rfl⟩))
      · cases hstep

theorem sound_step (h : s.Sound) {x : GpuStep} (hstep : s.step x = some s') : s'.Sound := by
  rcases step_cases hstep with ⟨call, mode, rfl, rfl | ⟨mode, hfresh, rfl⟩⟩ | ⟨call, rfl, rfl⟩ |
    ⟨call, outcome, mode, rfl, hstage, rfl⟩ | ⟨call, saveError, mode, rfl, hstage, rfl⟩
  · exact h
  · constructor
    · exact h.valid
    · intro call' mode' hstage
      rw [stage, List.lookup_cons] at hstage
      split at hstage
      · cases hstage
      · exact h.ran call' mode' hstage
    · exact h.mode
  · exact ⟨h.valid, h.ran, h.mode⟩
  · constructor
    · exact h.valid
    · intro _ _ _
      rfl
    · intro _
      rfl
  · constructor
    · exact persistGpu_valid h.valid mode saveError
    · intro call' mode' hstage'
      rw [stage, lookup_others] at hstage'
      split at hstage'
      · cases hstage'
      · exact h.ran call' mode' hstage'
    · exact h.mode

/-- What the file has after a persist. -/
theorem records_persist {d : Daemon} {mode hardware : GpuMode} (hvalid : d.config.Valid)
    (saveError : Option String) :
    (d.persistGpu mode saveError).file.Records hardware ↔
      saveError = none ∧ mode = hardware ∨ saveError ≠ none ∧ d.file.Records hardware := by
  cases saveError with
  | none =>
      have hload : (d.persistGpu mode none).file.settings = some (d.persistGpu mode none).config := by
        show (load (save (d.persistGpu mode none).config)).map Prod.fst = _
        rw [load_save (persistGpu_valid hvalid mode none), Option.map_some]
      have hname : mode.name = hardware.name ↔ mode = hardware := by
        cases mode <;> cases hardware <;> decide
      rw [File.Records, hload, persistGpu_config]
      simp [hname]
  | some exc => simp [Daemon.persistGpu, Daemon.saved]

/-- A step keeps what is persisted exactly if it is timely. -/
theorem persisted_step_iff (hsound : s.Sound) (h : s.Persisted) {x : GpuStep}
    (hstep : s.step x = some s') : s'.Persisted ↔ s.Timely x := by
  rcases step_cases hstep with ⟨call, mode, rfl, rfl | ⟨mode, hfresh, rfl⟩⟩ | ⟨call, rfl, rfl⟩ |
    ⟨call, outcome, mode, rfl, hstage, rfl⟩ | ⟨call, saveError, mode, rfl, hstage, rfl⟩
  · simp [Timely, h]
  · have hafter : Persisted { s with calls := (call, .checked mode) :: s.calls } := h
    simp [Timely, hafter]
  · have hafter : Persisted { s with lock := some call } := h
    simp [Timely, hafter]
  · -- the request itself has yet to persist
    constructor
    · intro _
      trivial
    · intro _ _ hsettled
      cases hsettled
  · by_cases hother : ((s.others call).any fun item => item.2.isApplied) = true
    · constructor
      · intro _
        exact .inl hother
      · intro _ _ hsettled
        rw [Settled, hother] at hsettled
        cases hsettled
    · have hran : s.ran = true := hsound.ran call mode hstage
      rcases Option.isSome_iff_exists.1 (hsound.mode hran) with ⟨hardware, hhardware⟩
      -- no other call is between hardware and file: this one decides what is saved
      have hmemory : (s.daemon.persistGpu mode saveError).config .gpuMode = .str hardware.name ↔
          mode = hardware := by
        rw [persistGpu_config, Function.update_self]
        cases mode <;> cases hardware <;> decide
      constructor
      · intro hafter
        rcases hafter hran (by simpa [Settled] using hother) hardware hhardware with
          ⟨hconfig, hfile⟩
        rw [hmemory] at hconfig
        subst hconfig
        rw [records_persist hsound.valid] at hfile
        refine .inr ⟨mode, hstage, hhardware, ?_⟩
        rcases hfile with ⟨hsave, -⟩ | ⟨-, hfile⟩
        · exact .inl hsave
        · exact .inr hfile
      · intro htimely _ _ hardware' hhardware'
        rcases htimely.resolve_left hother with ⟨mode', hstage', hmode, hsave⟩
        cases hstage.symm.trans hstage'
        cases hmode.symm.trans hhardware'
        refine ⟨by rw [persistGpu_config, Function.update_self], ?_⟩
        rw [records_persist hsound.valid]
        by_cases hnone : saveError = none
        · exact .inl ⟨hnone, rfl⟩
        · exact .inr ⟨hnone, hsave.resolve_left hnone⟩

end

/-- The daemon with no request under way. -/
def started (d : Daemon) : GpuShared := ⟨d, none, [], false⟩

end GpuShared

/-- Whenever no request is left between its `apply_mode` and its persist, and so once
all have finished, memory and file have the mode that the last `apply_mode` left:
this holds all along an interleaving exactly if each persist that leaves no other
to come has that mode. -/
theorem gpu_mode_persisted_iff (file : File) (gpuMode : Option GpuMode) (requests : List Request)
    (d : Daemon) (hserve : serve file gpuMode requests = some d) (steps : List GpuStep)
    (s : GpuShared) (hrun : (GpuShared.started d).interleave steps = some s) :
    (∀ pre s', pre <+: steps → (GpuShared.started d).interleave pre = some s' → s'.Persisted) ↔
      ∀ pre x s', pre ++ [x] <+: steps → (GpuShared.started d).interleave pre = some s' →
        s'.Timely x := by
  have hvalid : d.config.Valid := by
    rcases Option.bind_eq_some_iff.1 hserve with ⟨d₁, hstart, hrequests⟩
    rcases Option.map_eq_some_iff.1 hstart with ⟨⟨cfg, problems⟩, hload, rfl⟩
    exact foldlM_valid (load_valid hload) requests hrequests
  have hsound : (GpuShared.started d).Sound := by
    constructor
    · exact hvalid
    · intro call mode hstage
      cases hstage
    · intro hran
      cases hran
  have hpersisted : (GpuShared.started d).Persisted := by
    intro hran
    cases hran
  apply Interleaving.always_iff _ _ hsound hpersisted steps hrun
  · intro s x s' h hstep
    exact GpuShared.sound_step h hstep
  · intro s x s' hsound h hstep
    exact GpuShared.persisted_step_iff hsound h hstep

/-- Two requests that change the mode in one order and persist in the other. -/
def crossedSteps : List GpuStep :=
  [.check 0 (.str "off"), .check 1 (.str "low"), .lock 0, .apply 0 ⟨none, none⟩, .lock 1,
    .apply 1 ⟨none, none⟩, .persist 1 none, .persist 0 none]

/-- A request refused while another runs, and a failed power-off. -/
def orderlyGpuSteps : List GpuStep :=
  [.check 0 (.str "off"), .lock 0, .check 1 (.str "auto"), .apply 0 ⟨some "fbcon unbind: EIO", none⟩,
    .persist 0 none]

def sampleGpu : GpuShared := .started ⟨Settings.defaults, .missing, none⟩

theorem gpu_mode_persisted_iff_orderly :
    (∀ pre s', pre <+: orderlyGpuSteps → sampleGpu.interleave pre = some s' → s'.Persisted) ↔
      ∀ pre x s', pre ++ [x] <+: orderlyGpuSteps → sampleGpu.interleave pre = some s' →
        s'.Timely x :=
  gpu_mode_persisted_iff .missing none [] ⟨Settings.defaults, .missing, none⟩ rfl orderlyGpuSteps
    ((sampleGpu.interleave orderlyGpuSteps).get (by decide +kernel)) (Option.some_get _).symm

def crossed : GpuShared := (sampleGpu.interleave crossedSteps).get (by decide +kernel)

/-- Both requests have finished; the hardware is in `low`, and `off` is persisted. -/
theorem gpu_mode_crossed :
    ¬ ∀ (file : File) (gpuMode : Option GpuMode) (requests : List Request) (d : Daemon),
      serve file gpuMode requests = some d → ∀ (steps : List GpuStep) (s : GpuShared),
        (GpuShared.started d).interleave steps = some s → s.calls = [] → s.Persisted := by
  intro hall
  have hdone : crossed.calls = [] := by decide +kernel
  have hpersisted := hall .missing none [] ⟨Settings.defaults, .missing, none⟩ rfl crossedSteps crossed
    (Option.some_get _).symm hdone (by decide +kernel) (by rw [GpuShared.Settled, hdone]; rfl) .low
    (by decide +kernel)
  have hmemory := hpersisted.1
  revert hmemory
  decide +kernel

end TurboMac.Linux
