import TurboMac.Lib.Interleaving
import TurboMac.Linux.Store

/-! # `reload_config` beside `set_config`

`set_config` validates, saves and assigns under `cfg_lock`, in one step.
`reload_config` reads the file in one step and takes the lock for its assignment
in another. The calls are interleaved in any order; every save succeeds.
-/

namespace TurboMac.Linux

/-- The daemon, the reloads between their two steps, and for each key the value
that a `set_config` accepted last. -/
structure Shared where
  daemon : Daemon
  loaded : List (ℕ × Settings)
  last : Key → Option Value

/-- One step of a call; reloads are numbered. -/
inductive ConfigStep where
  | set (updates : Dict Json)
  | load (call : ℕ)
  | assign (call : ℕ)

/-- The configuration that the file has. -/
def File.settings (file : File) : Option Settings := (load file).map Prod.fst

namespace Shared

/-- A `set_config` that raises changes nothing. -/
def setStep (s : Shared) (updates : Dict Json) : Shared :=
  match s.daemon.setLocked (updates.pop "gpu.mode") none with
  | none => s
  | some (accepted, _, d) =>
    { s with
      daemon := d
      last := fun k => (accepted k).or (s.last k) }

/-- The state after a step, if the step can be taken. -/
def step (s : Shared) : ConfigStep → Option Shared
  | .set updates => some (s.setStep updates)
  | .load call =>
    if (s.loaded.lookup call).isSome then none
    else s.daemon.file.settings.map fun cfg => { s with loaded := (call, cfg) :: s.loaded }
  | .assign call =>
    (s.loaded.lookup call).map fun cfg =>
      { s with
        daemon := { s.daemon with config := cfg }
        loaded := s.loaded.filter fun item => item.1 ≠ call }

/-- The state after an interleaving. -/
def interleave (s : Shared) (steps : List ConfigStep) : Option Shared := Interleaving.run step s steps

/-- Memory and file have one configuration, and in it every value that was accepted last. -/
structure Agrees (s : Shared) : Prop where
  file : s.daemon.file.settings = some s.daemon.config
  last : ∀ k v, s.last k = some v → s.daemon.config k = v

/-- What a reload assigns is what the file has. -/
def Current (s : Shared) : ConfigStep → Prop
  | .assign call =>
    ∀ cfg, s.loaded.lookup call = some cfg → s.daemon.file.settings = some cfg
  | _ => True

/-! ## Steps -/

section

variable {s s' : Shared}

/-- `set_config` saves what it assigns. -/
theorem agrees_setStep (h : s.Agrees) (hvalid : s.daemon.config.Valid) (updates : Dict Json) :
    (s.setStep updates).Agrees := by
  unfold setStep
  split
  · exact h
  · rename_i accepted rejected d hset
    have hvalid' := setLocked_valid hvalid hset
    unfold Daemon.setLocked at hset
    rcases Option.map_eq_some_iff.1 hset with ⟨⟨accepted', rejected'⟩, -, heq⟩
    dsimp only at heq
    split at heq
    · -- an update: file and memory are written together
      cases heq
      constructor
      · dsimp only [File.settings, Daemon.saved]
        rw [if_pos (by rfl), load_save hvalid']
        rfl
      · intro k v hlast
        dsimp only at hlast ⊢
        cases hk : accepted k with
        | some v' =>
            rw [hk] at hlast
            cases hlast
            exact Repair.merge_of_some hk
        | none =>
            rw [hk] at hlast
            rw [applyUpdates, Repair.merge_of_none hk]
            exact h.last k v hlast
    · -- nothing is accepted, so nothing changes
      rename_i hupdate
      cases heq
      have hnone : ∀ k, accepted k = none := by
        intro k
        have hkeys : ∀ k ∈ Key.all, accepted k = none := by simpa [Daemon.isUpdate] using hupdate
        exact hkeys k (Key.mem_all k)
      constructor
      · exact h.file
      · intro k v hlast
        apply h.last k v
        simpa [hnone k] using hlast

theorem settings_valid {file : File} {cfg : Settings} (h : file.settings = some cfg) : cfg.Valid := by
  rcases Option.map_eq_some_iff.1 h with ⟨⟨cfg', problems⟩, hload, rfl⟩
  exact load_valid hload

/-- A step keeps memory and file together exactly if it is current. -/
theorem agrees_step_iff (h : s.Agrees) {x : ConfigStep} (hstep : s.step x = some s') :
    s'.Agrees ↔ s.Current x := by
  cases x with
  | set updates =>
      cases hstep
      constructor
      · intro _
        trivial
      · intro _
        exact agrees_setStep h (settings_valid h.file) updates
  | load call =>
      unfold step at hstep
      dsimp only at hstep
      split at hstep
      · cases hstep
      · rcases Option.map_eq_some_iff.1 hstep with ⟨cfg, -, rfl⟩
        constructor
        · intro _
          trivial
        · intro _
          exact ⟨h.file, h.last⟩
  | assign call =>
      rcases Option.map_eq_some_iff.1 hstep with ⟨cfg, hlookup, rfl⟩
      constructor
      · intro hagrees cfg' hlookup'
        cases hlookup.symm.trans hlookup'
        exact hagrees.file
      · intro hcurrent
        -- what is assigned is in the file, and so was in memory already
        have hfile := hcurrent cfg hlookup
        have hsame : s.daemon.config = cfg := by
          have hboth := h.file.symm.trans hfile
          cases hboth
          rfl
        constructor
        · exact hfile
        · intro k v hlast
          rw [← hsame]
          exact h.last k v hlast

end

end Shared

/-- The daemon after its start, with no call under way. -/
def Shared.started (d : Daemon) : Shared := ⟨d, [], noUpdate⟩

theorem agrees_started {file : File} {gpuMode : Option GpuMode} {d : Daemon}
    (hstart : Daemon.start file gpuMode = some d) : (Shared.started d).Agrees := by
  rcases Option.map_eq_some_iff.1 hstart with ⟨⟨cfg, problems⟩, hload, rfl⟩
  constructor
  · show (load file).map Prod.fst = some cfg
    rw [hload, Option.map_some]
  · intro k v hlast
    cases hlast

/-- In an interleaving memory and file agree after each step, and so once all calls
have finished, exactly if every reload assigns what the file still has. -/
theorem no_lost_update_iff (file : File) (gpuMode : Option GpuMode) (d : Daemon)
    (hstart : Daemon.start file gpuMode = some d) (steps : List ConfigStep) (s : Shared)
    (hrun : (Shared.started d).interleave steps = some s) :
    (∀ pre s', pre <+: steps → (Shared.started d).interleave pre = some s' → s'.Agrees) ↔
      ∀ pre x s', pre ++ [x] <+: steps → (Shared.started d).interleave pre = some s' →
        s'.Current x := by
  refine @Interleaving.always_iff _ _ _ (fun _ => True) _ _ ?_ ?_ _ _ trivial (agrees_started hstart)
    steps hrun
  · intro s x s' _ _
    trivial
  · intro s x s' _ h hstep
    exact Shared.agrees_step_iff h hstep

def sampleStart : Shared := .started ⟨Settings.defaults, .missing, none⟩

/-- A reload that ends before an update does. -/
def orderlySteps : List ConfigStep :=
  [.load 0, .assign 0, .set [("governor.static_cap_w", .int 30)]]

theorem no_lost_update_iff_orderly :
    (∀ pre s', pre <+: orderlySteps → sampleStart.interleave pre = some s' → s'.Agrees) ↔
      ∀ pre x s', pre ++ [x] <+: orderlySteps → sampleStart.interleave pre = some s' →
        s'.Current x :=
  no_lost_update_iff .missing none ⟨Settings.defaults, .missing, none⟩ rfl orderlySteps
    ((sampleStart.interleave orderlySteps).get (by decide +kernel)) (Option.some_get _).symm

/-- An update whose value a reload under way takes back. -/
def overtakenSteps : List ConfigStep :=
  [.load 0, .set [("governor.static_cap_w", .int 30)], .assign 0]

def overtaken : Shared := (sampleStart.interleave overtakenSteps).get (by decide +kernel)

/-- All calls have finished, and the accepted cap is in the file alone. -/
theorem update_lost :
    ¬ ∀ (file : File) (gpuMode : Option GpuMode) (d : Daemon), Daemon.start file gpuMode = some d →
      ∀ (steps : List ConfigStep) (s : Shared), (Shared.started d).interleave steps = some s →
        s.loaded = [] → s.Agrees := by
  intro hagrees
  have hdone : overtaken.loaded = [] := by
    rw [← List.isEmpty_iff]
    decide +kernel
  have haccepted : overtaken.last .governorStaticCapW = some (.num 30) := by decide +kernel
  have hlast := (hagrees .missing none ⟨Settings.defaults, .missing, none⟩ rfl overtakenSteps overtaken
    (Option.some_get _).symm hdone).last .governorStaticCapW (.num 30) haccepted
  revert hlast
  decide +kernel

end TurboMac.Linux
