import TurboMac.Linux.Reload
import TurboMac.Linux.Reset

/-! # What `set_config` replies

A request commits twice: the ordinary keys with one save, and the mode of the GPU with
another. The reply has its `persisted` and its `digest` from between the two. It is
compared with the configuration and the file that the whole request leaves.
-/

namespace TurboMac.Linux

open Repair

/-- The reply is true of the daemon that sends it; `digest` is `config.digest`. -/
structure Truthful (digest : Settings → String) (reply : ConfigReply) (d : Daemon) : Prop where
  accepted : ∀ k v, reply.accepted k = some v → d.config k = v
  digest : digest reply.config = digest d.config
  persisted : reply.persisted = true → d.file.settings = some d.config

/-- The configuration with a mode of the GPU. -/
def Settings.withMode (c : Settings) (mode : GpuMode) : Settings :=
  Function.update c .gpuMode (.str mode.name)

namespace Daemon

/-- The ordinary keys that a request changes. -/
def accepts (d : Daemon) (updates : Dict Json) : Key → Option Value :=
  ((validate (updates.pop "gpu.mode") d.config).map Prod.fst).getD noUpdate

/-- The mode that a request puts the GPU in, if it changes the mode. -/
def modeReached (d : Daemon) (updates : Dict Json) (answers : GpuAnswers) : Option GpuMode :=
  match updates.lookup "gpu.mode" with
  | none | some .null => none
  | some mode =>
    if d.isCurrentMode mode || answers.busy then none
    else (GpuMode.ofJson mode).map fun mode => (applyMode mode answers.outcome).mode

/-- The digest is the same for the mode that is reached. -/
def KeepsDigest (digest : Settings → String) (d : Daemon) (updates : Dict Json)
    (answers : GpuAnswers) : Prop :=
  let config := applyUpdates d.config (d.accepts updates)
  ∀ mode, d.modeReached updates answers = some mode → digest config = digest (config.withMode mode)

/-- What the reply says of the file is true. Where no mode is set, the ordinary keys have been
saved, if there are any, or the file has the configuration anyway. Where a mode is set, that
has been saved; or the reply tells of the other save's failure; or the file has the mode
anyway, from that save or from before. -/
def KeepsFile (d : Daemon) (updates : Dict Json) (saveError : Option String)
    (answers : GpuAnswers) : Prop :=
  let updated := isUpdate (d.accepts updates)
  match d.modeReached updates answers with
  | none => updated = true ∨ d.file.settings = some d.config
  | some mode =>
    answers.saveError = none ∨
      (updated = true ∧ (saveError ≠ none ∨ d.config .gpuMode = .str mode.name)) ∨
      (updated = false ∧ d.file.settings = some (d.config.withMode mode))

end Daemon

/-! ## The ordinary keys -/

section

variable {d d' : Daemon} {updates : Dict Json} {saveError : Option String}
  {accepted accepted' : Key → Option Value} {rejected rejected' : Dict Reason} {k : Key} {v : Value}

/-- Only what has been asked for is accepted. -/
theorem checkAll_asked (h : checkAll updates accepted rejected = some (accepted', rejected'))
    (hk : accepted' k = some v) : accepted k = some v ∨ k.dotted ∈ updates.map Prod.fst := by
  induction updates generalizing accepted rejected with
  | nil =>
      cases h
      exact .inl hk
  | cons item updates ih =>
      rcases item with ⟨key, value⟩
      rw [List.map_cons, List.mem_cons]
      rw [checkAll] at h
      split at h
      · rename_i k' v' hone
        rcases ih h with hbefore | hrest
        · by_cases hkey : k = k'
          · right
            left
            rw [hkey]
            exact (checkOne_accepted hone).1
          · left
            rwa [Function.update_of_ne hkey] at hbefore
        · exact .inr (.inr hrest)
      · exact (ih h).imp_right .inr
      · exact (ih h).imp_right .inr
      · cases h

/-- `validate` never sees the mode of the GPU. -/
theorem validate_pop_gpuMode {base : Settings}
    (h : validate (updates.pop "gpu.mode") base = some (accepted, rejected)) :
    accepted .gpuMode = none := by
  rcases Option.map_eq_some_iff.1 h with ⟨⟨checked, checkedRejected⟩, hcheck, hsettle⟩
  dsimp only at hsettle
  rw [Option.eq_none_iff_forall_ne_some]
  intro v hv
  have hchecked : checked .gpuMode = some v := by
    apply settle_accepted
    rw [hsettle]
    exact hv
  rcases checkAll_asked hcheck hchecked with hbefore | hasked
  · cases hbefore
  · rcases List.mem_map.1 hasked with ⟨item, hitem, hkey⟩
    have hne := of_decide_eq_true (List.mem_filter.1 hitem).2
    exact hne hkey

theorem accepted_eq_none (h : Daemon.isUpdate accepted = false) (k : Key) : accepted k = none := by
  have hall := List.any_eq_false.1 h k (Key.mem_all k)
  simpa using hall

/-- What `set_config` does under `cfg_lock`. -/
structure Committed (d : Daemon) (saveError : Option String) (accepted : Key → Option Value)
    (d' : Daemon) : Prop where
  config : d'.config = applyUpdates d.config accepted
  file : d'.file = if Daemon.isUpdate accepted then d.saved d'.config saveError else d.file
  valid : d'.config.Valid

theorem setLocked_committed (hvalid : d.config.Valid)
    (h : d.setLocked updates saveError = some (accepted, rejected, d')) :
    validate updates d.config = some (accepted, rejected) ∧ Committed d saveError accepted d' := by
  have hvalid' := setLocked_valid hvalid h
  rcases Option.map_eq_some_iff.1 h with ⟨⟨accepted', rejected'⟩, hvalidate, heq⟩
  dsimp only at heq
  split at heq
  · rename_i hupdate
    cases heq
    exact ⟨hvalidate, rfl, (if_pos hupdate).symm, hvalid'⟩
  · rename_i hupdate
    cases heq
    refine ⟨hvalidate, ?_, (if_neg hupdate).symm, hvalid'⟩
    funext k
    exact (merge_of_none (accepted_eq_none (Bool.eq_false_of_not_eq_true hupdate) k)).symm

theorem Committed.config_accepted (h : Committed d saveError accepted d') (hk : accepted k = some v) :
    d'.config k = v := by
  rw [h.config]
  exact merge_of_some hk

/-- A configuration that has been saved is in the file. -/
theorem settings_save {c : Settings} (h : c.Valid) : (save c).settings = some c := by
  rw [File.settings, load_save h, Option.map_some]

/-- `persisted`, as it is before the mode is set. -/
def wasPersisted (accepted : Key → Option Value) (saveError : Option String) : Bool :=
  !Daemon.isUpdate accepted || saveError.isNone

/-- The first commit does not lie about ordinary keys. -/
theorem Committed.persisted_iff (h : Committed d saveError accepted d') :
    (wasPersisted accepted saveError = true → d'.file.settings = some d'.config) ↔
      Daemon.isUpdate accepted = true ∨ d.file.settings = some d.config := by
  have hfile := h.file
  cases hupdate : Daemon.isUpdate accepted with
  | true =>
      rw [hupdate, if_pos rfl] at hfile
      apply iff_of_true
      · intro hsaved
        have hnone : saveError.isNone = true := by simpa [wasPersisted, hupdate] using hsaved
        rw [hfile, Daemon.saved, if_pos hnone]
        exact settings_save h.valid
      · exact .inl rfl
  | false =>
      rw [hupdate, if_neg Bool.false_ne_true] at hfile
      have hconfig : d'.config = d.config := by
        rw [h.config]
        funext k
        exact merge_of_none (accepted_eq_none hupdate k)
      rw [wasPersisted, hupdate, hfile, hconfig]
      simp

/-! ## The mode of the GPU -/

variable {json : Json} {answers : GpuAnswers} {gpu : GpuReply} {message : String}

theorem setGpu_error (h : d.setGpu json answers = .error message) :
    answers.busy = true ∨ GpuMode.ofJson json = none := by
  unfold Daemon.setGpu at h
  split at h
  · rename_i hmode
    exact .inr hmode
  · split at h
    · rename_i hbusy
      exact .inl hbusy
    · cases h

/-- The second commit. -/
structure ModeSet (d : Daemon) (json : Json) (answers : GpuAnswers) (gpu : GpuReply)
    (d' : Daemon) : Prop where
  idle : answers.busy = false
  reached : (GpuMode.ofJson json).map (fun mode => (applyMode mode answers.outcome).mode) =
    some gpu.result.mode
  config : d'.config = d.config.withMode gpu.result.mode
  file : d'.file = d.saved d'.config answers.saveError

theorem setGpu_modeSet (h : d.setGpu json answers = .ok (gpu, d')) : ModeSet d json answers gpu d' := by
  unfold Daemon.setGpu at h
  split at h
  · cases h
  · rename_i mode hmode
    split at h
    · cases h
    · rename_i hidle
      cases h
      refine ⟨Bool.eq_false_of_not_eq_true hidle, ?_, ?_, rfl⟩
      · rw [hmode, Option.map_some]
      · exact persistGpu_config _ _ _

theorem withMode_eq_self_iff {c : Settings} {mode : GpuMode} :
    c.withMode mode = c ↔ c .gpuMode = .str mode.name := by
  rw [Settings.withMode, Function.update_eq_self_iff, eq_comm]

/-! ## The reply -/

variable {digest : Settings → String} {reply : ConfigReply} {d₁ : Daemon}

/-- A reply to a request that leaves the mode of the GPU. -/
theorem truthful_iff_of_committed (h : Committed d saveError (d.accepts updates) d₁)
    (hreached : d.modeReached updates answers = none) (hconfig : reply.config = d₁.config)
    (hpersisted : reply.persisted = wasPersisted (d.accepts updates) saveError)
    (haccepted : ∀ k v, reply.accepted k = some v → d₁.config k = v) :
    Truthful digest reply d₁ ↔
      d.KeepsDigest digest updates answers ∧ d.KeepsFile updates saveError answers := by
  have hfile := h.persisted_iff
  rw [← hpersisted] at hfile
  rw [Daemon.KeepsFile, hreached]
  constructor
  · intro htrue
    refine ⟨?_, hfile.1 htrue.persisted⟩
    intro mode hmode
    rw [hreached] at hmode
    cases hmode
  · rintro ⟨-, hkeeps⟩
    exact ⟨haccepted, by rw [hconfig], hfile.2 hkeeps⟩

/-- What a save that fails leaves of the file is what the first commit has put there. -/
theorem settings_withMode_iff (h : Committed d saveError accepted d₁) (hgpu : accepted .gpuMode = none)
    (mode : GpuMode) :
    (wasPersisted accepted saveError = true → d₁.file.settings = some (d₁.config.withMode mode)) ↔
      (Daemon.isUpdate accepted = true ∧ (saveError ≠ none ∨ d.config .gpuMode = .str mode.name)) ∨
      (Daemon.isUpdate accepted = false ∧ d.file.settings = some (d.config.withMode mode)) := by
  have hfile := h.file
  have hmode : d₁.config .gpuMode = d.config .gpuMode := by
    rw [h.config]
    exact merge_of_none hgpu
  cases hupdate : Daemon.isUpdate accepted with
  | true =>
      rw [hupdate, if_pos rfl] at hfile
      cases saveError with
      | none =>
          have hsaved : d₁.file.settings = some d₁.config := by
            rw [hfile]
            exact settings_save h.valid
          rw [hsaved, Option.some.injEq, @eq_comm _ d₁.config, withMode_eq_self_iff, hmode]
          simp [wasPersisted]
      | some error =>
          -- the reply does not claim anything of the file
          simp [wasPersisted, hupdate]
  | false =>
      rw [hupdate, if_neg Bool.false_ne_true] at hfile
      have hconfig : d₁.config = d.config := by
        rw [h.config]
        funext k
        exact merge_of_none (accepted_eq_none hupdate k)
      rw [hfile, hconfig]
      simp [wasPersisted, hupdate]

/-- A reply to a request that sets the mode of the GPU. -/
theorem truthful_iff_of_modeSet (h : Committed d saveError (d.accepts updates) d₁)
    (hgpu : d.accepts updates .gpuMode = none) (hset : ModeSet d₁ json answers gpu d')
    (hreached : d.modeReached updates answers = some gpu.result.mode)
    (hconfig : reply.config = d₁.config)
    (hpersisted : reply.persisted = wasPersisted (d.accepts updates) saveError)
    (haccepted : reply.accepted =
      Function.update (d.accepts updates) .gpuMode (some (.str gpu.result.mode.name))) :
    Truthful digest reply d' ↔
      d.KeepsDigest digest updates answers ∧ d.KeepsFile updates saveError answers := by
  have hlive : ∀ k v, reply.accepted k = some v → d'.config k = v := by
    intro k v hk
    rw [haccepted] at hk
    rw [hset.config, Settings.withMode]
    by_cases hkey : k = .gpuMode
    · subst hkey
      rw [Function.update_self] at hk ⊢
      exact Option.some.inj hk
    · rw [Function.update_of_ne hkey] at hk ⊢
      exact h.config_accepted hk
  have hdigest : digest reply.config = digest d'.config ↔ d.KeepsDigest digest updates answers := by
    rw [hconfig, hset.config, h.config, Daemon.KeepsDigest, hreached]
    simp
  have hfile : (reply.persisted = true → d'.file.settings = some d'.config) ↔
      d.KeepsFile updates saveError answers := by
    have hvalid : d'.config.Valid := by
      have hpersist := persistGpu_valid h.valid gpu.result.mode none
      rwa [persistGpu_config, ← Settings.withMode, ← hset.config] at hpersist
    rw [Daemon.KeepsFile, hreached]
    dsimp only
    rw [hpersisted, ← settings_withMode_iff h hgpu, hset.file, ← hset.config, Daemon.saved]
    -- the second save leaves the live configuration, or the file as the first has left it
    cases answers.saveError with
    | none =>
        apply iff_of_true
        · intro _
          exact settings_save hvalid
        · exact .inl rfl
    | some error => simp
  rw [← hdigest, ← hfile]
  constructor
  · intro htrue
    exact ⟨htrue.digest, htrue.persisted⟩
  · rintro ⟨hdigest, hpersisted⟩
    exact ⟨hlive, hdigest, hpersisted⟩

/-- The reply of `set_config` is true exactly if the digest and the file keep what it says. -/
theorem set_config_truthful_iff (digest : Settings → String) (hvalid : d.config.Valid)
    (hset : d.setConfig updates saveError answers = some (reply, d')) :
    Truthful digest reply d' ↔
      d.KeepsDigest digest updates answers ∧ d.KeepsFile updates saveError answers := by
  unfold Daemon.setConfig at hset
  rcases Option.bind_eq_some_iff.1 hset with ⟨⟨accepted, rejected, d₁⟩, hlocked, hset⟩
  obtain ⟨hvalidate, hcommit⟩ := setLocked_committed hvalid hlocked
  have haccepts : d.accepts updates = accepted := by
    rw [Daemon.accepts, hvalidate]
    rfl
  have hgpu := validate_pop_gpuMode hvalidate
  have hmode : d₁.config .gpuMode = d.config .gpuMode := by
    rw [hcommit.config]
    exact merge_of_none hgpu
  have hcurrent : ∀ json, d₁.isCurrentMode json = d.isCurrentMode json := by
    intro json
    cases json with
    | str s => rw [Daemon.isCurrentMode, Daemon.isCurrentMode, hmode]
    | _ => rfl
  rw [← haccepts] at hcommit hgpu
  subst haccepts
  dsimp only at hset
  -- no mode, `null`, or a mode that is compared with the configured one
  split at hset
  · rename_i hlookup
    cases hset
    refine truthful_iff_of_committed hcommit ?_ rfl rfl fun k v => hcommit.config_accepted
    rw [Daemon.modeReached, hlookup]
  · rename_i hlookup
    cases hset
    refine truthful_iff_of_committed hcommit ?_ rfl rfl fun k v => hcommit.config_accepted
    rw [Daemon.modeReached, hlookup]
  · rename_i json hnull hlookup
    have hreached : d.modeReached updates answers =
        if d₁.isCurrentMode json || answers.busy then none
        else (GpuMode.ofJson json).map fun mode => (applyMode mode answers.outcome).mode := by
      rw [Daemon.modeReached, hlookup, hcurrent]
      cases json with
      | null => exact absurd rfl hnull
      | _ => rfl
    split at hset
    · -- the mode is the configured one already
      rename_i hsame
      cases hset
      refine truthful_iff_of_committed hcommit ?_ rfl rfl ?_
      · rw [hreached, hsame]
        rfl
      · intro k v hk
        dsimp only at hk
        by_cases hkey : k = .gpuMode
        · subst hkey
          rw [Function.update_self] at hk
          exact Option.some.inj hk
        · rw [Function.update_of_ne hkey] at hk
          exact hcommit.config_accepted hk
    · rename_i hother
      rw [Bool.eq_false_of_not_eq_true hother, Bool.false_or] at hreached
      split at hset
      · -- the request for a mode is refused
        rename_i hrefused
        cases hset
        refine truthful_iff_of_committed hcommit ?_ rfl rfl fun k v => hcommit.config_accepted
        rw [hreached]
        rcases setGpu_error hrefused with hbusy | hnone
        · rw [if_pos hbusy]
        · rw [hnone, Option.map_none, ite_self]
      · -- the second commit
        rename_i hchange
        cases hset
        have hmodeSet := setGpu_modeSet hchange
        refine truthful_iff_of_modeSet hcommit hgpu hmodeSet ?_ rfl rfl rfl
        rw [hreached, hmodeSet.idle, if_neg Bool.false_ne_true, hmodeSet.reached]

end

/-- A daemon that has started without a file. -/
def newDaemon : Daemon := ⟨Settings.defaults, .missing, some .auto⟩

/-- A digest that tells the modes of the GPU apart. -/
def modeDigest (c : Settings) : String :=
  match c .gpuMode with
  | .str mode => mode
  | _ => ""

/-- The reply to a request that sets the mode of the governor, and the daemon after it. -/
def dynamicReply : ConfigReply × Daemon :=
  (newDaemon.setConfig [("governor.mode", .str "dynamic")] none ⟨false, ⟨none, none⟩, none⟩).get
    (by decide +kernel)

theorem set_config_truthful_iff_dynamic : Truthful modeDigest dynamicReply.1 dynamicReply.2 := by
  have hset : newDaemon.setConfig [("governor.mode", .str "dynamic")] none
      ⟨false, ⟨none, none⟩, none⟩ = some dynamicReply := (Option.some_get _).symm
  apply (set_config_truthful_iff modeDigest defaults_valid hset).2
  constructor
  · intro mode hmode
    cases hmode
  · left
    decide +kernel

/-- The reply to a request that sets the mode of the GPU, whose save fails, and the daemon
after it. -/
def unsavedReply : ConfigReply × Daemon :=
  (newDaemon.setConfig [("gpu.mode", .str "low")] none
    ⟨false, ⟨none, none⟩, some "[Errno 28] No space left on device"⟩).get (by decide +kernel)

/-- It says that the configuration has been saved, and has the digest of mode auto. -/
theorem set_config_untruthful :
    newDaemon.config.Valid ∧ ¬ Truthful modeDigest unsavedReply.1 unsavedReply.2 := by
  refine ⟨defaults_valid, ?_⟩
  intro htrue
  have hsaved : unsavedReply.2.file.settings = some unsavedReply.2.config :=
    htrue.persisted (by decide +kernel)
  have hfile : unsavedReply.2.file.settings.map (fun c => c .gpuMode) = some (.str "auto") := by
    decide +kernel
  rw [hsaved, Option.map_some] at hfile
  have hlive : unsavedReply.2.config .gpuMode = .str "low" := by decide +kernel
  rw [hlive] at hfile
  exact absurd hfile (by decide)

end TurboMac.Linux
