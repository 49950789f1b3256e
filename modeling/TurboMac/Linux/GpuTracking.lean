import TurboMac.Lib.Interleaving
import TurboMac.Linux.GpuOff

/-! # `gpu.py`: the mode of a powered-down dGPU

The dGPU is powered or Off, and only the commands ON and OFF that succeed change that.
After each call of `apply_mode` a dGPU that is Off should have mode off, since `read`
leaves the amdgpu files alone in that mode only.
-/

namespace TurboMac.Linux

open Program Trace

/-! ## The dGPU -/

/-- Whether the dGPU is Off after an event. -/
def GpuEvent.offAfter (e : GpuEvent) (off : Bool) : Bool :=
  match e with
  | .writeSwitcheroo .on none => false
  | .writeSwitcheroo .off none => true
  | _ => off

/-- Whether a dGPU that was Off or not at first is Off after some events, newest first. -/
def dgpuOff (initially : Bool) (events : List GpuEvent) : Bool :=
  events.foldr GpuEvent.offAfter initially

/-- A machine on which `vga_switcheroo` reports the truth about the dGPU. -/
structure FaithfulPlatform extends GpuPlatform where
  initiallyOff : Bool
  faithful : ∀ events, disOffOf (switcheroo events) = dgpuOff initiallyOff events

/-- Whether the dGPU is Off after the events. -/
def FaithfulPlatform.off (p : FaithfulPlatform) (events : List GpuEvent) : Bool :=
  dgpuOff p.initiallyOff events

variable {p : FaithfulPlatform} {w w' : GpuWorld}

theorem off_cons (e : GpuEvent) (events : List GpuEvent) :
    p.off (e :: events) = e.offAfter (p.off events) := rfl

/-- A reading of `vga_switcheroo`. -/
theorem disOffOf_of_answers {events : List GpuEvent} {t : Option Switcheroo}
    (h : p.Answers events (.readSwitcheroo t)) : disOffOf t = p.off events := by
  have ht : t = p.switcheroo events := h
  rw [ht]
  exact p.faithful events

/-! ## Calls -/

/-- The arguments of `apply_mode`. -/
structure ModeCall where
  mode : GpuMode
  capW : ℚ
  waitS : ℚ

/-- The world after a call. -/
def callGpu (p : GpuPlatform) (w : GpuWorld) (call : ModeCall) : GpuWorld :=
  (exec (applyGpuMode p call.mode call.capW call.waitS) w).2

/-- The world in which a `Gpu` has been constructed. -/
def newGpu (p : GpuPlatform) : GpuWorld := (exec (initGpu p) ⟨none, none, none, []⟩).2

/-- The world after some calls. -/
def runGpu (p : GpuPlatform) (calls : List ModeCall) : GpuWorld := calls.foldl (callGpu p) (newGpu p)

/-- Whether an event reads `vga_switcheroo` or `power_state`. -/
def GpuEvent.isStatusRead : GpuEvent → Bool
  | .readSwitcheroo _ | .readPowerState _ => true
  | _ => false

/-- Where the dGPU is Off, the mode is off, and `read` looks at its state only. -/
structure Tracked (p : FaithfulPlatform) (w : GpuWorld) : Prop where
  mode : disOffOf (p.switcheroo w.events) = true → w.mode = some .off
  read : disOffOf (p.switcheroo w.events) = true →
    ∃ es : List GpuEvent, (exec (readGpu p.toGpuPlatform false) w).2.events = es.reverse ++ w.events ∧
      ∀ e ∈ es, e.isStatusRead = true

/-- If ON is written while the dGPU is Off, then an ON of the call succeeds. -/
def Revives (p : FaithfulPlatform) (events es : List GpuEvent) : Prop :=
  ∀ pre error post, es = pre ++ .writeSwitcheroo .on error :: post →
    p.off (pre.reverse ++ events) = true → .writeSwitcheroo .on none ∈ es

/-- The events of the call revive the dGPU. -/
def CallRevives (p : FaithfulPlatform) (w : GpuWorld) (call : ModeCall) : Prop :=
  ∀ es, (callGpu p.toGpuPlatform w call).events = es.reverse ++ w.events → Revives p w.events es

/-! ## Reading -/

theorem runs_readGpu_off {p : GpuPlatform} (hmode : w.mode = some .off) :
    GpuRuns p (readGpu p false) w fun _ es _ => ∀ e ∈ es, e.isStatusRead = true := by
  unfold readGpu
  apply Runs.get_bind
  apply Runs.bind runs_powerState
  rintro state es w₁ ⟨hes, -, -⟩
  apply Runs.bind runs_readSwitcheroo
  rintro sw _ w₂ ⟨rfl, -⟩
  rw [hmode]
  apply Runs.pure
  intro e he
  rw [List.append_nil, List.mem_append, List.mem_singleton] at he
  rcases he with he | rfl
  · rw [hes] at he
    split_ifs at he
    · rw [List.mem_singleton.1 he]
      rfl
    · cases he
  · rfl

theorem tracked_iff : Tracked p w ↔ (p.off w.events = true → w.mode = some .off) := by
  have hoff : disOffOf (p.switcheroo w.events) = p.off w.events := p.faithful w.events
  constructor
  · intro h hw
    exact h.mode (hoff.trans hw)
  · intro h
    constructor
    · intro hw
      exact h (hoff.symm.trans hw)
    · intro hw
      obtain ⟨es, hlog, -, hes⟩ := runs_readGpu_off (p := p.toGpuPlatform) (h (hoff.symm.trans hw))
      exact ⟨es, hlog, hes⟩

/-! ## Construction -/

theorem runs_initGpu {p : GpuPlatform} : GpuRuns p (initGpu p) w fun _ es w' =>
    ∃ start t, es = start ++ [.readSwitcheroo t] ∧ (disOffOf t = true → w'.mode = some .off) := by
  unfold initGpu
  apply Runs.bind (capping_find w)
  rintro _ start w₁ -
  apply Runs.bind runs_disOff
  rintro _ _ w₂ ⟨t, rfl, rfl, -⟩
  apply Runs.ite
  · intro _
    apply Runs.mono (runs_setMode .off)
    rintro _ _ w₃ ⟨rfl, hmode, -⟩
    exact ⟨start, t, rfl, fun _ => hmode⟩
  · intro hoff
    exact Runs.pure ⟨start, t, rfl, fun h => absurd h hoff⟩

/-- `__init__` looks whether the dGPU is Off. -/
theorem tracked_newGpu : Tracked p (newGpu p.toGpuPlatform) := by
  obtain ⟨es, hlog, hok, start, t, rfl, hmode⟩ :=
    runs_initGpu (p := p.toGpuPlatform) (w := ⟨none, none, none, []⟩)
  rw [tracked_iff]
  intro hoff
  apply hmode
  rw [disOffOf_of_answers (follows_append.1 hok).2.1]
  rw [newGpu, hlog, List.reverse_append] at hoff
  exact hoff

/-! ## A call -/

/-- Only an ON that succeeds ends Off. -/
theorem off_of_notMem {events es : List GpuEvent} (hoff : p.off events = true)
    (hes : GpuEvent.writeSwitcheroo .on none ∉ es) : p.off (es.reverse ++ events) = true := by
  induction es generalizing events with
  | nil => exact hoff
  | cons e es ih =>
      rw [List.mem_cons, not_or] at hes
      rw [List.reverse_cons, List.append_assoc]
      refine ih ?_ hes.2
      rw [List.singleton_append, off_cons]
      unfold GpuEvent.offAfter
      split
      · exact absurd rfl hes.1
      · rfl
      · exact hoff

/-- A call that ends with the dGPU on has revived it. -/
theorem revives_of_on {events es : List GpuEvent} (hon : p.off (es.reverse ++ events) = false) :
    Revives p events es := by
  rintro pre error post rfl hoff
  by_contra hnone
  have hrest : GpuEvent.writeSwitcheroo .on none ∉ GpuEvent.writeSwitcheroo .on error :: post :=
    fun h => hnone (List.mem_append_right _ h)
  have hstill := off_of_notMem hoff hrest
  rw [← List.append_assoc, ← List.reverse_append, hon] at hstill
  cases hstill

theorem off_of_notSwitch {events es : List GpuEvent} (hes : ∀ e ∈ es, e.isSwitch = false) :
    p.off (es.reverse ++ events) = p.off events := by
  induction es generalizing events with
  | nil => rfl
  | cons e es ih =>
      rw [List.reverse_cons, List.append_assoc, ih fun e he => hes e (List.mem_cons_of_mem _ he)]
      rw [List.singleton_append, off_cons]
      have he := hes e List.mem_cons_self
      unfold GpuEvent.offAfter
      split
      · cases he
      · cases he
      · rfl

/-- A power-up ends Off only where ON has failed on a dGPU that is Off. -/
theorem PowerUp.of_off {events es : List GpuEvent} (h : PowerUp es)
    (hoff : p.off (es.reverse ++ events) = true) : GpuEvent.writeSwitcheroo .on none ∉ es := by
  obtain ⟨onError, disError, console, bindError, rfl⟩ := h
  cases onError with
  | none => cases hoff
  | some error => simp

/-- If `_apply_on` leaves the dGPU Off, then it has found it Off and its ON has failed. -/
theorem OnTrace.of_off {events es : List GpuEvent} (h : OnTrace es)
    (hok : Follows p.Answers events es) (hoff : p.off (es.reverse ++ events) = true) :
    p.off events = true ∧ GpuEvent.writeSwitcheroo .on none ∉ es ∧
      ∃ pre error post, es = pre ++ .writeSwitcheroo .on error :: post ∧
        p.off (pre.reverse ++ events) = true := by
  obtain ⟨t, up, rest, rfl, hup, hrest⟩ := h
  have ht : disOffOf t = p.off events := disOffOf_of_answers hok.1
  -- what `_apply_on` does after the power-up does not count
  rw [← List.cons_append, List.reverse_append, List.append_assoc, off_of_notSwitch hrest,
    List.reverse_cons, List.append_assoc] at hoff
  split_ifs at hup with hread
  · have hnone := hup.of_off hoff
    have hbefore : p.off events = true := by rw [← ht, hread]
    obtain ⟨onError, disError, console, bindError, rfl⟩ := hup
    refine ⟨hbefore, ?_, [.readSwitcheroo t], onError, _, rfl, hbefore⟩
    rw [List.mem_cons, List.mem_append, not_or, not_or]
    exact ⟨nofun, hnone, notMem_of_isSwitch hrest rfl⟩
  · subst hup
    exact absurd (ht.trans hoff) hread

theorem RollTrace.of_off {done : Done} {events es : List GpuEvent} (h : RollTrace done es)
    (hoff : p.off (es.reverse ++ events) = true) : GpuEvent.writeSwitcheroo .on none ∉ es := by
  unfold RollTrace at h
  split_ifs at h
  · exact h.of_off hoff
  · obtain ⟨console, error, rfl⟩ := h
    simp
  · subst h
    exact List.not_mem_nil

/-- `_apply_off` writes no ON. -/
theorem OffWrites.on_notMem {done : Done} {es : List GpuEvent} {error : Option String}
    (h : OffWrites done es) : GpuEvent.writeSwitcheroo .on error ∉ es := by
  have hread {reads : List GpuEvent} (hreads : ∀ e ∈ reads, e.isSwitch = false) :
      GpuEvent.writeSwitcheroo .on error ∉ reads := notMem_of_isSwitch hreads rfl
  cases h with
  | nothing hes => exact hread hes
  | unbind hreads => simp [hread hreads]
  | igd hreads => simp [hread hreads]
  | off hreads hlater => simp [hread hreads, hread hlater]

/-- Where `_apply_on` comes last, the dGPU is on after the call exactly if it is revived. -/
theorem revives_iff_on {events before on : List GpuEvent} (hon : OnTrace on)
    (hok : Follows p.Answers events (before ++ on))
    (hbefore : p.off (before.reverse ++ events) = true →
      GpuEvent.writeSwitcheroo .on none ∉ before) :
    Revives p events (before ++ on) ↔ p.off ((before ++ on).reverse ++ events) = false := by
  constructor
  · intro hrevives
    by_contra hoff
    rw [Bool.not_eq_false, List.reverse_append, List.append_assoc] at hoff
    obtain ⟨hstart, hnone, pre, error, post, heq, hpre⟩ := hon.of_off (follows_append.1 hok).2 hoff
    have hmem : GpuEvent.writeSwitcheroo .on none ∈ before ++ on := by
      apply hrevives (before ++ pre) error post
      · rw [heq, List.append_assoc]
      · rwa [List.reverse_append, List.append_assoc]
    -- but an ON that succeeds would leave the dGPU on
    rcases List.mem_append.1 hmem with hmem | hmem
    · exact hbefore hstart hmem
    · exact hnone hmem
  · exact revives_of_on

/-- What a call does without `_apply_on` revives nothing. -/
theorem StartTrace.on_notMem {done : Done} {start es : List GpuEvent} {error : Option String}
    (hstart : StartTrace w start) (hes : OffWrites done es) :
    GpuEvent.writeSwitcheroo .on error ∉ start ++ es := by
  rw [List.mem_append, not_or]
  exact ⟨notMem_of_isSwitch (fun e he => (hstart.isSwitch e he).1) rfl, hes.on_notMem⟩

/-- The mode after a call is off where the dGPU is, exactly if the call revives it. -/
theorem CallTrace.revives_iff {waitS : ℚ} {mode : GpuMode} {r : GpuReport} {es : List GpuEvent}
    (h : CallTrace w w' waitS mode r es) (hok : Follows p.Answers w.events es) :
    (p.off (es.reverse ++ w.events) = true → w'.mode = some .off) ↔ Revives p w.events es := by
  cases h with
  | @off start es done hstart hes hmode =>
      -- the mode is off, and nothing has been powered on
      apply iff_of_true
      · intro _
        exact hmode
      · rintro pre error post heq -
        have hnone : GpuEvent.writeSwitcheroo .on error ∉ start ++ es :=
          hstart.on_notMem hes.writes.1
        rw [heq] at hnone
        exact absurd (List.mem_append_right pre List.mem_cons_self) hnone
  | @failedOff start es roll on hasDev res err done hstart hes hroll hon hmode =>
      rw [← List.append_assoc, ← List.append_assoc] at hok ⊢
      rw [revives_iff_on hon hok, hmode, ← Bool.not_eq_true]
      · constructor
        · intro himp hoff
          cases himp hoff
        · intro hnot hoff
          exact absurd hoff hnot
      · intro hoff
        rw [List.mem_append, not_or]
        rw [List.reverse_append, List.append_assoc] at hoff
        exact ⟨hstart.on_notMem hes.writes.1, hroll.of_off hoff⟩
  | on hrequest hstart hon hmode =>
      -- whatever mode has been asked for, it is not off
      rw [revives_iff_on hon hok, hmode, ← Bool.not_eq_true]
      · constructor
        · intro himp hoff
          exact hrequest (Option.some.inj (himp hoff))
        · intro hnot hoff
          exact absurd hoff hnot
      · intro _
        exact notMem_of_isSwitch (fun e he => (hstart.isSwitch e he).1) rfl

/-- After a call the mode tracks the dGPU exactly if the call revives it. -/
theorem tracked_callGpu_iff (p : FaithfulPlatform) (w : GpuWorld) (call : ModeCall) :
    Tracked p (callGpu p.toGpuPlatform w call) ↔ CallRevives p w call := by
  obtain ⟨es, hlog, hok, hcall⟩ :=
    runs_applyGpuMode (p := p.toGpuPlatform) (w := w) call.mode call.capW call.waitS
  have hlog : (callGpu p.toGpuPlatform w call).events = es.reverse ++ w.events := hlog
  have hcall : CallTrace w (callGpu p.toGpuPlatform w call) call.waitS call.mode _ es := hcall
  rw [tracked_iff, hlog, hcall.revives_iff hok]
  constructor
  · intro h es' hlog'
    rwa [← List.reverse_inj.1 (List.append_cancel_right (hlog.symm.trans hlog'))]
  · intro h
    exact h es hlog

/-! ## Runs -/

/-- The mode tracks the dGPU after each call of a run, exactly if in each call in which ON
is written while the dGPU is Off an ON succeeds. -/
theorem mode_tracks_iff (p : FaithfulPlatform) (calls : List ModeCall) :
    (∀ pre, pre <+: calls → Tracked p (runGpu p.toGpuPlatform pre)) ↔
      ∀ pre call, pre ++ [call] <+: calls → CallRevives p (runGpu p.toGpuPlatform pre) call :=
  Interleaving.foldl_always_iff (fun w call _ => tracked_callGpu_iff p w call) tracked_newGpu calls

/-- A dGPU that starts Off and whose power-on fails. -/
def stuckOff : FaithfulPlatform where
  find _ := some ("card0", some "hwmon0")
  switcheroo events := some [("IGD", ⟨true, "Pwr"⟩),
    ("DIS", ⟨false, if dgpuOff true events then "Off" else "Pwr"⟩)]
  powerState _ := some "D3cold"
  writeSwitcheroo _ _ := some "[Errno 5] Input/output error"
  console _ := some "vtcon1"
  writeBind _ _ := none
  existsFile _ _ := true
  readInt _ _ := none
  readText _ _ := none
  writeCap _ _ := some "[Errno 5] Input/output error"
  writeDpm _ _ := some "[Errno 5] Input/output error"
  initiallyOff := true
  faithful events := by
    cases h : dgpuOff true events with
    | true => rfl
    | false => rfl

/-- The call `apply_mode('auto')` sets mode auto although the dGPU stays Off. -/
theorem stuckOff_untracked :
    ¬ ∀ pre, pre <+: [⟨.auto, 15, 10⟩] → Tracked stuckOff (runGpu stuckOff.toGpuPlatform pre) := by
  intro htracked
  have hmode := (htracked _ List.prefix_rfl).mode rfl
  cases hmode

end TurboMac.Linux
