import TurboMac.Linux.GpuControl

/-! # `gpu.py`: what a mode change does, in order

Every access of `apply_mode('off')` in its order, for each way in which the call can go.
-/

namespace TurboMac.Linux

open Program Trace

/-- The run of a program on the machine. -/
abbrev GpuRuns {α : Type} (p : GpuPlatform) (m : GpuM α) (w : GpuWorld)
    (post : α → List GpuEvent → GpuWorld → Prop) : Prop :=
  Runs GpuWorld.events p.Answers m w post

/-- The members of the class are the same. -/
structure SameMembers (w w' : GpuWorld) : Prop where
  dev : w'.dev = w.dev
  hwmon : w'.hwmon = w.hwmon
  mode : w'.mode = w.mode

theorem SameMembers.refl (w : GpuWorld) : SameMembers w w := ⟨rfl, rfl, rfl⟩

theorem SameMembers.trans {w w' w'' : GpuWorld} (h : SameMembers w w') (h' : SameMembers w' w'') :
    SameMembers w w'' :=
  ⟨h'.dev.trans h.dev, h'.hwmon.trans h.hwmon, h'.mode.trans h.mode⟩

/-! ## Accesses -/

section

variable {p : GpuPlatform} {w : GpuWorld}

theorem runs_ask {α : Type} {answer : List GpuEvent → α} {event : α → GpuEvent}
    (hanswers : p.Answers w.events (event (answer w.events))) :
    GpuRuns p (ask answer event) w fun a es w' => es = [event a] ∧ SameMembers w w' :=
  ⟨[event (answer w.events)], rfl, ⟨hanswers, trivial⟩, rfl, rfl, rfl, rfl⟩

theorem runs_readSwitcheroo : GpuRuns p (readSwitcheroo p) w fun t es w' =>
    es = [.readSwitcheroo t] ∧ SameMembers w w' := runs_ask rfl

theorem runs_disOff : GpuRuns p (disOff p) w fun off es w' =>
    ∃ t, off = disOffOf t ∧ es = [.readSwitcheroo t] ∧ SameMembers w w' := by
  refine runs_readSwitcheroo.bind ?_
  rintro t es w' ⟨rfl, hsame⟩
  exact Runs.pure ⟨t, rfl, rfl, hsame⟩

theorem runs_writeSwitcheroo (cmd : SwitcherooCommand) :
    GpuRuns p (writeSwitcheroo p cmd) w fun error es w' =>
      es = [.writeSwitcheroo cmd error] ∧ SameMembers w w' := runs_ask rfl

theorem runs_fbconBind (value : String) : GpuRuns p (fbconBind p value) w fun error es w' =>
    ∃ console, es = [.fbconBind value console error] ∧ SameMembers w w' := by
  unfold fbconBind
  apply Runs.bind
  · apply runs_ask
    exact ⟨rfl, rfl⟩
  · rintro answer es w' ⟨rfl, hsame⟩
    exact Runs.pure ⟨answer.1, rfl, hsame⟩

theorem runs_sleep (seconds : ℚ) : GpuRuns p (sleep seconds) w fun _ es w' =>
    es = [.sleep seconds] ∧ SameMembers w w' := runs_ask trivial

/-- `power_state` is read where there is a device. -/
theorem runs_powerState : GpuRuns p (powerState p) w fun state es w' =>
    es = (if w.dev.isSome then [.readPowerState state] else []) ∧
      (w.dev.isSome = false → state = none) ∧ SameMembers w w' := by
  apply Runs.get_bind
  cases hdev : w.dev.isSome with
  | true =>
      refine Runs.mono (runs_ask rfl) ?_
      rintro state es w' ⟨rfl, hsame⟩
      exact ⟨rfl, Bool.noConfusion, hsame⟩
  | false => exact Runs.pure ⟨rfl, fun _ => rfl, SameMembers.refl w⟩

/-! ## Switching off -/

/-- What a verification has read: `hasDev` says whether there is a device whose
`power_state` can be read. -/
inductive VerifyTrace (hasDev : Bool) (phase : VerifyPhase) :
    Option GpuError → List GpuEvent → Prop where
  | notOff {t : Option Switcheroo} (ht : disOffOf t = false) :
      VerifyTrace hasDev phase (some (.notOff phase)) [.readSwitcheroo t]
  | stillD0 {t : Option Switcheroo} (hdev : hasDev = true) (ht : disOffOf t = true) :
      VerifyTrace hasDev phase (some (.stillD0 phase)) [.readSwitcheroo t, .readPowerState (some "D0")]
  | verified {t : Option Switcheroo} {state : Option String} (hdev : hasDev = true)
      (ht : disOffOf t = true) (hstate : state ≠ some "D0") :
      VerifyTrace hasDev phase none [.readSwitcheroo t, .readPowerState state]
  | verifiedAlone {t : Option Switcheroo} (hdev : hasDev = false) (ht : disOffOf t = true) :
      VerifyTrace hasDev phase none [.readSwitcheroo t]

theorem runs_verify (phase : VerifyPhase) : GpuRuns p (verify p phase) w fun err es w' =>
    VerifyTrace w.dev.isSome phase err es ∧ SameMembers w w' := by
  unfold verify
  apply Runs.bind runs_disOff
  rintro _ _ w₁ ⟨t, rfl, rfl, hsame₁⟩
  cases ht : disOffOf t with
  | false => exact Runs.pure ⟨.notOff ht, hsame₁⟩
  | true =>
      apply Runs.bind runs_powerState
      rintro state _ w₂ ⟨rfl, hnone, hsame₂⟩
      have hsame := hsame₁.trans hsame₂
      rw [hsame₁.dev] at hnone ⊢
      apply Runs.ite
      · rintro rfl
        cases hdev : w.dev.isSome with
        | true => exact Runs.pure ⟨.stillD0 rfl ht, hsame⟩
        | false => cases hnone hdev
      · intro hstate
        cases hdev : w.dev.isSome with
        | true => exact Runs.pure ⟨.verified rfl ht hstate, hsame⟩
        | false => exact Runs.pure ⟨.verifiedAlone rfl ht, hsame⟩

/-- The two readings at the start and the unbind. -/
def unbindEvents (t t' : Option Switcheroo) (console error : Option String) : List GpuEvent :=
  [.readSwitcheroo t, .readSwitcheroo t', .fbconBind "0" console error]

/-- The ways in which `_apply_off` can go: its error, what it has done, and its accesses. -/
inductive OffTrace (hasDev : Bool) (waitS : ℚ) :
    Option GpuError → Done → List GpuEvent → Prop where
  | noSwitcheroo {t : Option Switcheroo} (ht : hasClients t = false) :
      OffTrace hasDev waitS (some .noSwitcheroo) ⟨false, false⟩ [.readSwitcheroo t]
  | alreadyOff {t t' : Option Switcheroo} (ht : hasClients t = true) (ht' : disOffOf t' = true) :
      OffTrace hasDev waitS none ⟨false, false⟩ [.readSwitcheroo t, .readSwitcheroo t']
  | unbind {t t' : Option Switcheroo} {console : Option String} {error : String}
      (ht' : disOffOf t' = false) :
      OffTrace hasDev waitS (some (.unbind error)) ⟨false, false⟩
        (unbindEvents t t' console (some error))
  | igd {t t' : Option Switcheroo} {console : Option String} {error : String}
      (ht' : disOffOf t' = false) :
      OffTrace hasDev waitS (some (.command .igd error)) ⟨true, true⟩
        (unbindEvents t t' console none ++ [.writeSwitcheroo .igd (some error)])
  | off {t t' : Option Switcheroo} {console : Option String} {error : String}
      (ht' : disOffOf t' = false) :
      OffTrace hasDev waitS (some (.command .off error)) ⟨true, true⟩
        (unbindEvents t t' console none ++
          [.writeSwitcheroo .igd none, .writeSwitcheroo .off (some error)])
  | unverified {t t' : Option Switcheroo} {console : Option String} {err : GpuError}
      {es : List GpuEvent} (ht' : disOffOf t' = false)
      (hes : VerifyTrace hasDev .immediate (some err) es) :
      OffTrace hasDev waitS (some err) ⟨true, true⟩
        (unbindEvents t t' console none ++
          [.writeSwitcheroo .igd none, .writeSwitcheroo .off none] ++ es)
  | waited {t t' : Option Switcheroo} {console : Option String} {err : Option GpuError}
      {es es' : List GpuEvent} (ht' : disOffOf t' = false)
      (hes : VerifyTrace hasDev .immediate none es)
      (hes' : VerifyTrace hasDev (.after waitS) err es') :
      OffTrace hasDev waitS err ⟨true, true⟩
        (unbindEvents t t' console none ++
          [.writeSwitcheroo .igd none, .writeSwitcheroo .off none] ++ es ++ [.sleep waitS] ++ es')

theorem runs_applyOff (waitS : ℚ) : GpuRuns p (applyOff p waitS) w fun r es w' =>
    OffTrace w.dev.isSome waitS r.1 r.2 es ∧ SameMembers w w' := by
  unfold applyOff
  apply Runs.bind runs_readSwitcheroo
  rintro t _ w₁ ⟨rfl, hsame₁⟩
  cases ht : hasClients t with
  | false => exact Runs.pure ⟨.noSwitcheroo ht, hsame₁⟩
  | true =>
      apply Runs.bind runs_disOff
      rintro _ _ w₂ ⟨t', rfl, rfl, hsame₂⟩
      have hsame₂ := hsame₁.trans hsame₂
      cases ht' : disOffOf t' with
      | true => exact Runs.pure ⟨.alreadyOff ht ht', hsame₂⟩
      | false =>
          apply Runs.bind (runs_fbconBind "0")
          rintro unbindError _ w₃ ⟨console, rfl, hsame₃⟩
          have hsame₃ := hsame₂.trans hsame₃
          cases unbindError with
          | some error => exact Runs.pure ⟨.unbind ht', hsame₃⟩
          | none =>
              apply Runs.bind (runs_writeSwitcheroo .igd)
              rintro igdError _ w₄ ⟨rfl, hsame₄⟩
              have hsame₄ := hsame₃.trans hsame₄
              cases igdError with
              | some error => exact Runs.pure ⟨.igd ht', hsame₄⟩
              | none =>
                  -- the panel is on IGD, and the dGPU can go
                  apply Runs.bind (runs_writeSwitcheroo .off)
                  rintro offError _ w₅ ⟨rfl, hsame₅⟩
                  have hsame₅ := hsame₄.trans hsame₅
                  cases offError with
                  | some error => exact Runs.pure ⟨.off ht', hsame₅⟩
                  | none =>
                      apply Runs.bind (runs_verify .immediate)
                      rintro err es w₆ ⟨hes, hsame₆⟩
                      have hsame₆ := hsame₅.trans hsame₆
                      rw [hsame₅.dev] at hes
                      cases err with
                      | some err =>
                          refine Runs.pure ⟨?_, hsame₆⟩
                          have htrace :=
                            @OffTrace.unverified w.dev.isSome waitS t t' console err es ht' hes
                          simpa [unbindEvents] using htrace
                      | none =>
                          -- the second round of the loop looks again after the wait
                          apply Runs.bind (runs_sleep waitS)
                          rintro _ _ w₇ ⟨rfl, hsame₇⟩
                          have hsame₇ := hsame₆.trans hsame₇
                          apply Runs.bind (runs_verify (.after waitS))
                          rintro err es' w₈ ⟨hes', hsame₈⟩
                          rw [hsame₇.dev] at hes'
                          refine Runs.pure ⟨?_, hsame₇.trans hsame₈⟩
                          have htrace :=
                            @OffTrace.waited w.dev.isSome waitS t t' console err es es' ht' hes hes'
                          simpa [unbindEvents] using htrace

/-! ## Switching on -/

/-- Whether an event switches the panel, the console or the power. -/
def GpuEvent.isSwitch : GpuEvent → Bool
  | .writeSwitcheroo _ _ | .fbconBind _ _ _ => true
  | _ => false

/-- Whether an event writes the power cap or the DPM level. -/
def GpuEvent.isCapWrite : GpuEvent → Bool
  | .writeCap _ _ | .writeDpm _ _ => true
  | _ => false

/-- Whether an event is one of the three writes that take the dGPU down. -/
def GpuEvent.isPowerDown : GpuEvent → Bool
  | .fbconBind "0" _ _ | .writeSwitcheroo .igd _ | .writeSwitcheroo .off _ => true
  | _ => false

/-- `_power_on`, whatever fails. -/
def PowerUp (es : List GpuEvent) : Prop :=
  ∃ onError disError console bindError, es =
    [.writeSwitcheroo .on onError, .writeSwitcheroo .dis disError, .fbconBind "1" console bindError]

theorem runs_powerOn : GpuRuns p (powerOn p) w fun _ es w' => PowerUp es ∧ SameMembers w w' := by
  unfold powerOn
  apply Runs.bind (runs_writeSwitcheroo .on)
  rintro onError _ w₁ ⟨rfl, hsame₁⟩
  apply Runs.bind (runs_writeSwitcheroo .dis)
  rintro disError _ w₂ ⟨rfl, hsame₂⟩
  apply Runs.bind (runs_fbconBind "1")
  rintro bindError _ w₃ ⟨console, rfl, hsame₃⟩
  exact Runs.pure ⟨⟨onError, disError, console, bindError, rfl⟩,
    (hsame₁.trans hsame₂).trans hsame₃⟩

/-- The rollback of what has been done. -/
def RollTrace (done : Done) (es : List GpuEvent) : Prop :=
  if done.switcheroo then PowerUp es
  else if done.fbcon then ∃ console error, es = [.fbconBind "1" console error]
  else es = []

theorem runs_rollBack (done : Done) : GpuRuns p (rollBack p done) w fun _ es w' =>
    RollTrace done es ∧ SameMembers w w' := by
  unfold rollBack RollTrace
  split_ifs
  · exact runs_powerOn
  · apply Runs.bind (runs_fbconBind "1")
    rintro error _ w₁ ⟨console, rfl, hsame⟩
    exact Runs.pure ⟨⟨console, error, rfl⟩, hsame⟩
  · exact Runs.pure ⟨rfl, SameMembers.refl w⟩

/-- The mode is the same; `find` may change the other members. -/
def SameMode (w w' : GpuWorld) : Prop := w'.mode = w.mode

instance : IsPreorder GpuWorld SameMode where
  refl _ := rfl
  trans _ _ _ h h' := h'.trans h

/-- A program that only looks at the device and sets its cap. -/
abbrev Capping {α : Type} (p : GpuPlatform) (m : GpuM α) : Prop :=
  Only GpuWorld.events p.Answers (fun e => e.isSwitch = false) SameMode m

theorem capping_ask {α : Type} {answer : List GpuEvent → α} {event : α → GpuEvent}
    (hanswers : ∀ events, p.Answers events (event (answer events)))
    (hevent : ∀ a, (event a).isSwitch = false) : Capping p (ask answer event) := by
  intro w
  apply Runs.mono (runs_ask (hanswers w.events))
  rintro a es w' ⟨rfl, hsame⟩
  refine ⟨?_, hsame.mode⟩
  intro e he
  rw [List.mem_singleton.1 he]
  exact hevent a

theorem capping_find : Capping p (find p) := by
  unfold find
  refine Only.bind (capping_ask (fun _ => rfl) fun _ => rfl) ?_
  rintro (_ | ⟨dev, hwmon⟩)
  · exact Only.pure false
  · refine Only.bind ?_ fun _ => Only.pure true
    intro w
    refine Runs.of_modify rfl ⟨?_, rfl⟩
    intro e he
    cases he

theorem capping_findMissing : Capping p (findMissing p) := by
  unfold findMissing
  apply Only.bind Only.get
  intro w
  exact Only.ite capping_find (Only.pure true)

theorem capping_readInt (file : AmdgpuFile) : Capping p (readInt p file) :=
  capping_ask (fun _ => rfl) fun _ => rfl

theorem capping_setCapDpm (capW : ℚ) (level : String) : Capping p (setCapDpm p capW level) := by
  unfold setCapDpm
  apply Only.bind (capping_readInt _)
  intro capMin
  apply Only.bind (capping_readInt _)
  intro capMax
  refine Only.bind (capping_ask (fun _ => rfl) fun _ => rfl) ?_
  rintro (_ | error)
  · refine Only.bind (capping_ask (fun _ => rfl) fun _ => rfl) ?_
    rintro (_ | error)
    · apply Only.bind (capping_readInt _)
      intro got
      apply Only.ite
      · exact Only.pure _
      · refine Only.bind (capping_ask (fun _ => rfl) fun _ => rfl) ?_
        intro lvl
        exact Only.ite (Only.pure _) (Only.pure _)
    · exact Only.pure _
  · exact Only.pure _

theorem capping_applyCap (mode : GpuMode) (capW : ℚ) : Capping p (applyCap p mode capW) := by
  unfold applyCap
  apply Only.bind capping_findMissing
  intro found
  apply Only.ite (Only.pure _)
  apply Only.bind Only.get
  intro w'
  apply Only.ite (Only.pure _)
  exact Only.ite (capping_setCapDpm _ _) (capping_setCapDpm _ _)

/-- `_apply_on`: where `vga_switcheroo` reports DIS Off, the dGPU is powered on first. -/
structure OnTrace (es : List GpuEvent) : Prop where
  parts : ∃ t up rest, es = .readSwitcheroo t :: (up ++ rest) ∧
    (if disOffOf t then PowerUp up else up = []) ∧ ∀ e ∈ rest, e.isSwitch = false

theorem runs_powerOnIfOff : GpuRuns p (powerOnIfOff p) w fun _ es w' =>
    (∃ t up, es = .readSwitcheroo t :: up ∧ if disOffOf t then PowerUp up else up = []) ∧
      SameMembers w w' := by
  unfold powerOnIfOff
  apply Runs.bind runs_disOff
  rintro _ _ w₁ ⟨t, rfl, rfl, hsame₁⟩
  cases ht : disOffOf t with
  | true =>
      apply Runs.mono runs_powerOn
      rintro _ up w₂ ⟨hup, hsame₂⟩
      exact ⟨⟨t, up, rfl, by rwa [ht, if_pos rfl]⟩, hsame₁.trans hsame₂⟩
  | false => exact Runs.pure ⟨⟨t, [], rfl, by rw [ht, if_neg Bool.false_ne_true]⟩, hsame₁⟩

theorem runs_applyOn (mode : GpuMode) (capW : ℚ) : GpuRuns p (applyOn p mode capW) w fun _ es w' =>
    OnTrace es ∧ SameMode w w' := by
  unfold applyOn
  apply Runs.bind runs_powerOnIfOff
  rintro _ _ w₁ ⟨⟨t, up, rfl, hup⟩, hsame⟩
  apply Runs.mono (capping_applyCap mode capW w₁)
  rintro err rest w₂ ⟨hrest, hmode⟩
  exact ⟨⟨t, up, rest, rfl, hup, hrest⟩, hmode.trans hsame.mode⟩

/-! ## A call -/

/-- `find` at the start of a call, where a member is missing. -/
def StartTrace (w : GpuWorld) (es : List GpuEvent) : Prop :=
  if w.incomplete then ∃ found, es = [.find found] else es = []

theorem runs_findMissing : GpuRuns p (findMissing p) w fun _ es w' =>
    StartTrace w es ∧ SameMode w w' := by
  unfold findMissing StartTrace
  apply Runs.get_bind
  split_ifs
  · unfold find
    refine Runs.bind (runs_ask rfl) ?_
    rintro found _ w₁ ⟨rfl, hsame⟩
    cases found with
    | none => exact Runs.pure ⟨⟨none, rfl⟩, hsame.mode⟩
    | some device =>
        apply Runs.modify_bind rfl
        exact Runs.pure ⟨⟨some device, rfl⟩, hsame.mode⟩
  · exact Runs.pure ⟨rfl, rfl⟩

/-- The ways in which a call can go from `w` to `w'`: the mode asked for, what is returned,
and the accesses. -/
inductive CallTrace (w w' : GpuWorld) (waitS : ℚ) :
    GpuMode → GpuReport → List GpuEvent → Prop where
  | off {start es : List GpuEvent} {done : Done} (hstart : StartTrace w start)
      (hes : OffTrace w'.dev.isSome waitS none done es) (hmode : w'.mode = some .off) :
      CallTrace w w' waitS .off ⟨true, .off, none, none⟩ (start ++ es)
  | failedOff {start es roll on : List GpuEvent} {hasDev : Bool} {res : GpuError}
      {err : Option GpuError} {done : Done} (hstart : StartTrace w start)
      (hes : OffTrace hasDev waitS (some res) done es) (hroll : RollTrace done roll)
      (hon : OnTrace on) (hmode : w'.mode = some .low) :
      CallTrace w w' waitS .off ⟨false, .low, some res, err⟩ (start ++ (es ++ (roll ++ on)))
  | on {start on : List GpuEvent} {mode : GpuMode} {err : Option GpuError}
      (hrequest : mode ≠ .off) (hstart : StartTrace w start) (hon : OnTrace on)
      (hmode : w'.mode = some mode) :
      CallTrace w w' waitS mode ⟨err.isNone, mode, none, err⟩ (start ++ on)

theorem runs_setMode (mode : GpuMode) : GpuRuns p (setMode mode) w fun _ es w' =>
    es = [] ∧ w'.mode = some mode ∧ w'.dev = w.dev := Runs.of_modify rfl ⟨rfl, rfl, rfl⟩

theorem runs_applyGpuMode (mode : GpuMode) (capW waitS : ℚ) :
    GpuRuns p (applyGpuMode p mode capW waitS) w fun r es w' => CallTrace w w' waitS mode r es := by
  unfold applyGpuMode
  apply Runs.bind runs_findMissing
  rintro _ start w₁ ⟨hstart, -⟩
  by_cases hmode : mode = .off
  · subst hmode
    rw [if_pos rfl]
    apply Runs.bind (runs_applyOff waitS)
    rintro ⟨res, done⟩ es w₂ ⟨hes, hsame⟩
    cases res with
    | none =>
        apply Runs.bind (runs_setMode .off)
        rintro _ _ w₃ ⟨rfl, hset, hdev⟩
        apply Runs.pure
        rw [List.append_nil, List.append_nil]
        refine @CallTrace.off w w₃ waitS start es done hstart ?_ hset
        rwa [hdev, hsame.dev]
    | some res =>
        -- a failed off is rolled back, and then the call goes on as for low
        apply Runs.bind (runs_rollBack done)
        rintro _ roll w₃ ⟨hroll, -⟩
        apply Runs.bind (runs_applyOn .low capW)
        rintro err on w₄ ⟨hon, -⟩
        apply Runs.bind (runs_setMode .low)
        rintro _ _ w₅ ⟨rfl, hset, -⟩
        apply Runs.pure
        rw [List.append_nil, List.append_nil]
        exact .failedOff hstart hes hroll hon hset
  · rw [if_neg hmode]
    apply Runs.bind (runs_applyOn mode capW)
    rintro err on w₂ ⟨hon, -⟩
    apply Runs.bind (runs_setMode mode)
    rintro _ _ w₃ ⟨rfl, hset, -⟩
    apply Runs.pure
    rw [List.append_nil, List.append_nil]
    exact .on hmode hstart hon hset

/-- What a call returns, as `applyMode` puts it together from the two errors. -/
theorem applyGpuMode_result (g : FormatG) (mode : GpuMode) (capW waitS : ℚ) :
    let r := (exec (applyGpuMode p mode capW waitS) w).1
    r.result g = applyMode mode ⟨r.off.map (GpuError.text g), r.on.map (GpuError.text g)⟩ := by
  obtain ⟨es, -, -, hcall⟩ := runs_applyGpuMode (p := p) (w := w) mode capW waitS
  revert hcall
  generalize (exec (applyGpuMode p mode capW waitS) w).1 = r
  intro hcall
  cases hcall with
  | off hstart hes hmode => rfl
  | @failedOff _ _ _ _ _ res err done hstart hes hroll hon hmode =>
      cases err with
      | none => rfl
      | some err => rfl
  | @on _ _ _ err hrequest hstart hon hmode =>
      cases mode with
      | off => exact absurd rfl hrequest
      | auto =>
          cases err with
          | none => rfl
          | some err => rfl
      | low =>
          cases err with
          | none => rfl
          | some err => rfl

end

end TurboMac.Linux
