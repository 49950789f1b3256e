import TurboMac.Linux.GpuTrace

/-! # `gpu.py`: when `off` succeeds, and what a failed one undoes -/

namespace TurboMac.Linux

open Program Trace

variable {p : GpuPlatform} {w w' : GpuWorld} {waitS : ℚ}

/-! ## Found off -/

/-- What has happened when `_apply_off` begins. -/
def startEvents (p : GpuPlatform) (w : GpuWorld) : List GpuEvent :=
  if w.incomplete then .find (p.find w.events) :: w.events else w.events

/-- Both clients are there at the first reading, and the second one reports DIS Off. -/
def FoundOff (p : GpuPlatform) (w : GpuWorld) : Prop :=
  hasClients (p.switcheroo (startEvents p w)) = true ∧
    disOffOf (p.switcheroo
      (.readSwitcheroo (p.switcheroo (startEvents p w)) :: startEvents p w)) = true

theorem follows_start {start es : List GpuEvent} (hstart : StartTrace w start)
    (hok : Follows p.Answers w.events (start ++ es)) : Follows p.Answers (startEvents p w) es := by
  unfold StartTrace at hstart
  unfold startEvents
  split_ifs at hstart ⊢
  · obtain ⟨found, rfl⟩ := hstart
    obtain ⟨hfound, hrest⟩ := hok
    rwa [show found = p.find w.events from hfound] at hrest
  · subst hstart
    exact hok

/-- The first two readings of a call. -/
theorem foundOff_iff_readings {t t' : Option Switcheroo} {es : List GpuEvent}
    (hok : Follows p.Answers (startEvents p w) (.readSwitcheroo t :: .readSwitcheroo t' :: es)) :
    FoundOff p w ↔ hasClients t = true ∧ disOffOf t' = true := by
  obtain ⟨ht, ht', -⟩ := hok
  have ht : t = p.switcheroo (startEvents p w) := ht
  have ht' : t' = p.switcheroo (.readSwitcheroo t :: startEvents p w) := ht'
  rw [FoundOff, ← ht, ← ht']

/-- `_apply_off` returns at once, and without an error, exactly where the dGPU is found off. -/
theorem foundOff_iff {hasDev : Bool} {err : Option GpuError} {done : Done} {es : List GpuEvent}
    (hes : OffTrace hasDev waitS err done es) (hok : Follows p.Answers (startEvents p w) es) :
    FoundOff p w ↔ ∃ t t', es = [.readSwitcheroo t, .readSwitcheroo t'] := by
  cases hes with
  | @noSwitcheroo t ht =>
      apply iff_of_false
      · have hfirst : t = p.switcheroo (startEvents p w) := hok.1
        rintro ⟨hclients, -⟩
        rw [← hfirst, ht] at hclients
        cases hclients
      · rintro ⟨t, t', heq⟩
        cases heq
  | @alreadyOff t t' ht ht' =>
      rw [foundOff_iff_readings hok]
      exact iff_of_true ⟨ht, ht'⟩ ⟨t, t', rfl⟩
  | unbind ht' | igd ht' | off ht' | unverified ht' hes | waited ht' hes hes' =>
      rw [foundOff_iff_readings hok, ht']
      apply iff_of_false
      · rintro ⟨-, hoff⟩
        cases hoff
      · rintro ⟨t, t', heq⟩
        cases heq

/-! ## Verified off -/

/-- A verification that has passed: DIS Off, and where there is a device its
`power_state` is not D0. -/
def OffVerified (hasDev : Bool) (es : List GpuEvent) : Prop :=
  ∃ t, disOffOf t = true ∧
    if hasDev then ∃ state, state ≠ some "D0" ∧ es = [.readSwitcheroo t, .readPowerState state]
    else es = [.readSwitcheroo t]

/-- The accesses of a call end with a passed verification, the wait and another one. -/
def VerifiedTwice (hasDev : Bool) (waitS : ℚ) (es : List GpuEvent) : Prop :=
  ∃ before v v', es = before ++ (v ++ .sleep waitS :: v') ∧
    OffVerified hasDev v ∧ OffVerified hasDev v'

theorem VerifyTrace.offVerified {hasDev : Bool} {phase : VerifyPhase} {es : List GpuEvent}
    (h : VerifyTrace hasDev phase none es) : OffVerified hasDev es := by
  cases h with
  | @verified t state hdev ht hstate =>
      refine ⟨t, ht, ?_⟩
      rw [hdev, if_pos rfl]
      exact ⟨state, hstate, rfl⟩
  | @verifiedAlone t hdev ht =>
      refine ⟨t, ht, ?_⟩
      rw [hdev, if_neg Bool.false_ne_true]

/-- If the call returns ok with mode off, it has verified that twice. -/
def OffIsVerified (w : GpuWorld) (waitS : ℚ) (r : GpuReport) (w' : GpuWorld) : Prop :=
  r.ok = true → w'.mode = some .off →
    ∃ es, w'.events = es.reverse ++ w.events ∧ VerifiedTwice w'.dev.isSome waitS es

/-- `apply_mode('off')` returns ok with mode off only after both verifications, exactly if
it does not find the dGPU off already. -/
theorem off_verified_iff (p : GpuPlatform) (w : GpuWorld) (capW waitS : ℚ) :
    let (r, w') := exec (applyGpuMode p .off capW waitS) w
    OffIsVerified w waitS r w' ↔ ¬ FoundOff p w := by
  obtain ⟨es, hlog, hok, hcall⟩ := runs_applyGpuMode (p := p) (w := w) .off capW waitS
  revert hlog hcall
  generalize exec (applyGpuMode p .off capW waitS) w = result
  obtain ⟨r, w'⟩ := result
  intro hlog hcall
  show OffIsVerified w waitS r w' ↔ _
  cases hcall with
  | @off start es done hstart hes hmode =>
      have hfound := foundOff_iff hes (follows_start hstart hok)
      cases hes with
      | @alreadyOff t t' ht ht' =>
          apply iff_of_false
          · -- nothing has been waited for
            intro hverified
            obtain ⟨es, hes, before, v, v', rfl, -, -⟩ := hverified rfl hmode
            have hsame := List.append_cancel_right (hes.symm.trans hlog)
            rw [List.reverse_inj] at hsame
            have hsleep : GpuEvent.sleep waitS ∈ start ++ [.readSwitcheroo t, .readSwitcheroo t'] := by
              rw [← hsame]
              simp
            unfold StartTrace at hstart
            split_ifs at hstart
            · obtain ⟨found, rfl⟩ := hstart
              simp at hsleep
            · subst hstart
              simp at hsleep
          · rw [not_not, hfound]
            exact ⟨t, t', rfl⟩
      | @waited t t' console _ v v' ht' hv hv' =>
          apply iff_of_true
          · intro _ _
            refine ⟨_, hlog, start ++ (unbindEvents t t' console none ++
              [.writeSwitcheroo .igd none, .writeSwitcheroo .off none]), v, v', ?_,
              hv.offVerified, hv'.offVerified⟩
            simp
          · rw [hfound]
            rintro ⟨t₁, t₂, heq⟩
            cases heq
  | @failedOff start es roll on hasDev res err done hstart hes hroll hon hmode =>
      have hfound := foundOff_iff hes (follows_append.1 (follows_start hstart hok)).1
      -- a call that fails does not claim anything
      apply iff_of_true
      · intro htrue
        cases htrue
      · rw [hfound]
        rintro ⟨t, t', rfl⟩
        cases hes
  | on hrequest _ _ _ => exact absurd rfl hrequest

/-- A dGPU that `vga_switcheroo` reports as Off while its `power_state` stays D0. -/
def stillPowered : GpuPlatform where
  find _ := some ("card0", some "hwmon0")
  switcheroo _ := some [("IGD", ⟨true, "Pwr"⟩), ("DIS", ⟨false, "Off"⟩)]
  powerState _ := some "D0"
  writeSwitcheroo _ _ := none
  console _ := some "vtcon1"
  writeBind _ _ := none
  existsFile _ _ := true
  readInt _ _ := none
  readText _ _ := none
  writeCap _ _ := none
  writeDpm _ _ := none

/-- A `Gpu` that has found its device. -/
def foundGpu : GpuWorld := ⟨some "card0", some "hwmon0", none, []⟩

/-- The call succeeds without a look at `power_state` and without the wait. -/
theorem off_unverified :
    let (r, w') := exec (applyGpuMode stillPowered .off 15 10) foundGpu
    ¬ OffIsVerified foundGpu 10 r w' := by
  intro hverified
  obtain ⟨es, hes, before, v, v', rfl, -, -⟩ := hverified rfl rfl
  have htwo : [.readSwitcheroo (stillPowered.switcheroo []), .readSwitcheroo (stillPowered.switcheroo [])] =
      (before ++ (v ++ .sleep 10 :: v')).reverse ++ [] := hes
  have hsleep : GpuEvent.sleep 10 ∈ (before ++ (v ++ .sleep 10 :: v')).reverse ++ [] := by simp
  rw [← htwo] at hsleep
  simp at hsleep

/-! ## Rolled back -/

/-- Where a thing cannot be, whatever comes before it begins so. -/
theorem prefix_of_notMem {α : Type} {l l' pre post : List α} {x : α}
    (h : l ++ l' = pre ++ x :: post) (hx : x ∉ l) : l <+: pre := by
  rcases List.append_eq_append_iff.1 h with ⟨c, rfl, -⟩ | ⟨c, rfl, hc⟩
  · exact List.prefix_append l c
  · cases c with
    | nil => rw [List.append_nil]
    | cons y c =>
        obtain ⟨rfl, -⟩ := List.cons.inj hc
        exact absurd (List.mem_append_right pre List.mem_cons_self) hx

theorem isPowerDown_of_isSwitch {e : GpuEvent} (h : e.isSwitch = false) : e.isPowerDown = false := by
  unfold GpuEvent.isPowerDown
  split
  · cases h
  · cases h
  · cases h
  · rfl

theorem StartTrace.isSwitch {es : List GpuEvent} (h : StartTrace w es) :
    ∀ e ∈ es, e.isSwitch = false ∧ e.isCapWrite = false := by
  unfold StartTrace at h
  split_ifs at h
  · obtain ⟨found, rfl⟩ := h
    intro e he
    rw [List.mem_singleton.1 he]
    exact ⟨rfl, rfl⟩
  · subst h
    intro e he
    cases he

theorem PowerUp.no_cap {es : List GpuEvent} (h : PowerUp es) :
    ∀ e ∈ es, e.isCapWrite = false ∧ e.isPowerDown = false := by
  obtain ⟨onError, disError, console, bindError, rfl⟩ := h
  intro e he
  simp only [List.mem_cons, List.not_mem_nil, or_false] at he
  rcases he with rfl | rfl | rfl
  · exact ⟨rfl, rfl⟩
  · exact ⟨rfl, rfl⟩
  · exact ⟨rfl, rfl⟩

theorem RollTrace.no_cap {done : Done} {es : List GpuEvent} (h : RollTrace done es) :
    ∀ e ∈ es, e.isCapWrite = false ∧ e.isPowerDown = false := by
  unfold RollTrace at h
  split_ifs at h
  · exact h.no_cap
  · obtain ⟨console, error, rfl⟩ := h
    intro e he
    rw [List.mem_singleton.1 he]
    exact ⟨rfl, rfl⟩
  · subst h
    intro e he
    cases he

theorem VerifyTrace.reads {hasDev : Bool} {phase : VerifyPhase} {err : Option GpuError}
    {es : List GpuEvent} (h : VerifyTrace hasDev phase err es) :
    ∀ e ∈ es, e.isSwitch = false ∧ e.isCapWrite = false := by
  intro e he
  cases h with
  | notOff ht | verifiedAlone hdev ht =>
      rw [List.mem_singleton.1 he]
      exact ⟨rfl, rfl⟩
  | stillD0 hdev ht | verified hdev ht hstate =>
      simp only [List.mem_cons, List.not_mem_nil, or_false] at he
      rcases he with rfl | rfl
      · exact ⟨rfl, rfl⟩
      · exact ⟨rfl, rfl⟩

/-- After its two readings `_apply_off` has tried nothing, or the unbind, or the unbind,
IGD and perhaps OFF, each after the one before has succeeded. -/
inductive OffWrites : Done → List GpuEvent → Prop where
  | nothing {es : List GpuEvent} (hes : ∀ e ∈ es, e.isSwitch = false) : OffWrites ⟨false, false⟩ es
  | unbind {reads : List GpuEvent} {console : Option String} {error : String}
      (hreads : ∀ e ∈ reads, e.isSwitch = false) :
      OffWrites ⟨false, false⟩ (reads ++ [.fbconBind "0" console (some error)])
  | igd {reads : List GpuEvent} {console : Option String} {error : String}
      (hreads : ∀ e ∈ reads, e.isSwitch = false) :
      OffWrites ⟨true, true⟩
        (reads ++ [.fbconBind "0" console none, .writeSwitcheroo .igd (some error)])
  | off {reads later : List GpuEvent} {console error : Option String}
      (hreads : ∀ e ∈ reads, e.isSwitch = false) (hlater : ∀ e ∈ later, e.isSwitch = false) :
      OffWrites ⟨true, true⟩
        (reads ++ [.fbconBind "0" console none, .writeSwitcheroo .igd none] ++
          .writeSwitcheroo .off error :: later)

theorem OffTrace.writes {hasDev : Bool} {err : Option GpuError} {done : Done} {es : List GpuEvent}
    (h : OffTrace hasDev waitS err done es) :
    OffWrites done es ∧ ∀ e ∈ es, e.isCapWrite = false := by
  have hreads (t t' : Option Switcheroo) :
      ∀ e ∈ [GpuEvent.readSwitcheroo t, .readSwitcheroo t'], e.isSwitch = false := by
    simp [GpuEvent.isSwitch]
  have hswitches (t t' : Option Switcheroo) (console : Option String) :
      ∀ e ∈ unbindEvents t t' console none ++ [.writeSwitcheroo .igd none, .writeSwitcheroo .off none],
        e.isCapWrite = false := by
    simp [unbindEvents, GpuEvent.isCapWrite]
  cases h with
  | noSwitcheroo ht => exact ⟨.nothing (by simp [GpuEvent.isSwitch]), by simp [GpuEvent.isCapWrite]⟩
  | @alreadyOff t t' ht ht' => exact ⟨.nothing (hreads t t'), by simp [GpuEvent.isCapWrite]⟩
  | @unbind t t' console error ht' =>
      exact ⟨.unbind (hreads t t'), by simp [unbindEvents, GpuEvent.isCapWrite]⟩
  | @igd t t' console error ht' =>
      exact ⟨.igd (hreads t t'), by simp [unbindEvents, GpuEvent.isCapWrite]⟩
  | @off t t' console error ht' =>
      exact ⟨@OffWrites.off _ [] console (some error) (hreads t t') (by simp),
        by simp [unbindEvents, GpuEvent.isCapWrite]⟩
  | @unverified t t' console err v ht' hv =>
      constructor
      · exact @OffWrites.off _ v console none (hreads t t') fun e he => (hv.reads e he).1
      · exact List.forall_mem_append.2 ⟨hswitches t t' console, fun e he => (hv.reads e he).2⟩
  | @waited t t' console err v v' ht' hv hv' =>
      -- all that comes after OFF reads or waits
      have hlater : ∀ e ∈ v ++ [.sleep waitS] ++ v', e.isSwitch = false ∧ e.isCapWrite = false := by
        rw [List.forall_mem_append, List.forall_mem_append]
        refine ⟨⟨hv.reads, ?_⟩, hv'.reads⟩
        intro e he
        rw [List.mem_singleton.1 he]
        exact ⟨rfl, rfl⟩
      rw [List.append_assoc, List.append_assoc, ← List.append_assoc v]
      constructor
      · exact @OffWrites.off _ (v ++ [.sleep waitS] ++ v') console none (hreads t t')
          fun e he => (hlater e he).1
      · exact List.forall_mem_append.2 ⟨hswitches t t' console, fun e he => (hlater e he).2⟩

theorem OffWrites.after_start {done : Done} {start es : List GpuEvent} (h : OffWrites done es)
    (hstart : ∀ e ∈ start, e.isSwitch = false) : OffWrites done (start ++ es) := by
  have happend {reads : List GpuEvent} (hreads : ∀ e ∈ reads, e.isSwitch = false) :
      ∀ e ∈ start ++ reads, e.isSwitch = false := List.forall_mem_append.2 ⟨hstart, hreads⟩
  cases h with
  | nothing hes => exact .nothing (happend hes)
  | unbind hreads =>
      rw [← List.append_assoc]
      exact .unbind (happend hreads)
  | igd hreads =>
      rw [← List.append_assoc]
      exact .igd (happend hreads)
  | off hreads hlater =>
      rw [← List.append_assoc, ← List.append_assoc]
      exact .off (happend hreads) hlater

theorem notMem_of_isSwitch {es : List GpuEvent} {e : GpuEvent} (h : ∀ e ∈ es, e.isSwitch = false)
    (he : e.isSwitch = true) : e ∉ es := by
  intro hmem
  rw [h e hmem] at he
  cases he

/-- Where OFF is written, the unbind and IGD have succeeded. -/
theorem OffWrites.before_off {done : Done} {es later pre post : List GpuEvent}
    {error : Option String} (h : OffWrites done es)
    (hlater : ∀ e ∈ later, e.isPowerDown = false)
    (heq : es ++ later = pre ++ .writeSwitcheroo .off error :: post) :
    ∃ console, [.fbconBind "0" console none, .writeSwitcheroo .igd none].Sublist pre := by
  have hcontra (hes : GpuEvent.writeSwitcheroo .off error ∉ es) : False := by
    have hmem : GpuEvent.writeSwitcheroo .off error ∈ es ++ later := by simp [heq]
    rcases List.mem_append.1 hmem with hmem | hmem
    · exact hes hmem
    · cases hlater _ hmem
  cases h with
  | nothing hes => exact (hcontra (notMem_of_isSwitch hes rfl)).elim
  | unbind hreads =>
      refine (hcontra ?_).elim
      simp [notMem_of_isSwitch (e := .writeSwitcheroo .off error) hreads rfl]
  | igd hreads =>
      refine (hcontra ?_).elim
      simp [notMem_of_isSwitch (e := .writeSwitcheroo .off error) hreads rfl]
  | @off reads later' console error' hreads hlater' =>
      rw [List.append_assoc] at heq
      have hnot : GpuEvent.writeSwitcheroo .off error ∉
          reads ++ [.fbconBind "0" console none, .writeSwitcheroo .igd none] := by
        simp [notMem_of_isSwitch (e := .writeSwitcheroo .off error) hreads rfl]
      exact ⟨console, (List.sublist_append_right reads _).trans (prefix_of_notMem heq hnot).sublist⟩

/-- Whether a failed call has to undo an event: a command to `vga_switcheroo`, even one
that has failed, or an unbind that has not. -/
def GpuEvent.toUndo : GpuEvent → Bool
  | .writeSwitcheroo _ _ | .fbconBind "0" _ none => true
  | _ => false

theorem isSwitch_of_toUndo {e : GpuEvent} (h : e.toUndo = true) : e.isSwitch = true := by
  unfold GpuEvent.toUndo at h
  split at h
  · rfl
  · rfl
  · cases h

theorem OffWrites.done_of_toUndo {done : Done} {es : List GpuEvent} {e : GpuEvent}
    (h : OffWrites done es) (he : e ∈ es) (hundo : e.toUndo = true) : done = ⟨true, true⟩ := by
  cases h with
  | nothing hes => exact absurd he (notMem_of_isSwitch hes (isSwitch_of_toUndo hundo))
  | @unbind reads console error hreads =>
      rcases List.mem_append.1 he with he | he
      · exact absurd he (notMem_of_isSwitch hreads (isSwitch_of_toUndo hundo))
      · -- an unbind that has failed
        rw [List.mem_singleton.1 he] at hundo
        cases hundo
  | igd hreads => rfl
  | off hreads hlater => rfl

/-- What is left of a failed call after `before`: `after` undoes it and sets no cap yet,
and `rest` switches nothing any more. -/
structure RolledBack (before after rest : List GpuEvent) : Prop where
  cap : ∀ e ∈ before ++ after, e.isCapWrite = false
  powerDown : ∀ e ∈ after ++ rest, e.isPowerDown = false
  undone : ∀ e ∈ before ++ (after ++ rest), e.toUndo = true →
    ∃ onError disError console bindError,
      [.writeSwitcheroo .on onError, .writeSwitcheroo .dis disError,
        .fbconBind "1" console bindError].Sublist after

theorem rolledBack {hasDev : Bool} {res : GpuError} {done : Done} {start es roll on : List GpuEvent}
    (hstart : StartTrace w start) (hes : OffTrace hasDev waitS (some res) done es)
    (hroll : RollTrace done roll) (hon : OnTrace on) :
    ∃ after rest, roll ++ on = after ++ rest ∧ RolledBack (start ++ es) after rest := by
  obtain ⟨t, up, rest, rfl, hup, hrest⟩ := hon
  obtain ⟨hwrites, hescap⟩ := hes.writes
  have hupcap : ∀ e ∈ up, e.isCapWrite = false ∧ e.isPowerDown = false := by
    split_ifs at hup
    · exact hup.no_cap
    · subst hup
      intro e he
      cases he
  refine ⟨roll ++ .readSwitcheroo t :: up, rest, by simp, ?_, ?_, ?_⟩
  · intro e he
    simp only [List.mem_append, List.mem_cons] at he
    rcases he with (he | he) | he | rfl | he
    · exact (hstart.isSwitch e he).2
    · exact hescap e he
    · exact (hroll.no_cap e he).1
    · rfl
    · exact (hupcap e he).1
  · intro e he
    simp only [List.mem_append, List.mem_cons] at he
    rcases he with (he | rfl | he) | he
    · exact (hroll.no_cap e he).2
    · rfl
    · exact (hupcap e he).2
    · exact isPowerDown_of_isSwitch (hrest e he)
  · intro e he hundo
    have hswitch := isSwitch_of_toUndo hundo
    -- either the rollback powers the dGPU up, or `_apply_on` does
    have hpower : PowerUp roll ∨ PowerUp up := by
      simp only [List.mem_append, List.mem_cons] at he
      rcases he with (he | he) | (he | rfl | he) | he
      · exact absurd he (notMem_of_isSwitch (fun e he => (hstart.isSwitch e he).1) hswitch)
      · left
        rw [RollTrace, hwrites.done_of_toUndo he hundo] at hroll
        exact hroll
      · left
        unfold RollTrace at hroll
        split_ifs at hroll
        · exact hroll
        · -- a bind is nothing to undo
          obtain ⟨console, error, rfl⟩ := hroll
          rw [List.mem_singleton.1 he] at hundo
          cases hundo
        · subst hroll
          cases he
      · cases hundo
      · right
        split_ifs at hup
        · exact hup
        · subst hup
          cases he
      · exact absurd he (notMem_of_isSwitch hrest hswitch)
    rcases hpower with ⟨onError, disError, console, bindError, rfl⟩ |
      ⟨onError, disError, console, bindError, rfl⟩
    · exact ⟨onError, disError, console, bindError, List.sublist_append_left _ _⟩
    · refine ⟨onError, disError, console, bindError, ?_⟩
      exact ((List.Sublist.refl _).cons _).trans (List.sublist_append_right _ _)

/-- `apply_mode('off')` writes OFF only after the unbind and IGD have succeeded; where it
fails, it undoes what it has tried before any cap is written and returns mode low. -/
theorem off_rolled_back (p : GpuPlatform) (w : GpuWorld) (capW waitS : ℚ) :
    let (r, w') := exec (applyGpuMode p .off capW waitS) w
    ∃ es, w'.events = es.reverse ++ w.events ∧
      (∀ pre post error, es = pre ++ .writeSwitcheroo .off error :: post →
        ∃ console, [.fbconBind "0" console none, .writeSwitcheroo .igd none].Sublist pre) ∧
      (r.ok = false → r.mode = .low ∧ w'.mode = some .low ∧
        ∃ before after rest, es = before ++ (after ++ rest) ∧ RolledBack before after rest) := by
  obtain ⟨es, hlog, -, hcall⟩ := runs_applyGpuMode (p := p) (w := w) .off capW waitS
  revert hlog hcall
  generalize exec (applyGpuMode p .off capW waitS) w = result
  obtain ⟨r, w'⟩ := result
  intro hlog hcall
  refine ⟨es, hlog, ?_⟩
  cases hcall with
  | @off start es done hstart hes hmode =>
      constructor
      · intro pre post error heq
        have hwrites := hes.writes.1.after_start fun e he => (hstart.isSwitch e he).1
        rw [← List.append_nil (start ++ es)] at heq
        apply hwrites.before_off ?_ heq
        intro e he
        cases he
      · intro hfalse
        cases hfalse
  | @failedOff start es roll on hasDev res err done hstart hes hroll hon hmode =>
      obtain ⟨after, rest, hsplit, hback⟩ := rolledBack hstart hes hroll hon
      rw [hsplit]
      constructor
      · intro pre post error heq
        have hwrites := hes.writes.1.after_start fun e he => (hstart.isSwitch e he).1
        rw [← List.append_assoc] at heq
        exact hwrites.before_off hback.powerDown heq
      · intro _
        exact ⟨rfl, hmode, start ++ es, after, rest, by rw [List.append_assoc], hback⟩
  | on hrequest _ _ _ => exact absurd rfl hrequest

end TurboMac.Linux
