import TurboMac.Lib.Interleaving
import TurboMac.Linux.FanFloor
import TurboMac.Linux.FanLadder

/-! # Whose fan minimums are captured

A start without a file takes the live minimums for the hardware's where they are not
far above the known ones. A floor may be that low, and is live after a crash: if the
file has not been saved before, TurboMac captures its own floor, and saves it.
-/

namespace TurboMac.Linux

/-- What a start takes for the hardware minimums, what it saves of them, and what TurboMac
has written by then. -/
structure FanStart where
  defaults : ℕ → Option ℤ
  saved : Option (ℕ → Option ℤ)
  own : ℕ → List ℤ

/-- The registers, the file and the daemon. -/
structure FanMachine where
  /-- `fan{N}_min` -/
  live : ℕ → ℤ
  /-- all that TurboMac has written to `fan{N}_min`, as written and as stored -/
  own : ℕ → List ℤ
  /-- `fan-defaults.json`, if it is there and can be parsed -/
  file : Option (ℕ → Option ℤ)
  daemon : Option FanController
  /-- newest first -/
  starts : List FanStart

/-- What may happen to the machine. -/
inductive FanMachineEvent where
  /-- a start that finds `fans`, which of their minimums it can read, whether the file can be
  opened, and whether it can be saved -/
  | start (fans : List (ℕ × Fan)) (readable : ℕ → Bool) (opened saves : Bool)
  /-- a call of the controller, and what its writes leave in the registers, if they take -/
  | call (call : FanCall) (stored : ℕ → Option ℤ)
  | crash
  /-- the file is removed or damaged -/
  | lose
  /-- the SMC is reset -/
  | reset

/-- What some events write to fan `n`. -/
def minWrites (n : ℕ) (events : List FanEvent) : List ℤ :=
  events.filterMap fun
    | .writeMin m rpm => if m = n then some rpm else none
    | _ => none

namespace FanMachine

variable (hardware : ℕ → ℤ)

/-- The live minimums that can be read. -/
def readings (m : FanMachine) (readable : ℕ → Bool) : ℕ → Option ℤ :=
  fun n => if readable n then some (m.live n) else none

/-- The file, if it can be opened. -/
def opened (m : FanMachine) (opened : Bool) : Option (ℕ → Option ℤ) := if opened then m.file else none

/-- `discover`, which looks for minimums only if there are fans. -/
def discover (fans : List (ℕ × Fan)) (file : Option (ℕ → Option ℤ)) (live : ℕ → Option ℤ) :
    (ℕ → Option ℤ) × Option (ℕ → Option ℤ) :=
  if fans = [] then (fun _ => none, none) else FanController.loadOrCapture fans file live

/-- One event, if it is possible: a machine with hardware minimums `hardware`. -/
def step (m : FanMachine) : FanMachineEvent → Option FanMachine
  | .start fans readable opened saves =>
    if m.daemon.isSome then none
    else
      let live := m.readings readable
      let (defaults, capture) := discover fans (m.opened opened) live
      let saved := if saves then capture else none
      some { m with
        file := saved.orElse fun _ => m.file
        daemon := some (FanController.discovered fans live (m.opened opened))
        starts := ⟨defaults, saved, m.own⟩ :: m.starts }
  | .call call stored =>
    m.daemon.map fun c =>
      let writes := fun n => minWrites n (call.events c)
      { m with
        live := fun n => if writes n = [] then m.live n else (stored n).getD (m.live n)
        own := fun n => if writes n = [] then m.own n else (stored n).toList ++ writes n ++ m.own n
        daemon := some (call.after c) }
  | .crash => some { m with daemon := none }
  | .lose => some { m with file := none }
  | .reset => some { m with live := hardware }

end FanMachine

/-- No minimum of the first two fans is one that TurboMac has written, unless it is the
hardware's. -/
def FanStart.Clean (hardware : ℕ → ℤ) (s : FanStart) : Prop :=
  ∀ n, n = 1 ∨ n = 2 → ∀ v ∈ s.own n, v ≠ hardware n →
    s.defaults n ≠ some v ∧ ∀ saved ∈ s.saved, saved n ≠ some v

namespace FanMachine

variable {hardware : ℕ → ℤ} {m m' : FanMachine}

/-- All starts have been clean. -/
def Captured (hardware : ℕ → ℤ) (m : FanMachine) : Prop := ∀ s ∈ m.starts, s.Clean hardware

/-- The first two fans of a file have the hardware minimums. -/
def Genuine (hardware : ℕ → ℤ) (file : Option (ℕ → Option ℤ)) : Prop :=
  ∀ saved ∈ file, ∀ n, n = 1 ∨ n = 2 → ∀ v ∈ saved n, v = hardware n

/-- A machine before its first start. -/
structure Fresh (hardware : ℕ → ℤ) (m : FanMachine) : Prop where
  live : m.live = hardware
  own : ∀ n, m.own n = []
  file : m.file = none
  daemon : m.daemon = none
  starts : m.starts = []

/-- A start that finds no file captures nothing of TurboMac's own: of the first two fans,
what is plausible is the hardware's, and where nothing is, so is the known minimum, or
TurboMac has never written that. -/
def ClearStart (hardware : ℕ → ℤ) (m : FanMachine) (fans : List (ℕ × Fan)) (live : ℕ → Option ℤ) :
    Prop :=
  ∀ n, n = 1 ∨ n = 2 → ∀ fan ∈ fans.lookup n,
    match (live n).filter (FanController.plausibleMin n fan.max) with
    | some v => v = hardware n
    | none => ∀ v ∈ knownHwMin n, v = hardware n ∨ v ∉ m.own n

end FanMachine

/-- No start without a file captures what is TurboMac's own. -/
def FanMachineEvent.Clear (hardware : ℕ → ℤ) (m : FanMachine) : FanMachineEvent → Prop
  | .start fans readable opened _ =>
    (m.opened opened).filter (FanController.allPlausible fans) = none →
      m.ClearStart hardware fans (m.readings readable)
  | _ => True

namespace FanMachine

variable {hardware : ℕ → ℤ} {m m' : FanMachine}

/-! ## A start -/

theorem mem_of_lookup {fans : List (ℕ × Fan)} {n : ℕ} {fan : Fan} (h : fans.lookup n = some fan) :
    (n, fan) ∈ fans := by
  rcases List.lookup_eq_some_iff.1 h with ⟨l₁, l₂, rfl, -⟩
  simp

theorem ofFans_eq (fans : List (ℕ × Fan)) (mins : ℕ → Option ℤ) (n : ℕ) :
    FanController.ofFans fans mins n = (fans.lookup n).bind fun _ => mins n := by
  unfold FanController.ofFans
  induction fans with
  | nil => rfl
  | cons item fans ih =>
      rcases item with ⟨m, fan⟩
      rw [List.any_cons, List.lookup_cons]
      by_cases hm : m = n
      · subst hm
        simp
      · have hne : (n == m) = false := by simp [Ne.symm hm]
        rw [hne]
        simp only [hm, decide_false, Bool.false_or]
        exact ih

theorem plausible_of_lookup {fans : List (ℕ × Fan)} {live : ℕ → Option ℤ} {n : ℕ} {fan : Fan}
    (hall : FanController.allPlausible fans live = true) (hfan : fans.lookup n = some fan) :
    ∃ v, live n = some v ∧ (live n).filter (FanController.plausibleMin n fan.max) = some v := by
  have hplausible := List.all_eq_true.1 hall _ (mem_of_lookup hfan)
  rcases (Option.any_eq_true _ _).1 hplausible with ⟨v, hv, hp⟩
  refine ⟨v, hv, ?_⟩
  rw [hv, Option.filter_some, if_pos hp]

/-- Where all are plausible, nothing stands in. -/
theorem fallback_of_allPlausible {fans : List (ℕ × Fan)} {live : ℕ → Option ℤ}
    (h : FanController.allPlausible fans live = true) :
    FanController.ofFans fans live = FanController.fallback fans live := by
  funext n
  rw [ofFans_eq, FanController.fallback]
  cases hlookup : fans.lookup n with
  | none => rfl
  | some fan =>
      rcases plausible_of_lookup h hlookup with ⟨v, hv, hfilter⟩
      simp only [Option.bind_some, hfilter]
      exact hv

/-- A start takes the file, or else what is plausible, with known minimums for the rest. -/
theorem discover_cases (fans : List (ℕ × Fan)) (file : Option (ℕ → Option ℤ))
    (live : ℕ → Option ℤ) :
    (∃ saved, file = some saved ∧ file.filter (FanController.allPlausible fans) ≠ none ∧
      (discover fans file live).2 = none ∧
      ∀ n v, (discover fans file live).1 n = some v → saved n = some v) ∨
    (file.filter (FanController.allPlausible fans) = none ∧
      (discover fans file live).1 = FanController.fallback fans live ∧
      ((discover fans file live).2 = none ∨ FanController.allPlausible fans live = true ∧
        (discover fans file live).2 = some (FanController.fallback fans live))) := by
  unfold discover FanController.loadOrCapture
  cases haccepted : file.filter (FanController.allPlausible fans) with
  | some saved =>
      left
      refine ⟨saved, (Option.filter_eq_some_iff.1 haccepted).1, by simp, ?_⟩
      split
      · exact ⟨rfl, by simp⟩
      · refine ⟨rfl, ?_⟩
        intro n v hv
        dsimp only at hv
        rw [ofFans_eq] at hv
        rcases Option.bind_eq_some_iff.1 hv with ⟨fan, -, hsaved⟩
        exact hsaved
  | none =>
      right
      refine ⟨rfl, ?_⟩
      split
      · rename_i hfans
        subst hfans
        exact ⟨rfl, .inl rfl⟩
      · dsimp only
        split
        · rename_i hall
          rw [fallback_of_allPlausible hall]
          exact ⟨rfl, .inr ⟨hall, rfl⟩⟩
        · exact ⟨rfl, .inl rfl⟩

/-- Without a file a start is clean exactly if it is clear. -/
theorem clean_iff {fans : List (ℕ × Fan)} {live : ℕ → Option ℤ} {saved : Option (ℕ → Option ℤ)}
    (hlive : ∀ n, ∀ v ∈ live n, v = hardware n ∨ v ∈ m.own n)
    (hsaved : ∀ mins ∈ saved, mins = FanController.fallback fans live) :
    FanStart.Clean hardware ⟨FanController.fallback fans live, saved, m.own⟩ ↔
      m.ClearStart hardware fans live := by
  constructor
  · intro hclean n hn fan hfan
    have hfallback : FanController.fallback fans live n =
        match (live n).filter (FanController.plausibleMin n fan.max) with
        | some v => some v
        | none => knownHwMin n := by
      rw [FanController.fallback, Option.mem_def.1 hfan]
      rfl
    cases hfilter : (live n).filter (FanController.plausibleMin n fan.max) with
    | some v =>
        rw [hfilter] at hfallback
        by_contra hne
        rcases hlive n v (Option.filter_eq_some_iff.1 hfilter).1 with heq | hown
        · exact hne heq
        · exact (hclean n hn v hown hne).1 hfallback
    | none =>
        rw [hfilter] at hfallback
        intro v hv
        by_contra hne
        rw [not_or, not_not] at hne
        exact (hclean n hn v hne.2 hne.1).1 (hfallback.trans hv)
  · intro hclear n hn v hown hne
    -- neither the defaults nor what is saved of them
    have hdefault : FanController.fallback fans live n ≠ some v := by
      intro hfallback
      rcases Option.bind_eq_some_iff.1 hfallback with ⟨fan, hfan, hmin⟩
      have hfanClear := hclear n hn fan hfan
      split at hmin
      · rename_i w hfilter
        rw [hfilter] at hfanClear
        cases hmin
        exact hne hfanClear
      · rename_i hfilter
        rw [hfilter] at hfanClear
        rcases hfanClear v hmin with heq | hnot
        · exact hne heq
        · exact hnot hown
    refine ⟨hdefault, ?_⟩
    intro mins hmins
    rw [hsaved mins hmins]
    exact hdefault

/-- A register has the hardware minimum, or what TurboMac has left there; and while all
starts are clean, the file has hardware minimums. -/
structure Sound (hardware : ℕ → ℤ) (m : FanMachine) : Prop where
  live : ∀ n, m.live n = hardware n ∨ m.live n ∈ m.own n
  file : m.Captured hardware → Genuine hardware m.file

/-! ## Events -/

theorem readings_sound (h : m.Sound hardware) (readable : ℕ → Bool) (n : ℕ) :
    ∀ v ∈ m.readings readable n, v = hardware n ∨ v ∈ m.own n := by
  intro v hv
  have hlive : m.live n = v := by
    rw [Option.mem_def, readings] at hv
    split at hv
    · cases hv
      rfl
    · cases hv
  rw [← hlive]
  exact h.live n

theorem file_of_opened {opened : Bool} {saved : ℕ → Option ℤ} (h : m.opened opened = some saved) :
    m.file = some saved := by
  unfold FanMachine.opened at h
  split at h
  · exact h
  · cases h

/-- What a clear start saves is the hardware's. -/
theorem genuine_fallback {fans : List (ℕ × Fan)} {live : ℕ → Option ℤ}
    (hclear : m.ClearStart hardware fans live) (hall : FanController.allPlausible fans live = true) :
    Genuine hardware (some (FanController.fallback fans live)) := by
  intro mins hmins n hn v hv
  cases hmins
  rw [← fallback_of_allPlausible hall, ofFans_eq] at hv
  rcases Option.bind_eq_some_iff.1 hv with ⟨fan, hfan, hlive⟩
  rcases plausible_of_lookup hall hfan with ⟨w, hw, hfilter⟩
  have hmin := hclear n hn fan hfan
  rw [hfilter] at hmin
  rw [hlive] at hw
  cases hw
  exact hmin

/-- A start of a sound machine leaves it sound, and is clean exactly if it is clear. -/
theorem start_spec (h : m.Sound hardware) {fans : List (ℕ × Fan)} {readable : ℕ → Bool}
    {opened saves : Bool} (hstep : step hardware m (.start fans readable opened saves) = some m') :
    m'.Sound hardware ∧ (m.Captured hardware →
      (m'.Captured hardware ↔ FanMachineEvent.Clear hardware m (.start fans readable opened saves))) := by
  unfold step at hstep
  dsimp only at hstep
  split at hstep
  · cases hstep
  have hlive := readings_sound h readable
  have hcases := discover_cases fans (m.opened opened) (m.readings readable)
  generalize discover fans (m.opened opened) (m.readings readable) = found at hcases hstep
  rcases found with ⟨defaults, capture⟩
  cases hstep
  -- the new start, and the ones before it
  have hstarts : ∀ {file : Option (ℕ → Option ℤ)} {daemon : Option FanController} {s : FanStart},
      FanMachine.Captured hardware ⟨m.live, m.own, file, daemon, s :: m.starts⟩ ↔
        s.Clean hardware ∧ m.Captured hardware := by
    intro file daemon s
    exact List.forall_mem_cons
  rcases hcases with ⟨saved, hfile, haccepted, hnone, hdefaults⟩ | ⟨hrefused, hfallback, hcapture⟩
  · -- the file is taken, and stays as it is
    dsimp only at hnone hdefaults
    subst hnone
    have hnew : (if saves = true then (none : Option (ℕ → Option ℤ)) else none) = none := by
      split <;> rfl
    dsimp only
    rw [hnew]
    refine ⟨⟨h.live, ?_⟩, ?_⟩
    · intro hcaptured
      exact h.file (hstarts.1 hcaptured).2
    · intro hcaptured
      refine iff_of_true (hstarts.2 ⟨?_, hcaptured⟩) (fun hrefused => absurd hrefused haccepted)
      intro n hn v _ hne
      refine ⟨?_, by simp⟩
      intro hv
      exact hne (h.file hcaptured saved (file_of_opened hfile) n hn v (hdefaults n v hv))
  · -- there is none to be taken
    dsimp only at hfallback hcapture
    subst hfallback
    have hsaved : ∀ mins ∈ (if saves = true then capture else none),
        mins = FanController.fallback fans (m.readings readable) ∧
          FanController.allPlausible fans (m.readings readable) = true := by
      intro mins hmins
      split at hmins
      · rcases hcapture with rfl | ⟨hall, rfl⟩
        · cases hmins
        · cases hmins
          exact ⟨rfl, hall⟩
      · cases hmins
    generalize (if saves = true then capture else none) = saved at hsaved ⊢
    have hclean := @clean_iff hardware m fans (m.readings readable) saved hlive
      (fun mins hmins => (hsaved mins hmins).1)
    refine ⟨⟨h.live, ?_⟩, ?_⟩
    · intro hcaptured
      rcases hstarts.1 hcaptured with ⟨hstart, hbefore⟩
      cases saved with
      | none => exact h.file hbefore
      | some mins =>
          rcases hsaved mins rfl with ⟨rfl, hall⟩
          exact genuine_fallback (hclean.1 hstart) hall
    · intro hcaptured
      rw [hstarts, and_iff_left hcaptured, hclean]
      constructor
      · intro hclear _
        exact hclear
      · intro hclear
        exact hclear hrefused

/-- What a call leaves in a register is what was there, or TurboMac's own. -/
theorem sound_call (h : m.Sound hardware) (writes : ℕ → List ℤ) (stored : ℕ → Option ℤ)
    (daemon : Option FanController) : FanMachine.Sound hardware
      { m with
        live := fun n => if writes n = [] then m.live n else (stored n).getD (m.live n)
        own := fun n => if writes n = [] then m.own n else (stored n).toList ++ writes n ++ m.own n
        daemon := daemon } := by
  refine ⟨?_, h.file⟩
  intro n
  dsimp only
  split
  · exact h.live n
  · cases hstored : stored n with
    | none =>
        rcases h.live n with hlive | hlive
        · exact .inl hlive
        · exact .inr (by simp [hlive])
    | some v => exact .inr (by simp)

/-- Every event leaves a sound machine sound. -/
theorem sound_step (h : m.Sound hardware) {e : FanMachineEvent} (hstep : step hardware m e = some m') :
    m'.Sound hardware := by
  cases e with
  | start fans readable opened saves => exact (start_spec h hstep).1
  | call call stored =>
      unfold step at hstep
      rcases Option.map_eq_some_iff.1 hstep with ⟨c, -, rfl⟩
      exact sound_call h _ stored _
  | crash =>
      cases hstep
      exact ⟨h.live, h.file⟩
  | lose =>
      cases hstep
      refine ⟨h.live, ?_⟩
      intro _ saved hsaved
      cases hsaved
  | reset =>
      cases hstep
      exact ⟨fun n => .inl rfl, h.file⟩

/-- An event keeps all starts clean exactly if it is clear. -/
theorem captured_step_iff (h : m.Sound hardware) (hcaptured : m.Captured hardware)
    {e : FanMachineEvent} (hstep : step hardware m e = some m') :
    m'.Captured hardware ↔ e.Clear hardware m := by
  cases e with
  | start fans readable opened saves => exact (start_spec h hstep).2 hcaptured
  | call call stored =>
      unfold step at hstep
      rcases Option.map_eq_some_iff.1 hstep with ⟨c, -, rfl⟩
      exact iff_of_true hcaptured trivial
  | crash | lose | reset =>
      cases hstep
      exact iff_of_true hcaptured trivial

theorem Fresh.sound (h : m.Fresh hardware) : m.Sound hardware := by
  constructor
  · intro n
    exact .inl (congrFun h.live n)
  · intro _ saved hsaved
    rw [h.file] at hsaved
    cases hsaved

theorem Fresh.captured (h : m.Fresh hardware) : m.Captured hardware := by
  intro s hs
  rw [h.starts] at hs
  cases hs

end FanMachine

/-- All along any run of a machine before its first start, what the starts take for the
hardware minimums and save is not TurboMac's own exactly if each start that finds no file
is clear. -/
theorem captured_minimums_iff {hardware : ℕ → ℤ} {m m' : FanMachine} (hfresh : m.Fresh hardware)
    (events : List FanMachineEvent)
    (hrun : Interleaving.run (FanMachine.step hardware) m events = some m') :
    (∀ pre m₁, pre <+: events → Interleaving.run (FanMachine.step hardware) m pre = some m₁ →
        m₁.Captured hardware) ↔
      ∀ pre e m₁, pre ++ [e] <+: events →
        Interleaving.run (FanMachine.step hardware) m pre = some m₁ → e.Clear hardware m₁ := by
  apply Interleaving.always_iff
  · intro m₁ e m₂ hm hstep
    exact FanMachine.sound_step hm hstep
  · intro m₁ e m₂ hm hcaptured hstep
    exact FanMachine.captured_step_iff hm hcaptured hstep
  · exact hfresh.sound
  · exact hfresh.captured
  · exact hrun

/-! ## A floor below the slack -/

/-- Two fans with the known minimums. -/
def sampleMinimums (n : ℕ) : ℤ := if n = 1 then 2160 else 2000

def sampleFans : FanMachine := ⟨sampleMinimums, fun _ => [], none, none, []⟩

theorem fresh_sampleFans : sampleFans.Fresh sampleMinimums := by
  constructor
  · rfl
  · intro n
    rfl
  · rfl
  · rfl
  · rfl

/-- A power rule that asks for 2500 rpm. -/
def lowFloor : Settings := Function.update Settings.defaults .fanPowerFloorRpm (.num 2500)

theorem lowFloor_valid : lowFloor.Valid := by
  constructor
  · intro k
    cases k <;> decide +kernel
  · decide +kernel

def foundFans : List (ℕ × Fan) := [(1, ⟨"left", some 5927, none⟩), (2, ⟨"right", some 5489, none⟩)]

/-- The file cannot be saved, the floor is applied at 30 W, the daemon crashes, and the next
start saves the file. -/
def unsavedRun (cfg : FanConfig) : List FanMachineEvent :=
  [.start foundFans (fun _ => true) true false,
    .call (.tick 0 none (some 30) cfg 0 fun _ => ⟨none, none, none, some 2500⟩) fun _ => some 2500,
    .crash, .start foundFans (fun _ => true) true true]

/-- TurboMac's own 2500 rpm are taken for the hardware minimum of the first fan, and saved. -/
theorem captured_own_floor : sampleFans.Fresh sampleMinimums ∧ lowFloor.Valid ∧
    ∃ m, Interleaving.run (FanMachine.step sampleMinimums) sampleFans (unsavedRun lowFloor.fan) = some m ∧
      (∃ saved, m.file = some saved ∧ saved 1 = some 2500) ∧ ¬ m.Captured sampleMinimums := by
  have hrun : ((Interleaving.run (FanMachine.step sampleMinimums) sampleFans
      (unsavedRun lowFloor.fan)).any fun m =>
        (m.file.any fun saved => decide (saved 1 = some 2500)) &&
          m.starts.head?.any fun s => decide (s.defaults 1 = some 2500) && decide (2500 ∈ s.own 1)) =
      true := by decide +kernel
  rcases (Option.any_eq_true _ _).1 hrun with ⟨m, hm, hcheck⟩
  rw [Bool.and_eq_true] at hcheck
  rcases (Option.any_eq_true _ _).1 hcheck.1 with ⟨saved, hfile, hsaved⟩
  rcases (Option.any_eq_true _ _).1 hcheck.2 with ⟨s, hs, hstart⟩
  rw [Bool.and_eq_true, decide_eq_true_eq, decide_eq_true_eq] at hstart
  refine ⟨fresh_sampleFans, lowFloor_valid, m, hm, ⟨saved, hfile, of_decide_eq_true hsaved⟩, ?_⟩
  intro hcaptured
  have hclean := hcaptured s (List.mem_of_mem_head? hs)
  exact (hclean 1 (.inl rfl) 2500 hstart.2 (by decide)).1 hstart.1

/-- The same with the floor that is set by default. -/
theorem captured_minimums_unsavedRun :
    (∀ pre m, pre <+: unsavedRun Settings.defaults.fan →
        Interleaving.run (FanMachine.step sampleMinimums) sampleFans pre = some m →
        m.Captured sampleMinimums) ↔
      ∀ pre e m, pre ++ [e] <+: unsavedRun Settings.defaults.fan →
        Interleaving.run (FanMachine.step sampleMinimums) sampleFans pre = some m →
        e.Clear sampleMinimums m := by
  have hrun : (Interleaving.run (FanMachine.step sampleMinimums) sampleFans
      (unsavedRun Settings.defaults.fan)).isSome = true := by decide +kernel
  rcases Option.isSome_iff_exists.1 hrun with ⟨m, hm⟩
  exact captured_minimums_iff fresh_sampleFans (unsavedRun Settings.defaults.fan) hm

end TurboMac.Linux
