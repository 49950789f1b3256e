import Mathlib.Order.Defs.Unbundled
import TurboMac.Linux.Fans

/-! # What the fan controller writes

Every call serves the fans: it writes only what it may, and what it takes a
`fan{N}_min` to hold it has read there since it last wrote it.
-/

namespace TurboMac.Linux

/-- The last `fan{n}_min` read since it was last written. -/
def latestMin (n : ℕ) : List FanEvent → Option (Option ℤ)
  | [] => none
  | .readMin m value :: trace => if m = n then some value else latestMin n trace
  | .writeMin m _ :: trace => if m = n then none else latestMin n trace
  | _ :: trace => latestMin n trace

/-- No event of another fan's minimum. -/
def FanEvent.About (n : ℕ) : FanEvent → Prop
  | .readMin m _ | .writeMin m _ => m = n
  | _ => True

namespace FanController

/-- The fans with their maxima. -/
def maxima (c : FanController) : List (ℕ × Option ℤ) := c.fans.map fun item => (item.1, item.2.max)

/-- What is taken to be written has been read since, to the tolerance. -/
def Known (c : FanController) : Prop :=
  ∀ n v, c.written n = some v → ∃ r, latestMin n c.trace = some (some r) ∧ |r - v| ≤ readbackTolRpm

/-- What a call traces that starts in `c` and ends in `c'`. -/
def events (c c' : FanController) : List FanEvent := c'.trace.take (c'.trace.length - c.trace.length)

/-- The fans keep their defaults and maxima, and are only written what is allowed. -/
structure Serves (Allowed : ℕ → ℤ → Prop) (c c' : FanController) : Prop where
  defaults : c'.defaults = c.defaults
  maxima : c'.maxima = c.maxima
  trace : c'.trace = c.events c' ++ c.trace
  writes : ∀ n rpm, .writeMin n rpm ∈ c.events c' → Allowed n rpm
  known : c.Known → c'.Known

variable {Allowed : ℕ → ℤ → Prop} {c c' c'' : FanController}

theorem events_of_append {new : List FanEvent} (h : c'.trace = new ++ c.trace) : c.events c' = new := by
  rw [events, h, List.length_append, Nat.add_sub_cancel, List.take_left]

theorem events_trans (h : c'.trace = c.events c' ++ c.trace)
    (h' : c''.trace = c'.events c'' ++ c'.trace) : c.events c'' = c'.events c'' ++ c.events c' := by
  apply events_of_append
  rw [h', h, List.append_assoc, events_of_append h]

/-- Nothing but the trace and what the trace does not speak of. -/
theorem serves_of_trace (new : List FanEvent) (hdefaults : c'.defaults = c.defaults)
    (hmaxima : c'.maxima = c.maxima) (htrace : c'.trace = new ++ c.trace)
    (hwrites : ∀ n rpm, .writeMin n rpm ∈ new → Allowed n rpm) (hknown : c.Known → c'.Known) :
    Serves Allowed c c' := by
  have hevents := events_of_append htrace
  constructor
  · exact hdefaults
  · exact hmaxima
  · rw [hevents, htrace]
  · rw [hevents]
    exact hwrites
  · exact hknown

instance : IsPreorder FanController (Serves Allowed) where
  refl c := by
    refine serves_of_trace [] rfl rfl rfl ?_ ?_
    · intro n rpm h
      cases h
    · exact id
  trans c c' c'' h h' := by
    have hevents := events_trans h.trace h'.trace
    constructor
    · rw [h'.defaults, h.defaults]
    · rw [h'.maxima, h.maxima]
    · rw [hevents, h'.trace, h.trace, List.append_assoc, ← h.trace]
    · intro n rpm hmem
      rw [hevents, List.mem_append] at hmem
      rcases hmem with hmem | hmem
      · exact h'.writes n rpm hmem
      · exact h.writes n rpm hmem
    · intro hknown
      exact h'.known (h.known hknown)

/-- Fewer writes are allowed. -/
theorem Serves.mono {Allowed' : ℕ → ℤ → Prop} (h : Serves Allowed c c')
    (himp : ∀ n rpm, Allowed n rpm → Allowed' n rpm) : Serves Allowed' c c' :=
  ⟨h.defaults, h.maxima, h.trace, fun n rpm hmem => himp n rpm (h.writes n rpm hmem), h.known⟩

/-! ## One fan -/

section

variable {n : ℕ} {rpm r target maxRpm : ℤ} {fan : Fan} {now : ℚ} {answers : FanAnswers}

/-- A write either lands, as the readback says, or leaves a reading or none. -/
theorem write_cases (c : FanController) (n : ℕ) (fan : Fan) (rpm : ℤ) (answers : FanAnswers) :
    (∃ r, |r - rpm| ≤ readbackTolRpm ∧ c.write n fan rpm answers =
      (none, { c with trace := .readMin n (some r) :: .writeMin n rpm :: c.trace })) ∨
    ∃ error, c.write n fan rpm answers = (some error, { c with trace := .writeMin n rpm :: c.trace }) ∨
      c.write n fan rpm answers = (some error,
        { c with trace := .readMin n answers.readback :: .writeMin n rpm :: c.trace }) := by
  unfold write
  dsimp only
  cases answers.writeError with
  | some error => exact .inr ⟨_, .inl rfl⟩
  | none =>
      dsimp only
      cases hlanded : landed rpm fan.max answers.readback with
      | some error => exact .inr ⟨error, .inr rfl⟩
      | none =>
          unfold landed at hlanded
          split at hlanded
          · cases hlanded
          · rename_i got hgot
            split at hlanded
            · cases hlanded
            · rename_i htol
              refine .inl ⟨got, by omega, ?_⟩
              rw [hgot]
              rfl

theorem latestMin_append {new trace : List FanEvent} {m : ℕ} (habout : ∀ e ∈ new, e.About n)
    (hm : m ≠ n) : latestMin m (new ++ trace) = latestMin m trace := by
  induction new with
  | nil => rfl
  | cons e new ih =>
      have hrest := ih fun e he => habout e (List.mem_cons_of_mem _ he)
      have he : e.About n := habout e List.mem_cons_self
      cases e with
      | readMin k value =>
          have hk : ¬ k = m := fun h => hm (h ▸ he)
          rw [List.cons_append, latestMin, if_neg hk, hrest]
      | writeMin k rpm =>
          have hk : ¬ k = m := fun h => hm (h ▸ he)
          rw [List.cons_append, latestMin, if_neg hk, hrest]
      | floorError | floor | restored | mode => exact hrest

/-- Only the minimum of one fan is read and written. -/
theorem serves_touch {written : Option ℤ} (new : List FanEvent) (hdefaults : c'.defaults = c.defaults)
    (hmaxima : c'.maxima = c.maxima) (hwritten : c'.written = Function.update c.written n written)
    (htrace : c'.trace = new ++ c.trace) (habout : ∀ e ∈ new, e.About n)
    (hwrites : ∀ rpm, .writeMin n rpm ∈ new → Allowed n rpm)
    (hknown : ∀ v, written = some v →
      ∃ r, latestMin n c'.trace = some (some r) ∧ |r - v| ≤ readbackTolRpm) :
    Serves Allowed c c' := by
  refine serves_of_trace new hdefaults hmaxima htrace ?_ ?_
  · intro m rpm hmem
    have hm : m = n := habout _ hmem
    subst hm
    exact hwrites rpm hmem
  · intro hbefore m v hv
    rw [hwritten] at hv
    by_cases hm : m = n
    · subst hm
      rw [Function.update_self] at hv
      exact hknown v hv
    · rw [Function.update_of_ne hm] at hv
      rcases hbefore m v hv with ⟨r, hlatest, htol⟩
      refine ⟨r, ?_, htol⟩
      rw [htrace, latestMin_append habout hm, hlatest]

/-- `_clamp` stays between the default and the maximum, or at the default. -/
theorem clamp_bounds (lo : ℤ) (mx : Option ℤ) (target maxRpm : ℤ) :
    lo ≤ clamp lo mx target maxRpm ∧ clamp lo mx target maxRpm ≤ max lo (match mx with
      | some mx => min maxRpm mx
      | none => maxRpm) := by
  unfold clamp
  dsimp only
  split
  · exact ⟨le_refl lo, le_max_left _ _⟩
  · constructor
    · exact le_min (le_max_right _ _) (le_max_left _ _)
    · exact min_le_right _ _

end

/-! ## Calls -/

/-- The cap on a fan's floor. -/
def floorCap (maxRpm : ℤ) : Option ℤ → ℤ
  | some mx => min maxRpm mx
  | none => maxRpm

/-- What may be written under a configuration: the default, and in the mode `floor`
anything from there up to the cap. -/
def Allows (defaults : ℕ → Option ℤ) (maxima : List (ℕ × Option ℤ)) (cfg : Option FanConfig) (n : ℕ)
    (rpm : ℤ) : Prop :=
  ∃ d mx, defaults n = some d ∧ (n, mx) ∈ maxima ∧ d ≤ rpm ∧
    (rpm = d ∨ ∃ cfg' ∈ cfg, cfg'.mode = .floor ∧ rpm ≤ max d (floorCap cfg'.maxRpm mx))

/-- A fan with a default was read at it. -/
def ReadBack (n : ℕ) (d : ℤ) (events : List FanEvent) : Prop :=
  ∃ r, .readMin n (some r) ∈ events ∧ |r - d| ≤ readbackTolRpm

section

variable {defaults : ℕ → Option ℤ} {maxima : List (ℕ × Option ℤ)} {cfg : Option FanConfig}
  {config : FanConfig} {n : ℕ} {fan : Fan} {target : ℤ} {now clock : ℚ} {answers : ℕ → FanAnswers}

/-- Nothing is traced. -/
theorem serves_of_same (hdefaults : c'.defaults = c.defaults) (hmaxima : c'.maxima = c.maxima)
    (hwritten : c'.written = c.written) (htrace : c'.trace = c.trace) : Serves Allowed c c' := by
  refine serves_of_trace [] hdefaults hmaxima htrace ?_ ?_
  · intro m v hmem
    cases hmem
  · intro hknown m v hv
    rw [hwritten] at hv
    rw [htrace]
    exact hknown m v hv

/-- An event that says nothing of a minimum. -/
theorem serves_event {e : FanEvent} (hdefaults : c'.defaults = c.defaults)
    (hmaxima : c'.maxima = c.maxima) (hwritten : c'.written = c.written)
    (htrace : c'.trace = e :: c.trace) (hwrite : ∀ n rpm, e ≠ .writeMin n rpm)
    (hread : ∀ n value, e ≠ .readMin n value) : Serves Allowed c c' := by
  refine serves_of_trace [e] hdefaults hmaxima htrace ?_ ?_
  · intro m v hmem
    exact absurd (List.mem_singleton.1 hmem).symm (hwrite m v)
  · intro hknown m v hv
    rw [hwritten] at hv
    rcases hknown m v hv with ⟨r, hlatest, htol⟩
    refine ⟨r, ?_, htol⟩
    rw [htrace]
    cases e with
    | readMin n value => exact absurd rfl (hread n value)
    | writeMin n rpm => exact absurd rfl (hwrite n rpm)
    | floorError | floor | restored | mode => exact hlatest

theorem serves_applyFan (hdefaults : c.defaults = defaults) (hfan : (n, fan.max) ∈ maxima)
    (hmode : config.mode = .floor) (answers : FanAnswers) :
    Serves (Allows defaults maxima (some config)) c
      (c.applyFan n fan target config.maxRpm now answers).2 := by
  unfold applyFan
  split
  · exact refl_of _ c
  · rename_i lo hlo
    dsimp only
    split
    · exact refl_of _ c
    · have hbounds := clamp_bounds lo fan.max target config.maxRpm
      have hallowed : Allows defaults maxima (some config) n
          (clamp lo fan.max target config.maxRpm) := by
        refine ⟨lo, fan.max, hdefaults ▸ hlo, hfan, hbounds.1, .inr ⟨config, rfl, hmode, ?_⟩⟩
        rw [floorCap.eq_def]
        exact hbounds.2
      generalize clamp lo fan.max target config.maxRpm = want at hallowed ⊢
      rcases write_cases c n fan want answers with ⟨r, htol, heq⟩ | ⟨error, heq | heq⟩
      · -- the write reads back
        rw [heq]
        refine serves_touch [.readMin n (some r), .writeMin n want] rfl rfl rfl rfl ?_ ?_ ?_
        · simp [FanEvent.About]
        · simpa using hallowed
        · intro v hv
          cases hv
          exact ⟨r, if_pos rfl, htol⟩
      · -- the write fails
        rw [heq]
        refine serves_touch [.floorError n want error, .writeMin n want] rfl rfl rfl rfl ?_ ?_ ?_
        · simp [FanEvent.About]
        · simpa using hallowed
        · intro v hv
          cases hv
      · -- it reads back as something else
        rw [heq]
        refine serves_touch [.floorError n want error, .readMin n answers.readback, .writeMin n want]
          rfl rfl rfl rfl ?_ ?_ ?_
        · simp [FanEvent.About]
        · simpa using hallowed
        · intro v hv
          cases hv

theorem serves_applyFans (hmode : config.mode = .floor) (fans : List (ℕ × Fan)) (changed : Bool)
    (c : FanController) (hdefaults : c.defaults = defaults)
    (hfans : ∀ item ∈ fans, (item.1, item.2.max) ∈ maxima) :
    Serves (Allows defaults maxima (some config)) c
      (applyFans target config.maxRpm now answers fans changed c).2 := by
  induction fans generalizing changed c with
  | nil => exact refl_of _ c
  | cons item fans ih =>
      rcases item with ⟨n, fan⟩
      have hone : Serves (Allows defaults maxima (some config)) c
          (c.applyFan n fan target config.maxRpm now (answers n)).2 :=
        serves_applyFan hdefaults (hfans (n, fan) List.mem_cons_self) hmode (answers n)
      refine trans_of _ hone (ih _ _ (hone.defaults.trans hdefaults) ?_)
      intro item hitem
      exact hfans item (List.mem_cons_of_mem _ hitem)

theorem mem_maxima {item : ℕ × Fan} (h : item ∈ c.fans) : (item.1, item.2.max) ∈ c.maxima :=
  List.mem_map.2 ⟨item, h, rfl⟩

theorem serves_apply (hmode : config.mode = .floor) :
    Serves (Allows c.defaults c.maxima (some config)) c
      (c.apply target config.maxRpm clock answers) := by
  have hfans : Serves (Allows c.defaults c.maxima (some config)) c
      (applyFans target config.maxRpm clock answers c.fans false c).2 :=
    serves_applyFans hmode c.fans false c rfl fun item hitem => mem_maxima hitem
  unfold apply
  generalize applyFans target config.maxRpm clock answers c.fans false c = x at hfans ⊢
  rcases x with ⟨changed, c'⟩
  dsimp only at hfans ⊢
  split
  · apply trans_of _ hfans
    refine @serves_event _ _ _ (.floor target) rfl rfl rfl rfl ?_ ?_
    · intro n rpm h
      cases h
    · intro n value h
      cases h
  · exact hfans

/-- A fan is restored to its default, if it has one, and read there. -/
theorem serves_restoreFan (hdefaults : c.defaults = defaults) (hfan : (n, fan.max) ∈ maxima)
    (answers : FanAnswers) :
    Serves (Allows defaults maxima cfg) c (c.restoreFan n fan answers).2.2 ∧
      ((c.restoreFan n fan answers).2.1 = true → ∀ d, defaults n = some d →
        ReadBack n d (c.events (c.restoreFan n fan answers).2.2)) := by
  subst hdefaults
  unfold restoreFan
  split
  · -- no default is known, so nothing is written
    rename_i hnone
    refine ⟨refl_of _ c, ?_⟩
    intro _ d hd
    rw [hnone] at hd
    cases hd
  · rename_i d hd
    have hallowed : Allows c.defaults maxima cfg n d := ⟨d, fan.max, hd, hfan, le_refl d, .inl rfl⟩
    have htol : |d - d| ≤ readbackTolRpm := by
      rw [sub_self]
      decide
    dsimp only
    split
    · -- at its minimum already
      rename_i hmin
      rw [hmin]
      constructor
      · refine serves_touch [.readMin n (some d)] rfl rfl rfl rfl ?_ ?_ ?_
        · simp [FanEvent.About]
        · simp
        · intro v hv
          cases hv
          exact ⟨d, if_pos rfl, htol⟩
      · intro _ d' hd'
        cases hd.symm.trans hd'
        rw [@events_of_append c _ [.readMin n (some d)] rfl]
        exact ⟨d, List.mem_singleton_self _, htol⟩
    · rcases write_cases (c.emit (.readMin n answers.min)) n fan d answers with
        ⟨r, hr, heq⟩ | ⟨error, heq | heq⟩
      · -- the write reads back
        rw [heq]
        constructor
        · refine serves_touch
            [.readMin n (some r), .writeMin n d, .readMin n answers.min] rfl rfl rfl rfl ?_ ?_ ?_
          · simp [FanEvent.About]
          · simpa using hallowed
          · intro v hv
            cases hv
            exact ⟨r, if_pos rfl, hr⟩
        · intro _ d' hd'
          cases hd.symm.trans hd'
          rw [@events_of_append c _ [.readMin n (some r), .writeMin n d, .readMin n answers.min] rfl]
          exact ⟨r, List.mem_cons_self, hr⟩
      · -- the write itself fails
        rw [heq]
        constructor
        · refine serves_touch
            [.floorError n d error, .writeMin n d, .readMin n answers.min] rfl rfl rfl rfl ?_ ?_ ?_
          · simp [FanEvent.About]
          · simpa using hallowed
          · intro v hv
            cases hv
        · intro hfine
          cases hfine
      · -- it reads back as something else
        rw [heq]
        constructor
        · refine serves_touch [.floorError n d error, .readMin n answers.readback, .writeMin n d,
            .readMin n answers.min] rfl rfl rfl rfl ?_ ?_ ?_
          · simp [FanEvent.About]
          · simpa using hallowed
          · intro v hv
            cases hv
        · intro hfine
          cases hfine

theorem serves_restoreFans (fans : List (ℕ × Fan)) (restored ok : Bool) (c : FanController)
    (hdefaults : c.defaults = defaults) (hfans : ∀ item ∈ fans, (item.1, item.2.max) ∈ maxima) :
    Serves (Allows defaults maxima cfg) c (restoreFans answers fans restored ok c).2.2 ∧
      ((restoreFans answers fans restored ok c).2.1 = true → ok = true ∧
        ∀ item ∈ fans, ∀ d, defaults item.1 = some d →
          ReadBack item.1 d (c.events (restoreFans answers fans restored ok c).2.2)) := by
  induction fans generalizing restored ok c with
  | nil =>
      refine ⟨refl_of _ c, ?_⟩
      intro hok
      refine ⟨hok, ?_⟩
      intro item hitem
      cases hitem
  | cons item fans ih =>
      rcases item with ⟨n, fan⟩
      -- this fan, then the others
      have hone : Serves (Allows defaults maxima cfg) c (c.restoreFan n fan (answers n)).2.2 ∧ _ :=
        serves_restoreFan hdefaults (hfans (n, fan) List.mem_cons_self) (answers n)
      have hrest := ih (restored || (c.restoreFan n fan (answers n)).1)
        (ok && (c.restoreFan n fan (answers n)).2.1) (c.restoreFan n fan (answers n)).2.2
        (hone.1.defaults.trans hdefaults) fun item hitem => hfans item (List.mem_cons_of_mem _ hitem)
      have hevents := events_trans hone.1.trace hrest.1.trace
      refine ⟨trans_of _ hone.1 hrest.1, ?_⟩
      intro hok
      rcases hrest.2 hok with ⟨hboth, hread⟩
      rw [Bool.and_eq_true] at hboth
      refine ⟨hboth.1, ?_⟩
      intro item hitem d hd
      rw [restoreFans, hevents]
      rcases List.mem_cons.1 hitem with rfl | hitem
      · rcases hone.2 hboth.2 d hd with ⟨r, hmem, htol⟩
        exact ⟨r, List.mem_append_right _ hmem, htol⟩
      · rcases hread item hitem d hd with ⟨r, hmem, htol⟩
        exact ⟨r, List.mem_append_left _ hmem, htol⟩

/-- `restore` writes the defaults; if it returns true every fan was read at its own. -/
theorem serves_restore (c : FanController) (cfg : Option FanConfig) (clock : ℚ)
    (answers : ℕ → FanAnswers) :
    Serves (Allows c.defaults c.maxima cfg) c (c.restore clock answers).2 ∧
      ((c.restore clock answers).1 = true → ∀ item ∈ c.fans, ∀ d, c.defaults item.1 = some d →
        ReadBack item.1 d (c.events (c.restore clock answers).2)) := by
  have hstart : Serves (Allows c.defaults c.maxima cfg) c { c with state := {}, targetRpm := 0 } :=
    serves_of_same rfl rfl rfl rfl
  have hfans : Serves (Allows c.defaults c.maxima cfg) _ _ ∧ _ :=
    @serves_restoreFans c.defaults c.maxima cfg answers c.fans false true
      { c with state := {}, targetRpm := 0 } rfl fun item hitem => mem_maxima hitem
  unfold restore
  dsimp only
  generalize restoreFans answers c.fans false true { c with state := {}, targetRpm := 0 } = x
    at hfans ⊢
  rcases x with ⟨restored, ok, c'⟩
  dsimp only at hfans ⊢
  have hrestored : Serves (Allows c.defaults c.maxima cfg) c'
      (if restored then { c' with lastChange := some clock, trace := .restored :: c'.trace } else c') := by
    split
    · refine @serves_event _ _ _ .restored rfl rfl rfl rfl ?_ ?_
      · intro n rpm h
        cases h
      · intro n value h
        cases h
    · exact refl_of _ c'
  have hall := trans_of _ (trans_of _ hstart hfans.1) hrestored
  refine ⟨hall, ?_⟩
  intro hok item hitem d hd
  rcases (hfans.2 hok).2 item hitem d hd with ⟨r, hmem, htol⟩
  refine ⟨r, ?_, htol⟩
  rw [events_trans (trans_of _ hstart hfans.1).trace hrestored.trace,
    events_trans hstart.trace hfans.1.trace]
  exact List.mem_append_right _ (List.mem_append_left _ hmem)

theorem serves_setMode (c : FanController) (cfg : Option FanConfig) (mode : FanMode) (clock : ℚ)
    (answers : ℕ → FanAnswers) :
    Serves (Allows c.defaults c.maxima cfg) c (c.setMode mode clock answers) := by
  have hmode : Serves (Allows c.defaults c.maxima cfg) c
      { c with mode := some mode, state := {}, trace := .mode mode :: c.trace } := by
    refine @serves_event _ _ _ (.mode mode) rfl rfl rfl rfl ?_ ?_
    · intro n rpm h
      cases h
    · intro n value h
      cases h
  unfold setMode
  cases mode with
  | auto =>
      have hrestore := (serves_restore
        { c with mode := some .auto, state := {}, trace := .mode .auto :: c.trace } cfg clock answers).1
      refine trans_of _ (trans_of _ hmode hrestore) ?_
      exact serves_of_same rfl rfl rfl rfl
  | floor => exact hmode

/-- The speeds are read again. -/
theorem serves_speeds (speed : ℕ → Option ℤ) : Serves Allowed c
    { c with fans := c.fans.map fun item => (item.1, { item.2 with rpm := speed item.1 }) } := by
  refine serves_of_same rfl ?_ rfl rfl
  rw [maxima, maxima, List.map_map]
  rfl

theorem serves_tick (c : FanController) (now : ℚ) (tempC pkgW : Option ℚ) (cfg : FanConfig)
    (clock : ℚ) (answers : ℕ → FanAnswers) :
    Serves (Allows c.defaults c.maxima (some cfg)) c (c.tick now tempC pkgW cfg clock answers) := by
  have hmode : Serves (Allows c.defaults c.maxima (some cfg)) c
      (if some cfg.mode ≠ c.mode then c.setMode cfg.mode clock answers else c) := by
    split
    · exact serves_setMode c (some cfg) cfg.mode clock answers
    · exact refl_of _ c
  unfold tick
  generalize (if some cfg.mode ≠ c.mode then c.setMode cfg.mode clock answers else c) = c₁ at hmode ⊢
  have hspeeds := trans_of _ hmode (serves_speeds fun n => (answers n).rpm)
  dsimp only
  split
  · refine trans_of _ hspeeds ?_
    exact serves_of_same rfl rfl rfl rfl
  · split
    · exact hspeeds
    · rename_i hfloor
      refine trans_of _ hspeeds ?_
      generalize decideFloor c₁.state tempC pkgW cfg now = decision
      rcases decision with ⟨state, target, reason⟩
      dsimp only
      refine trans_of _ ?_ ((serves_apply hfloor).mono ?_)
      · exact serves_of_same rfl rfl rfl rfl
      · intro n rpm hallows
        rw [← hspeeds.defaults, ← hspeeds.maxima]
        exact hallows

end

end FanController

/-! ## Runs -/

/-- A call, with the wall clock and what AppleSMC answers. -/
inductive FanCall where
  | start (cfg : FanConfig) (clock : ℚ) (answers : ℕ → FanAnswers)
  | tick (now : ℚ) (tempC pkgW : Option ℚ) (cfg : FanConfig) (clock : ℚ) (answers : ℕ → FanAnswers)
  | onConfig (cfg : FanConfig) (clock : ℚ) (answers : ℕ → FanAnswers)
  | restore (clock : ℚ) (answers : ℕ → FanAnswers)

namespace FanCall

def config : FanCall → Option FanConfig
  | .start cfg _ _ | .tick _ _ _ cfg _ _ | .onConfig cfg _ _ => some cfg
  | .restore _ _ => none

def after (call : FanCall) (c : FanController) : FanController :=
  match call with
  | .start cfg clock answers => c.start cfg clock answers
  | .tick now tempC pkgW cfg clock answers => c.tick now tempC pkgW cfg clock answers
  | .onConfig cfg clock answers => c.onConfig cfg clock answers
  | .restore clock answers => (c.restore clock answers).2

/-- The reads and writes of a call, newest first. -/
def events (call : FanCall) (c : FanController) : List FanEvent := c.events (call.after c)

theorem serves_after (call : FanCall) (c : FanController) :
    FanController.Serves (FanController.Allows c.defaults c.maxima call.config) c (call.after c) := by
  cases call with
  | start cfg clock answers =>
      unfold after FanController.start
      dsimp only
      have hmode : FanController.Serves (FanController.Allows c.defaults c.maxima (some cfg)) c
          { c with mode := some cfg.mode } := FanController.serves_of_same rfl rfl rfl rfl
      split
      · exact FanController.serves_of_same rfl rfl rfl rfl
      · split
        · have hrestore := (FanController.serves_restore { c with mode := some cfg.mode } (some cfg)
            clock answers).1
          refine trans_of _ (trans_of _ hmode hrestore) ?_
          exact FanController.serves_of_same rfl rfl rfl rfl
        · exact FanController.serves_of_same rfl rfl rfl rfl
  | tick now tempC pkgW cfg clock answers =>
      exact FanController.serves_tick c now tempC pkgW cfg clock answers
  | onConfig cfg clock answers =>
      unfold after FanController.onConfig
      dsimp only
      split
      · exact FanController.serves_setMode c (some cfg) .auto clock answers
      · exact refl_of _ c
  | restore clock answers => exact (FanController.serves_restore c none clock answers).1

/-- The controller after some calls, the first of them first. -/
def run (calls : List FanCall) (c : FanController) : FanController :=
  calls.foldl (fun c call => call.after c) c

theorem serves_run (calls : List FanCall) (c : FanController) :
    FanController.Serves (fun _ _ => True) c (run calls c) := by
  induction calls generalizing c with
  | nil => exact refl_of _ c
  | cons call calls ih =>
      have hone := (call.serves_after c).mono fun _ _ _ => trivial
      exact trans_of _ hone (ih (call.after c))

end FanCall

/-- The live minimums have just been read. -/
theorem known_discovered (fans : List (ℕ × Fan)) (live : ℕ → Option ℤ)
    (file : Option (ℕ → Option ℤ)) : (FanController.discovered fans live file).Known := by
  intro n v hwritten
  have hv : live n = some v ∧ ∃ item ∈ fans, item.1 = n := by
    simpa [FanController.discovered, FanController.ofFans, and_comm] using hwritten
  rcases hv with ⟨hlive, hfan⟩
  -- the discovery reads the same value of a fan every time
  have hlatest : ∀ trace : List FanEvent, (∀ e ∈ trace, ∃ m, e = .readMin m (live m)) →
      (∃ e ∈ trace, e = .readMin n (live n)) → latestMin n trace = some (live n) := by
    intro trace hall hmem
    induction trace with
    | nil =>
        rcases hmem with ⟨e, he, -⟩
        cases he
    | cons e trace ih =>
        rcases hall e List.mem_cons_self with ⟨m, rfl⟩
        by_cases hm : m = n
        · subst hm
          rw [latestMin, if_pos rfl]
        · rw [latestMin, if_neg hm]
          apply ih
          · intro e he
            exact hall e (List.mem_cons_of_mem _ he)
          · rcases hmem with ⟨e, he, rfl⟩
            rcases List.mem_cons.1 he with he | he
            · cases he
              exact absurd rfl hm
            · exact ⟨_, he, rfl⟩
  refine ⟨v, ?_, ?_⟩
  · rw [← hlive]
    apply hlatest
    · intro e he
      simp only [FanController.discovered, List.mem_reverse, List.mem_map] at he
      rcases he with ⟨item, -, rfl⟩
      exact ⟨item.1, rfl⟩
    · rcases hfan with ⟨item, hitem, rfl⟩
      refine ⟨_, ?_, rfl⟩
      simp only [FanController.discovered, List.mem_reverse, List.mem_map]
      exact ⟨item, hitem, rfl⟩
  · rw [sub_self]
    decide

/-- After any calls, of any further call: a fan is only written if it has a default
`d`, and then a value in `[d, max(d, min(max_rpm, fan max))]`; under `auto` it is `d`;
what is taken to be written has been read back since, before the call and after it;
and a `restore` that returns true has read every fan at its default. -/
theorem fan_floor_safe (fans : List (ℕ × Fan)) (live : ℕ → Option ℤ) (file : Option (ℕ → Option ℤ))
    (calls : List FanCall) (call : FanCall) :
    let found := FanController.discovered fans live file
    let c := FanCall.run calls found
    (∀ n rpm, .writeMin n rpm ∈ call.events c →
      ∃ d mx, found.defaults n = some d ∧ (n, mx) ∈ found.maxima ∧ d ≤ rpm ∧
        (rpm = d ∨ ∃ cfg ∈ call.config, rpm ≤ max d (FanController.floorCap cfg.maxRpm mx))) ∧
    (∀ n rpm, .writeMin n rpm ∈ call.events c → ∀ cfg ∈ call.config, cfg.mode = .auto →
      found.defaults n = some rpm) ∧
    c.Known ∧ (call.after c).Known ∧
    ∀ clock answers, (c.restore clock answers).1 = true → ∀ n mx d, (n, mx) ∈ found.maxima →
      found.defaults n = some d →
      FanController.ReadBack n d ((FanCall.restore clock answers).events c) := by
  intro found c
  -- the earlier calls keep defaults and maxima, and what is known of the fans
  have hrun : FanController.Serves (fun _ _ => True) found c := FanCall.serves_run calls found
  have hknown : c.Known := hrun.known (known_discovered fans live file)
  have hserves := call.serves_after c
  rw [← hrun.defaults, ← hrun.maxima]
  refine ⟨?_, ?_, hknown, hserves.known hknown, ?_⟩
  · intro n rpm hmem
    rcases hserves.writes n rpm hmem with ⟨d, mx, hd, hmx, hle, hrpm⟩
    refine ⟨d, mx, hd, hmx, hle, ?_⟩
    rcases hrpm with hrpm | ⟨cfg, hcfg, -, hcap⟩
    · exact .inl hrpm
    · exact .inr ⟨cfg, hcfg, hcap⟩
  · intro n rpm hmem cfg hcfg hauto
    rcases hserves.writes n rpm hmem with ⟨d, mx, hd, -, -, hrpm⟩
    rcases hrpm with rfl | ⟨cfg', hcfg', hfloor, -⟩
    · exact hd
    · cases Option.mem_unique hcfg hcfg'
      rw [hauto] at hfloor
      cases hfloor
  · intro clock answers hok n mx d hmx hd
    rcases List.mem_map.1 hmx with ⟨item, hitem, heq⟩
    cases heq
    exact (FanController.serves_restore c none clock answers).2 hok item hitem d hd

end TurboMac.Linux
