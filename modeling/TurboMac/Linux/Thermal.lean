import TurboMac.Linux.Emergency

/-! # The thermal trim (rule 8)

The effective ceiling steps down while the package is hot, from
`min(effective ceiling, PL1)`, and not below the floor. `thermal` only trims what
is above the floor: with PL1 at the floor and the ceiling above it, nothing is
trimmed and rule 4 may still recover. `thermal_trim_iff` says so exactly.
-/

namespace TurboMac.Linux

/-- The ceiling rules 3 and 4 work under: the thermal cap, or the top. -/
def GovState.effectiveCeiling (s : GovState) (top : ℚ) : ℚ := s.thermalCapW.getD top

namespace Step

variable {w w' u : Step} {sample : Sample} {tempC : Reading} {floor ceiling : ℚ} {d : Decision}

/-! ## What the thermal rule does -/

/-- A temperature to trim on, with something to trim above the floor. -/
def TrimDue (w : Step) (tempC : Reading) (floor ceiling : ℚ) : Prop :=
  ∃ trimC temp, w.g.thermalTrimC = some trimC ∧ tempC.num? = some temp ∧
    Elapsed w.now w.s.lastThermal w.g.thermalIntervalS ∧ trimC ≤ temp ∧
    floor < w.thermalStart (w.thermalHeld floor ceiling)

/-- A temperature to recover on, with a cap below the ceiling. -/
def RecoverDue (w : Step) (tempC : Reading) (floor ceiling : ℚ) : Prop :=
  ∃ trimC temp, w.g.thermalTrimC = some trimC ∧ tempC.num? = some temp ∧
    Elapsed w.now w.s.lastThermal w.g.thermalIntervalS ∧ temp < trimC ∧
    temp < w.g.thermalRecoverC ∧ w.thermalHeld floor ceiling < ceiling

/-- The effective ceiling of a step: trimmed, recovered or held. -/
theorem thermal_cases (w : Step) (tempC : Reading) (floor ceiling : ℚ) :
    (w.TrimDue tempC floor ceiling ∧ (w.thermal tempC floor ceiling).1 =
      max floor (w.thermalStart (w.thermalHeld floor ceiling) - w.g.thermalStepW)) ∨
    (¬ w.TrimDue tempC floor ceiling ∧ w.RecoverDue tempC floor ceiling ∧
      (w.thermal tempC floor ceiling).1 =
        min ceiling (w.thermalHeld floor ceiling + w.g.thermalStepW)) ∨
    (¬ w.TrimDue tempC floor ceiling ∧ ¬ w.RecoverDue tempC floor ceiling ∧
      (w.thermal tempC floor ceiling).1 = w.thermalHeld floor ceiling) := by
  unfold thermal TrimDue RecoverDue
  dsimp only
  split
  · -- a trim temperature is set and a temperature read
    rename_i trimC temp htrim htemp
    simp only [htrim, htemp, Option.some.injEq, exists_and_left, exists_eq_left']
    split_ifs with hdue hhot hfloor hcool
    · left
      exact ⟨⟨hdue, hhot, hfloor⟩, rfl⟩
    · right; right
      refine ⟨?_, ?_, rfl⟩
      · rintro ⟨-, -, h⟩
        exact hfloor h
      · rintro ⟨-, h, -⟩
        exact absurd hhot (not_le.2 h)
    · right; left
      refine ⟨?_, ⟨hdue, not_le.1 hhot, hcool⟩, rfl⟩
      rintro ⟨-, h, -⟩
      exact hhot h
    · right; right
      refine ⟨?_, ?_, rfl⟩
      · rintro ⟨-, h, -⟩
        exact hhot h
      · rintro ⟨-, -, h⟩
        exact hcool h
    · right; right
      refine ⟨?_, ?_, rfl⟩
      all_goals
        rintro ⟨h, -⟩
        exact hdue h
  · rename_i hnone
    right; right
    refine ⟨?_, ?_, rfl⟩
    all_goals
      rintro ⟨trimC, temp, htrim, htemp, -⟩
      exact hnone trimC temp htrim htemp

theorem thermal_stored (w : Step) (tempC : Reading) (floor ceiling : ℚ) :
    (w.thermal tempC floor ceiling).2.s.thermalCapW =
      if (w.thermal tempC floor ceiling).1 < ceiling then
        some (w.thermal tempC floor ceiling).1
      else none := rfl

theorem control_thermalCapW (w : Step) (sample : Sample) (force : Bool) :
    (w.control sample force).s.thermalCapW =
      if (w.thermal sample.pkgC w.floor w.top).1 < w.top then
        some (w.thermal sample.pkgC w.floor w.top).1
      else none := by
  have hd := decision_outcome (w := (w.thermal sample.pkgC w.floor w.top).2) sample
    (w.thermal sample.pkgC w.floor w.top).1
  rw [control_eq, (settle_stamps _ _).2.2.2.2.1, hd.stamps.2.2.2.2.2.1, thermal_stored]

/-! ## Control, from the start of the step -/

/-- `u` is `w` once the readback and the retry have been noted. -/
structure Noted (w u : Step) : Prop extends Same w u where
  thermalCapW : u.s.thermalCapW = w.s.thermalCapW
  lastThermal : u.s.lastThermal = w.s.lastThermal

theorem noted_refl (w : Step) : Noted w w := ⟨same_refl w, rfl, rfl⟩

theorem noted_readbackOk (w : Step) : Noted w w.readbackOk := by
  refine ⟨same_readbackOk w, ?_, ?_⟩ <;> unfold readbackOk <;> split <;> rfl

theorem Noted.retried (h : Noted w u) (reason : Option FallbackReason) :
    Noted w (({ u with s.retryAt := none } : Step).event (.retry reason)) :=
  ⟨h.toSame.retried reason, h.thermalCapW, h.lastThermal⟩

theorem fallback_thermalCapW (w : Step) (reason : FallbackReason) (static : ℚ) :
    (w.fallback reason static).s.thermalCapW = w.s.thermalCapW := by
  unfold fallback
  dsimp only
  split <;> simp [clearBelow]

/-- A dynamic step that is not under control of the rules. -/
structure Fallen (w : Step) (sample : Sample) (w' : Step) : Prop where
  cause : w.Stale ∨ w.s.state = .fallback ∨ ∃ rb, sample.Failed rb
  state : w'.s.state = .fallback
  thermalCapW : w'.s.thermalCapW = w.s.thermalCapW

/-- A dynamic step that runs the rules, on the working copy `u`. -/
structure Controlled (w : Step) (sample : Sample) (u w' : Step) : Prop where
  noted : Noted w u
  fresh : ¬ w.Stale
  readback : ∀ rb, ¬ sample.Failed rb
  control : ∃ force, w' = u.control sample force

theorem govern_dynamic (hmode : w.g.mode = .dynamic) (hrb : ∀ rb, ¬ sample.Failed rb)
    (h : Noted w u) (force retried : Bool) :
    Fallen w sample (u.govern sample force retried) ∨
      Controlled w sample u (u.govern sample force retried) := by
  have hdynamic : u.g.mode ≠ .static := by simp [h.g, hmode]
  unfold govern
  rw [if_neg hdynamic]
  split_ifs with hstale
  · left
    refine ⟨Or.inl (h.stale.1 hstale), (u.runStale_spec retried).1, ?_⟩
    rw [← h.thermalCapW]
    unfold runStale
    dsimp only
    split <;> simp [fallback_thermalCapW]
  · right
    exact ⟨h, fun hs => hstale (h.stale.2 hs), hrb, force, rfl⟩

theorem retry_dynamic (hmode : w.g.mode = .dynamic) (hrb : ∀ rb, ¬ sample.Failed rb)
    (h : Noted w u) (force : Bool) :
    Fallen w sample (u.retry sample force) ∨
      ∃ v, Controlled w sample v (u.retry sample force) := by
  have hgovern {v : Step} (hv : Noted w v) (retried : Bool) :
      Fallen w sample (v.govern sample force retried) ∨
        ∃ v', Controlled w sample v' (v.govern sample force retried) :=
    (govern_dynamic hmode hrb hv force retried).imp id fun hcontrol => ⟨v, hcontrol⟩
  unfold retry
  split
  · split_ifs with hstate hnow
    · -- FALLBACK waits for its backoff
      left
      rcases u.wait_spec sample with ⟨hwait, -⟩
      refine ⟨Or.inr (Or.inl (h.state.symm.trans hstate)), hwait.trans hstate, ?_⟩
      rw [← h.thermalCapW]
      unfold wait
      split
      · dsimp only
        split <;> simp
      · rfl
    · exact hgovern (h.retried u.s.fallbackReason) true
    · exact hgovern h false
  · exact hgovern h false

/-- Inversion of a dynamic step: it ends in FALLBACK with the thermal cap kept,
or it runs the rules. -/
theorem run_dynamic (w : Step) (sample : Sample) (hmode : w.g.mode = .dynamic) :
    Fallen w sample (w.run sample) ∨ ∃ u, Controlled w sample u (w.run sample) := by
  unfold run
  rw [hmode, if_neg (by decide)]
  dsimp only
  split
  · rename_i rb hreadback
    split_ifs with hok
    · refine retry_dynamic hmode ?_ (noted_readbackOk w) _
      rintro rb' ⟨hsome, hfail⟩
      cases hreadback.symm.trans hsome
      simp [hok] at hfail
    · left
      refine ⟨Or.inr (Or.inr ⟨rb, hreadback, by simpa using hok⟩),
        (w.readbackFailed_spec rb).1, ?_⟩
      unfold readbackFailed
      dsimp only
      split <;> simp [fallback_thermalCapW]
  · rename_i hreadback
    refine retry_dynamic hmode ?_ (noted_refl w) _
    rintro rb ⟨hsome, -⟩
    simp [hreadback] at hsome

/-! ## A hot step under control -/

/-- What the thermal rule stores is a cap between the floor and the top. -/
theorem control_cap_bounds (w : Step) (sample : Sample) (force : Bool) (hg : w.g.Validated) :
    ∀ cap ∈ (w.control sample force).s.thermalCapW, w.floor ≤ cap ∧ cap ≤ w.top := by
  intro cap hcap
  have hbounds := thermal_interval w sample hg.thermalStepW_pos.le
  rw [control_thermalCapW] at hcap
  split at hcap
  · rename_i hlt
    cases hcap
    refine ⟨?_, hlt.le⟩
    rcases min_le_iff.1 hbounds.1 with hfloor | htop
    · exact hfloor
    · exact absurd hlt (not_lt.2 htop)
  · cases hcap

theorem control_effectiveCeiling (w : Step) (sample : Sample) (force : Bool)
    (hg : w.g.Validated) :
    (w.control sample force).s.effectiveCeiling w.top =
      (w.thermal sample.pkgC w.floor w.top).1 := by
  have hbounds := thermal_interval w sample hg.thermalStepW_pos.le
  rw [GovState.effectiveCeiling, control_thermalCapW]
  split
  · rfl
  · rename_i htop
    exact le_antisymm (not_lt.1 htop) hbounds.2

/-- The cap in force before a step is the effective ceiling after the last. -/
theorem thermalHeld_eq (w : Step) {trimC : ℚ} (htrim : w.g.thermalTrimC = some trimC)
    (hcap : ∀ cap ∈ w.s.thermalCapW, w.floor ≤ cap ∧ cap ≤ w.top) :
    w.thermalHeld w.floor w.top = w.s.effectiveCeiling w.top := by
  unfold thermalHeld GovState.effectiveCeiling
  cases h : w.s.thermalCapW with
  | none => simp
  | some cap =>
      rcases hcap cap h with ⟨hfloor, htop⟩
      simp [htrim, max_eq_left hfloor, min_eq_left htop]

/-- Under a ceiling that PL1 is not below, PL1 does not rise. -/
theorem control_le {pl1 : ℚ} (w : Step) (sample : Sample) (force : Bool) (hg : w.g.Validated)
    (hfloor : w.cap1 w.floor ≤ pl1)
    (hceiling : w.cap1 (w.thermal sample.pkgC w.floor w.top).1 ≤ pl1) :
    ∃ pl1', (w.control sample force).s.pl1W = some pl1' ∧ pl1' ≤ pl1 := by
  rcases control_spec w sample force with ⟨v, d, hv, hd, hsettled⟩
  refine ⟨_, hsettled.pl1W, ?_⟩
  have hle := hd.le_ceiling (hv.g.symm ▸ hg.cutStepW_pos.le)
  rw [hv.floor] at hle
  rcases le_max_iff.1 hle with h | h
  · exact (w.cap1_mono h).trans hfloor
  · exact (w.cap1_mono h).trans hceiling

/-- When a hot step trims. -/
theorem trimDue_iff {trimC temp pl1 : ℚ} (w : Step) (htrim : w.g.thermalTrimC = some trimC)
    {tempC : Reading} (htemp : tempC.num? = some temp) (hhot : trimC ≤ temp)
    (hdue : Elapsed w.now w.s.lastThermal w.g.thermalIntervalS) (hpl1 : w.s.pl1W = some pl1)
    (hcap : ∀ cap ∈ w.s.thermalCapW, w.floor ≤ cap ∧ cap ≤ w.top) :
    w.thermalStart (w.thermalHeld w.floor w.top) = min (w.s.effectiveCeiling w.top) pl1 ∧
      (w.TrimDue tempC w.floor w.top ↔ w.floor < min (w.s.effectiveCeiling w.top) pl1) := by
  have hstart : w.thermalStart (w.thermalHeld w.floor w.top) =
      min (w.s.effectiveCeiling w.top) pl1 := by
    simp [thermalStart, hpl1, w.thermalHeld_eq htrim hcap]
  refine ⟨hstart, ?_⟩
  unfold TrimDue
  rw [hstart]
  simp [htrim, htemp, hdue, hhot]

/-- A hot step lowers the effective ceiling as it should exactly when there is
something to trim, or nothing left to trim. -/
theorem control_trim_iff {trimC temp pl1 : ℚ} (w : Step) (sample : Sample) (force : Bool)
    (hg : w.g.Validated) (htrim : w.g.thermalTrimC = some trimC)
    (htemp : sample.pkgC.num? = some temp) (hhot : trimC ≤ temp)
    (hdue : Elapsed w.now w.s.lastThermal w.g.thermalIntervalS) (hpl1 : w.s.pl1W = some pl1)
    (hfloor : w.cap1 w.floor ≤ pl1)
    (hcap : ∀ cap ∈ w.s.thermalCapW, w.floor ≤ cap ∧ cap ≤ w.top) :
    ∃ pl1', (w.control sample force).s.pl1W = some pl1' ∧
      (((w.control sample force).s.effectiveCeiling w.top ≤
          max w.floor (min (w.s.effectiveCeiling w.top) pl1 - w.g.thermalStepW) ∧ pl1' ≤ pl1) ↔
        (w.floor < pl1 ∨ w.s.effectiveCeiling w.top ≤ w.floor)) := by
  have hstep := hg.thermalStepW_pos
  have hheld := w.thermalHeld_eq htrim hcap
  rcases w.trimDue_iff htrim htemp hhot hdue hpl1 hcap with ⟨hstart, htrimmed⟩
  rw [control_effectiveCeiling w sample force hg]
  rcases w.thermal_cases sample.pkgC w.floor w.top with ⟨htd, hceiling⟩ | ⟨-, hrd, -⟩ |
    ⟨htd, -, hceiling⟩
  · -- trimmed: PL1 is at the new ceiling, or the floor
    have hlt := htrimmed.1 htd
    rw [hstart] at hceiling
    have hle : w.cap1 (w.thermal sample.pkgC w.floor w.top).1 ≤ pl1 := by
      rw [hceiling]
      refine (w.cap1_le _).trans (max_le ?_ ?_)
      · exact (hlt.trans_le (min_le_right _ _)).le
      · linarith [min_le_right (w.s.effectiveCeiling w.top) pl1]
    rcases w.control_le sample force hg hfloor hle with ⟨pl1', hpl1', hdown⟩
    exact ⟨pl1', hpl1', iff_of_true ⟨hceiling.le, hdown⟩
      (Or.inl (hlt.trans_le (min_le_right _ _)))⟩
  · -- a hot package does not recover
    rcases hrd with ⟨trimC', temp', htrim', htemp', -, hcool, -⟩
    cases htrim.symm.trans htrim'
    cases htemp.symm.trans htemp'
    exact absurd hhot (not_le.2 hcool)
  · -- held
    have hnone := not_lt.1 fun h => htd (htrimmed.2 h)
    rw [hheld] at hceiling
    have hbound : max w.floor (min (w.s.effectiveCeiling w.top) pl1 - w.g.thermalStepW) =
        w.floor := by
      apply max_eq_left
      linarith
    by_cases hlow : w.s.effectiveCeiling w.top ≤ w.floor
    · have hle : w.cap1 (w.thermal sample.pkgC w.floor w.top).1 ≤ pl1 := by
        rw [hceiling]
        exact (w.cap1_mono hlow).trans hfloor
      rcases w.control_le sample force hg hfloor hle with ⟨pl1', hpl1', hdown⟩
      refine ⟨pl1', hpl1', iff_of_true ⟨?_, hdown⟩ (Or.inr hlow)⟩
      rw [hbound, hceiling]
      exact hlow
    · rcases control_interval w sample force hg with ⟨pl1', hpl1', -⟩
      refine ⟨pl1', hpl1', iff_of_false ?_ ?_⟩
      · rintro ⟨hbounded, -⟩
        rw [hbound, hceiling] at hbounded
        exact hlow hbounded
      · rintro (hpl1 | hdown)
        · rcases min_le_iff.1 hnone with h | h
          · exact hlow h
          · exact absurd hpl1 (not_lt.2 h)
        · exact hlow hdown

end Step

namespace Run

variable {r : Run} {g : GovernorConfig} (hconfig : ∀ n, (r.ticks n).config = g)
  (hmode : g.mode = .dynamic) (hg : g.Validated)

/-- `top` of `step`, along a run. -/
def top (r : Run) (g : GovernorConfig) : ℚ := r.firmware.cap1 (max g.ceilingW g.staticCapW)

theorem before_top (r : Run) (n : ℕ) : (r.before n).top = r.top (r.ticks n).config := by
  rw [Step.top, before_cap1, top]
  simp

/-- A dynamic tick, inverted. -/
theorem dynamic (r : Run) (n : ℕ) (hmode : (r.ticks n).config.mode = .dynamic) :
    Step.Fallen (r.before n) (r.ticks n).sample (r.after n) ∨
      ∃ u, Step.Controlled (r.before n) (r.ticks n).sample u (r.after n) :=
  Step.run_dynamic _ _ (by simpa using hmode)

include hconfig hmode hg in
/-- Along a dynamic run the thermal cap is between the floor and the top. -/
theorem cap_bounds (n : ℕ) :
    ∀ cap ∈ (r.state n).thermalCapW, g.floor ≤ cap ∧ cap ≤ r.top g := by
  induction n with
  | zero =>
      intro cap hcap
      cases hcap
  | succ n ih =>
      rcases r.dynamic n (by simp [hconfig, hmode]) with hfallen | ⟨u, hcontrol⟩
      · intro cap hcap
        rw [← r.after_s, hfallen.thermalCapW] at hcap
        exact ih cap hcap
      · rcases hcontrol.control with ⟨force, hafter⟩
        have hu := hcontrol.noted
        have hbounds := u.control_cap_bounds (r.ticks n).sample force
          (by simpa [hu.g, hconfig] using hg)
        rw [hu.floor, hu.top, before_floor, before_top, hconfig, ← hafter] at hbounds
        exact hbounds

/-- Thermal trim. In a dynamic run under one validated configuration, a hot tick
after the first that ends under control lowers the effective ceiling by a step
from PL1, and raises nothing, exactly when PL1 was above the floor or the
effective ceiling was not. -/
theorem thermal_trim_iff (r : Run) (g : GovernorConfig) (hconfig : ∀ n, (r.ticks n).config = g)
    (hmode : g.mode = .dynamic) (hg : g.Validated) {trimC temp : ℚ}
    (htrim : g.thermalTrimC = some trimC) (n : ℕ)
    (hstate : State.Governed (r.state (n + 2)).state)
    (htemp : (r.ticks (n + 1)).sample.pkgC.num? = some temp) (hhot : trimC ≤ temp)
    (hdue : Elapsed (r.time (n + 1)) (r.state (n + 1)).lastThermal g.thermalIntervalS) :
    ∃ pl1 pl1', (r.state (n + 1)).pl1W = some pl1 ∧ (r.state (n + 2)).pl1W = some pl1' ∧
      (((r.state (n + 2)).effectiveCeiling (r.top g) ≤
          max g.floor (min ((r.state (n + 1)).effectiveCeiling (r.top g)) pl1 - g.thermalStepW) ∧
          pl1' ≤ pl1) ↔
        (g.floor < pl1 ∨ (r.state (n + 1)).effectiveCeiling (r.top g) ≤ g.floor)) := by
  rcases floor_le hconfig hmode hg n with ⟨-, pl1, hpl1, hfloor⟩
  rcases r.dynamic (n + 1) (by simp [hconfig, hmode]) with hfallen | ⟨u, hcontrol⟩
  · have hfallback : (r.state (n + 2)).state = .fallback := hfallen.state
    simp [State.Governed, hfallback] at hstate
  · rcases hcontrol.control with ⟨force, hafter⟩
    have hu := hcontrol.noted
    have hug : u.g = g := by simp [hu.g, hconfig]
    have hufloor : u.floor = g.floor := by rw [hu.floor, before_floor, hconfig]
    have hutop : u.top = r.top g := by rw [hu.top, before_top, hconfig]
    have hucap : u.s.thermalCapW = (r.state (n + 1)).thermalCapW := hu.thermalCapW
    have h := u.control_trim_iff (r.ticks (n + 1)).sample force (hug.symm ▸ hg)
      (by rw [hug]; exact htrim) htemp hhot (by rw [hu.now, hu.lastThermal, hug]; exact hdue)
      (hu.pl1W.trans hpl1) (by rw [hufloor, hu.cap1, before_cap1]; exact hfloor)
      (by rw [hucap, hufloor, hutop]; exact cap_bounds hconfig hmode hg (n + 1))
    rw [← hafter, r.after_s, hufloor, hutop, hug, GovState.effectiveCeiling.eq_def u.s, hucap] at h
    rcases h with ⟨pl1', hpl1', hiff⟩
    exact ⟨pl1, pl1', hpl1, hpl1', hiff⟩

/-- A package at 98 °C throughout, 40 W of an 80 W adapter, one tick a second;
the first tick shows `pdtrW` instead. -/
def hot (pdtrW : ℚ) : Run where
  started := 0
  firmware := ⟨none, none⟩
  ticks n :=
    { sample := ⟨.num (if n = 0 then pdtrW else 40), .none, .num 80, .num 98, none⟩
      config := { GovernorConfig.defaults with mode := .dynamic }
      now := n }
  mono := mono_seconds

/-- From 35 W the ceiling steps down to 34 W. -/
theorem thermal_trim_iff_hot :
    ((hot 40).state 4).effectiveCeiling ((hot 40).top ((hot 40).ticks 0).config) ≤ 34 := by
  have h := thermal_trim_iff (hot 40) ((hot 40).ticks 0).config (fun _ => rfl) rfl
    (GovernorConfig.defaults_validated.withMode .dynamic) (show _ = some 97 from rfl) 2
    (by unfold State.Governed; decide +kernel) (show _ = some 98 from rfl) (by norm_num)
    (by decide +kernel)
  rcases h with ⟨pl1, pl1', hpl1, -, hiff⟩
  have h35 : ((hot 40).state 3).pl1W = some 35 := by decide +kernel
  cases h35.symm.trans hpl1
  refine (hiff.2 (Or.inl (by decide +kernel))).1.trans ?_
  decide +kernel

/-- After a spike the tick at 10 s recovers, hot as it is. -/
theorem hot_spike :
    ((hot 78).state 10).pl1W = some 10 ∧ ((hot 78).state 11).pl1W = some 11 := by
  decide +kernel

/-- A hot tick does not always trim. -/
theorem thermal_trim_fails :
    ¬ ∀ (r : Run) (g : GovernorConfig), (∀ n, (r.ticks n).config = g) → g.mode = .dynamic →
      g.Validated → ∀ trimC temp, g.thermalTrimC = some trimC → ∀ n,
      State.Governed (r.state (n + 2)).state →
      (r.ticks (n + 1)).sample.pkgC.num? = some temp → trimC ≤ temp →
      Elapsed (r.time (n + 1)) (r.state (n + 1)).lastThermal g.thermalIntervalS →
      ∀ pl1 pl1', (r.state (n + 1)).pl1W = some pl1 → (r.state (n + 2)).pl1W = some pl1' →
        (r.state (n + 2)).effectiveCeiling (r.top g) ≤
          max g.floor (min ((r.state (n + 1)).effectiveCeiling (r.top g)) pl1 - g.thermalStepW) ∧
        pl1' ≤ pl1 := by
  intro hclaim
  have h := hclaim (hot 78) ((hot 78).ticks 0).config (fun _ => rfl) rfl
    (GovernorConfig.defaults_validated.withMode .dynamic) 97 98 rfl 9
    (by unfold State.Governed; decide +kernel) rfl (by norm_num) (by decide +kernel) 10 11
    hot_spike.1 hot_spike.2
  exact absurd h.2 (by norm_num)

end Run

end TurboMac.Linux
