import TurboMac.Linux.Thermal

/-! # What NORMAL says

NORMAL means PL1 at the top. The rules recompute the label with PL1, but an
invalid sample that is not stale yet carries the old one over, while the ceiling
may have moved. `label_iff` says when NORMAL is then still true.
-/

namespace TurboMac.Linux

namespace Step

variable {w u : Step} {sample : Sample} {ceiling : ℚ} {d : Decision}

/-- The effective ceiling is at the top. -/
def CeilingAtTop (w : Step) (sample : Sample) : Prop :=
  ¬ w.TrimDue sample.pkgC w.floor w.top ∧
    (w.thermalHeld w.floor w.top = w.top ∨
      (w.RecoverDue sample.pkgC w.floor w.top ∧
        w.top ≤ w.thermalHeld w.floor w.top + w.g.thermalStepW))

theorem thermalHeld_le (w : Step) (floor ceiling : ℚ) : w.thermalHeld floor ceiling ≤ ceiling := by
  unfold thermalHeld
  split
  · exact min_le_right _ _
  · exact le_refl _

theorem thermalStart_le (w : Step) (cap : ℚ) : w.thermalStart cap ≤ cap := by
  unfold thermalStart
  split
  · exact min_le_left _ _
  · exact le_refl _

theorem thermal_eq_top_iff (w : Step) (sample : Sample) (hg : w.g.Validated) :
    (w.thermal sample.pkgC w.floor w.top).1 = w.top ↔ w.CeilingAtTop sample := by
  unfold CeilingAtTop
  have hstep := hg.thermalStepW_pos
  have hheld := w.thermalHeld_le w.floor w.top
  rcases w.thermal_cases sample.pkgC w.floor w.top with ⟨htrim, hceiling⟩ |
    ⟨htrim, hrecover, hceiling⟩ | ⟨htrim, hrecover, hceiling⟩
  · -- a trim ends below the top
    have hstart := w.thermalStart_le (w.thermalHeld w.floor w.top)
    have hfloor : w.floor < w.thermalStart (w.thermalHeld w.floor w.top) := by
      rcases htrim with ⟨_, _, _, _, _, _, hfloor⟩
      exact hfloor
    have hlt : (w.thermal sample.pkgC w.floor w.top).1 < w.top := by
      rw [hceiling]
      refine max_lt (hfloor.trans_le (hstart.trans hheld)) ?_
      linarith
    exact iff_of_false hlt.ne fun h => h.1 htrim
  · have hlt : w.thermalHeld w.floor w.top < w.top := by
      rcases hrecover with ⟨_, _, _, _, _, _, _, hlt⟩
      exact hlt
    rw [hceiling, min_eq_left_iff]
    constructor
    · intro h
      exact ⟨htrim, Or.inr ⟨hrecover, h⟩⟩
    · rintro ⟨-, h | ⟨-, h⟩⟩
      · exact absurd h hlt.ne
      · exact h
  · rw [hceiling]
    constructor
    · intro h
      exact ⟨htrim, Or.inl h⟩
    · rintro ⟨-, h | ⟨h, -⟩⟩
      · exact h
      · exact absurd h hrecover

theorem eq_top_of_label {pl1 : ℚ} (hlabel : w.label pl1 = .normal) (hle : pl1 ≤ w.top) :
    pl1 = w.top := by
  unfold label at hlabel
  split at hlabel
  · exact le_antisymm hle (by assumption)
  · cases hlabel

/-- The rules say NORMAL with PL1 at the top, or carry the label over. -/
theorem Outcome.normal (h : Outcome w sample ceiling d) (hle : ceiling ≤ w.top)
    (hd : d.new = .normal) :
    d.pl1 = w.top ∨ (w.s.state = .normal ∧ sample.valid? = none ∧ d.pl1 = w.entryPl1 ceiling) := by
  have hentry := (w.entryPl1_le ceiling).trans hle
  -- a label that is not carried over is recomputed
  have hcarried : w.entryState ceiling = .normal →
      w.entryPl1 ceiling = w.top ∨ w.s.state = .normal := by
    intro hstate
    unfold entryState at hstate
    split at hstate
    · exact Or.inl (eq_top_of_label hstate hentry)
    · exact Or.inr hstate
  cases h with
  | invalid hsample =>
      rcases hcarried hd with htop | hstate
      · exact Or.inl htop
      · exact Or.inr ⟨hstate, hsample, rfl⟩
  | hold _ _ _ hstate | stay _ _ _ hstate =>
      rcases hcarried hd with htop | hnormal
      · exact Or.inl htop
      · rw [hstate] at hnormal
        cases hnormal
  | emergency => cases hd
  | cut | shed | leave => cases hd
  | below | between => exact Or.inl (eq_top_of_label hd hentry)
  | recover => exact Or.inl (eq_top_of_label hd ((min_le_left _ _).trans hle))

/-- An invalid sample that is not stale yet, in NORMAL, with no failed readback:
the label is carried over. -/
structure Carries (w : Step) (sample : Sample) : Prop where
  normal : w.s.state = .normal
  invalid : sample.valid? = none
  readback : ∀ rb, ¬ sample.Failed rb
  fresh : ¬ w.Stale

/-- PL1 and the effective ceiling are at the top of the configuration. -/
structure AtTop (w : Step) (sample : Sample) : Prop where
  pl1W : ∃ pl1 ∈ w.s.pl1W, w.top ≤ max pl1 w.floor
  ceiling : w.CeilingAtTop sample

theorem control_label_iff (w : Step) (sample : Sample) (force : Bool) (hg : w.g.Validated)
    (hpl1 : w.s.state = .normal → w.s.pl1W ≠ none) :
    ((w.control sample force).s.state = .normal →
        (w.control sample force).s.pl1W = some w.top) ↔
      (w.s.state = .normal → sample.valid? = none → w.AtTop sample) := by
  rcases control_spec w sample force with ⟨v, d, hv, hd, hsettled⟩
  have hle := (thermal_interval w sample hg.thermalStepW_pos.le).2
  have htop := w.thermal_eq_top_iff sample hg
  generalize (w.thermal sample.pkgC w.floor w.top).1 = ceiling at hd hle htop
  rw [hsettled.state, hsettled.pl1W, Option.some.injEq]
  by_cases hcarried : w.s.state = .normal ∧ sample.valid? = none
  · -- carried over
    rcases hcarried with ⟨hstate, hsample⟩
    rcases Option.ne_none_iff_exists'.1 (hpl1 hstate) with ⟨pl1, hpl1⟩
    have hresume : ¬ v.Resume := by
      rw [hv.resume]
      simp [Resume, hstate, hpl1]
    have hnew : d.new = .normal ∧ d.pl1 = min (max pl1 w.floor) ceiling := by
      cases hd with
      | invalid => simp [entryState, entryPl1, resumePl1, hresume, hv.state, hstate, hv.pl1W, hpl1,
          hv.floor]
      | emergency hsome | hold hsome | cut hsome | shed hsome | leave hsome | stay hsome
      | below hsome | recover hsome | between hsome => simp [hsample] at hsome
    -- what is carried over is at the top if it was, and nothing trims it
    have hcap : w.cap1 d.pl1 = w.top ↔ w.top ≤ max pl1 w.floor ∧ ceiling = w.top := by
      rw [hnew.2]
      constructor
      · intro h
        have hlow := h.symm.le.trans (w.cap1_le _)
        exact ⟨hlow.trans (min_le_left _ _), le_antisymm hle (hlow.trans (min_le_right _ _))⟩
      · rintro ⟨hlow, rfl⟩
        rw [min_eq_right hlow]
        exact w.cap1_cap1 _
    constructor
    · intro h _ _
      rcases hcap.1 (h hnew.1) with ⟨hlow, hceiling⟩
      exact ⟨⟨pl1, hpl1, hlow⟩, htop.1 hceiling⟩
    · intro h _
      rcases h hstate hsample with ⟨⟨pl1', hpl1', hlow⟩, hceiling⟩
      cases hpl1.symm.trans hpl1'
      exact hcap.2 ⟨hlow, htop.2 hceiling⟩
  · -- recomputed
    refine iff_of_true ?_ fun hstate hsample => absurd ⟨hstate, hsample⟩ hcarried
    intro hnew
    rcases hd.normal (hle.trans hv.top.symm.le) hnew with hpl1 | ⟨hstate, hsample, -⟩
    · rw [hpl1, hv.top]
      exact w.cap1_cap1 _
    · rw [hv.state] at hstate
      exact absurd ⟨hstate, hsample⟩ hcarried

theorem Noted.atTop (h : Noted w u) : u.AtTop sample ↔ w.AtTop sample := by
  have hheld : ∀ floor ceiling, u.thermalHeld floor ceiling = w.thermalHeld floor ceiling := by
    intro floor ceiling
    simp [thermalHeld, h.thermalCapW, h.g]
  have hceiling : u.CeilingAtTop sample ↔ w.CeilingAtTop sample := by
    simp [CeilingAtTop, TrimDue, RecoverDue, thermalStart, hheld, h.g, h.now, h.lastThermal,
      h.pl1W, h.floor, h.top]
  constructor
  all_goals
    rintro ⟨hpl1, hatTop⟩
    constructor
  · simpa [h.pl1W, h.floor, h.top] using hpl1
  · exact hceiling.1 hatTop
  · simpa [h.pl1W, h.floor, h.top] using hpl1
  · exact hceiling.2 hatTop

/-- Whatever a dynamic step does, it says NORMAL truly exactly when it recomputes
the label, or carries it over at the top. -/
theorem run_label_iff (w : Step) (sample : Sample) (hmode : w.g.mode = .dynamic)
    (hg : w.g.Validated) (hpl1 : w.s.state = .normal → w.s.pl1W ≠ none) :
    ((w.run sample).s.state = .normal → (w.run sample).s.pl1W = some w.top) ↔
      (w.Carries sample → w.AtTop sample) := by
  rcases w.run_dynamic sample hmode with hfallen | ⟨u, hcontrol⟩
  · -- FALLBACK, and so not carried over
    refine iff_of_true ?_ ?_
    · intro hstate
      rw [hfallen.state] at hstate
      cases hstate
    · intro hcarries
      rcases hfallen.cause with hstale | hstate | ⟨rb, hfail⟩
      · exact absurd hstale hcarries.fresh
      · rw [hcarries.normal] at hstate
        cases hstate
      · exact absurd hfail (hcarries.readback rb)
  · rcases hcontrol.control with ⟨force, hrun⟩
    have hu := hcontrol.noted
    have h := u.control_label_iff sample force (hu.g.symm ▸ hg)
      (by rw [hu.state, hu.pl1W]; exact hpl1)
    rw [hu.top, hu.atTop, hu.state, ← hrun] at h
    rw [h]
    constructor
    · intro hclaim hcarries
      exact hclaim hcarries.normal hcarries.invalid
    · intro hclaim hstate hsample
      exact hclaim ⟨hstate, hsample, hcontrol.readback, hcontrol.fresh⟩

end Step

namespace Run

theorem governed_pl1 (r : Run) (n : ℕ) (hstate : State.Governed (r.state n).state) :
    (r.state n).pl1W ≠ none := by
  cases n with
  | zero => simp [state, initial, State.Governed] at hstate
  | succ n => exact (r.path n).governed_pl1 hstate

/-- State label. Of any run, a dynamic tick under a validated configuration that
ends in NORMAL has PL1 at the top of that configuration, exactly if it does not
carry NORMAL over while PL1 or the effective ceiling is below. -/
theorem label_iff (r : Run) (n : ℕ) (hmode : (r.ticks n).config.mode = .dynamic)
    (hg : (r.ticks n).config.Validated) :
    ((r.state (n + 1)).state = .normal →
        (r.state (n + 1)).pl1W = some (r.top (r.ticks n).config)) ↔
      ((r.before n).Carries (r.ticks n).sample → (r.before n).AtTop (r.ticks n).sample) := by
  have h := (r.before n).run_label_iff (r.ticks n).sample hmode hg
    (fun hstate => r.governed_pl1 n (Or.inl hstate))
  rwa [before_top] at h

/-- NORMAL at 35 W, then a ceiling of 45 W and a sample without `pdtr_w`. -/
def raised : Run where
  started := 0
  firmware := ⟨none, none⟩
  ticks n :=
    { sample := ⟨if n = 0 then .num 40 else .none, .none, .num 80, .none, none⟩
      config :=
        { GovernorConfig.defaults with
          mode := .dynamic
          ceilingW := if n = 0 then 35 else 45 }
      now := n / 4 }
  mono := fun i j hij => by
    have h : (i : ℚ) ≤ j := by exact_mod_cast hij
    show (i : ℚ) / 4 ≤ j / 4
    linarith

theorem raised_validated (n : ℕ) : (raised.ticks n).config.Validated := by
  refine (GovernorConfig.defaults_validated.withMode .dynamic).withCeilingW ?_ ?_
  · split <;> decide +kernel
  · split <;> decide +kernel

/-- The second tick leaves NORMAL at 35 W. -/
theorem raised_normal :
    (raised.state 2).state = .normal ∧ (raised.state 2).pl1W = some 35 ∧
      raised.top (raised.ticks 1).config = 45 := by
  decide +kernel

/-- NORMAL does not always mean PL1 at the top. -/
theorem label_fails :
    ¬ ∀ (r : Run) (n : ℕ), (∀ k, (r.ticks k).config.Validated) →
      (r.ticks n).config.mode = .dynamic → (r.state (n + 1)).state = .normal →
      (r.state (n + 1)).pl1W = some (r.top (r.ticks n).config) := by
  intro hclaim
  rcases raised_normal with ⟨hstate, hpl1, htop⟩
  have h := hclaim raised 1 raised_validated rfl hstate
  rw [hpl1, htop] at h
  norm_num at h

/-- That tick carries NORMAL over with PL1 below the top. -/
theorem label_iff_raised :
    ¬ ((raised.before 1).Carries (raised.ticks 1).sample →
      (raised.before 1).AtTop (raised.ticks 1).sample) := by
  rw [← label_iff raised 1 rfl (raised_validated 1)]
  rcases raised_normal with ⟨hstate, hpl1, htop⟩
  intro h
  have h := h hstate
  rw [hpl1, htop] at h
  norm_num at h

end Run

end TurboMac.Linux
