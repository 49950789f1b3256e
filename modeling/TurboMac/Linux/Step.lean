import TurboMac.Linux.Governor
import Mathlib.Data.List.Basic

/-! # What each method and path of one step does

The methods of `_Step` first, then the paths of `step`: which fields a method
leaves alone, what it commands, which events it emits. Later modules cite these
and never unfold a method.
-/

namespace TurboMac.Linux

/-- The `type` of an event. -/
inductive EventType where
  | state
  | fallback
  | retryScheduled
  | retry
  | emergency
  | cut
  | recover
  | thermalTrim
  | thermalRecover
deriving DecidableEq, Repr

def Event.type : Event → EventType
  | .state .. => .state
  | .fallback .. => .fallback
  | .retryScheduled .. => .retryScheduled
  | .retry .. => .retry
  | .emergency .. => .emergency
  | .cut .. => .cut
  | .recover .. => .recover
  | .thermalTrim .. => .thermalTrim
  | .thermalRecover .. => .thermalRecover

/-- The limits a `set_limits` action commands. -/
def Action.limits? : Action → Option (ℚ × ℚ)
  | .setLimits pl1 pl2 _ => some (pl1, pl2)
  | .event _ => none

/-- The type of an `event` action. -/
def Action.type? : Action → Option EventType
  | .setLimits .. => none
  | .event e => some e.type

/-- The limits commanded by a list of actions, in order. -/
def commanded (actions : List Action) : List (ℚ × ℚ) := actions.filterMap Action.limits?

/-- The event types a list of actions emits, in order. -/
def emitted (actions : List Action) : List EventType := actions.filterMap Action.type?

/-- Rules 2 to 4 speak through these three events. -/
def EventType.IsRule (t : EventType) : Prop := t = .emergency ∨ t = .cut ∨ t = .recover

/-- A valid sample with `pdtr_w` at or above the emergency threshold. -/
def Sample.Spike (sample : Sample) (g : GovernorConfig) : Prop :=
  ∃ pdtr acpw, sample.valid? = some (pdtr, acpw) ∧ (thresholds acpw g).emergencyW ≤ pdtr

@[simp] theorem elapsed_some (now l span : ℚ) : Elapsed now (some l) span ↔ span ≤ now - l := by
  simp [Elapsed]

namespace Step

variable (w : Step)

/-! ## `event` and `enter` -/

@[simp] theorem event_frame (e : Event) :
    (w.event e).s = w.s ∧ (w.event e).g = w.g ∧ (w.event e).now = w.now :=
  ⟨rfl, rfl, rfl⟩

@[simp] theorem event_commanded (e : Event) :
    commanded (w.event e).actions = commanded w.actions := by
  simp [event, commanded, Action.limits?]

@[simp] theorem event_emitted (e : Event) :
    emitted (w.event e).actions = emitted w.actions ++ [e.type] := by
  simp [event, emitted, Action.type?]

@[simp] theorem enter_state (new : State) (reason : Option FallbackReason) :
    (w.enter new reason).s.state = new := by
  unfold enter
  split
  · rfl
  · rename_i h
    exact (not_not.1 h).symm

@[simp] theorem enter_frame (new : State) (reason : Option FallbackReason) :
    (w.enter new reason).g = w.g ∧ (w.enter new reason).now = w.now ∧
    (w.enter new reason).s.started = w.s.started ∧
    (w.enter new reason).s.pl1W = w.s.pl1W ∧ (w.enter new reason).s.pl2W = w.s.pl2W ∧
    (w.enter new reason).s.lastWrite = w.s.lastWrite ∧
    (w.enter new reason).s.lastValid = w.s.lastValid ∧
    (w.enter new reason).s.belowShedSince = w.s.belowShedSince ∧
    (w.enter new reason).s.belowRecoverSince = w.s.belowRecoverSince ∧
    (w.enter new reason).s.retryAt = w.s.retryAt ∧
    (w.enter new reason).s.backoffS = w.s.backoffS ∧
    (w.enter new reason).s.fwPl1W = w.s.fwPl1W ∧ (w.enter new reason).s.fwPl2W = w.s.fwPl2W ∧
    (w.enter new reason).s.thermalCapW = w.s.thermalCapW ∧
    (w.enter new reason).s.lastThermal = w.s.lastThermal := by
  unfold enter
  split <;> simp

@[simp] theorem enter_commanded (new : State) (reason : Option FallbackReason) :
    commanded (w.enter new reason).actions = commanded w.actions := by
  unfold enter
  split
  · exact event_commanded w _
  · rfl

/-- Entering a state emits no rule event. -/
theorem enter_emitted (new : State) (reason : Option FallbackReason) {t : EventType}
    (ht : t.IsRule) :
    t ∈ emitted (w.enter new reason).actions ↔ t ∈ emitted w.actions := by
  unfold enter
  split
  · show t ∈ emitted (w.event _).actions ↔ _
    rcases ht with rfl | rfl | rfl <;> simp [Event.type]
  · rfl

/-! ## Clamps and `write` -/

theorem cap1_le (x : ℚ) : w.cap1 x ≤ x := (min_le_left _ _).trans (min_le_left _ _)

theorem cap1_mono {x y : ℚ} (h : x ≤ y) : w.cap1 x ≤ w.cap1 y :=
  min_le_min_right _ (min_le_min_right _ h)

theorem cap2_le (x : ℚ) : w.cap2 x ≤ x := (min_le_left _ _).trans (min_le_left _ _)

/-- The clamp is a minimum with a bound of its own. -/
theorem cap1_eq (x : ℚ) : w.cap1 x = min x (min hardMaxW (orHardMax w.s.fwPl1W)) :=
  min_assoc _ _ _

theorem cap2_eq (x : ℚ) : w.cap2 x = min x (min hardMaxW (orHardMax w.s.fwPl2W)) :=
  min_assoc _ _ _

theorem cap1_min (x y : ℚ) : w.cap1 (min x y) = min x (w.cap1 y) := by
  rw [cap1_eq, cap1_eq, min_assoc]

@[simp] theorem cap1_cap1 (x : ℚ) : w.cap1 (w.cap1 x) = w.cap1 x := by
  rw [cap1_eq, cap1_eq, min_assoc, min_self]

/-- The firmware-capped floor is the floor or the top, whichever is lower. -/
theorem cap1_floor : w.cap1 w.floor = min w.floor w.top := by
  have h : w.floor ≤ max w.g.ceilingW w.g.staticCapW :=
    (min_le_right _ _).trans (le_max_right _ _)
  rw [top, ← cap1_min, min_eq_left h]

@[simp] theorem write_frame (pl1 pl2 : ℚ) (reason : WriteReason) (force : Bool) :
    (w.write pl1 pl2 reason force).g = w.g ∧
    (w.write pl1 pl2 reason force).now = w.now ∧
    (w.write pl1 pl2 reason force).s.state = w.s.state ∧
    (w.write pl1 pl2 reason force).s.started = w.s.started ∧
    (w.write pl1 pl2 reason force).s.lastValid = w.s.lastValid ∧
    (w.write pl1 pl2 reason force).s.belowShedSince = w.s.belowShedSince ∧
    (w.write pl1 pl2 reason force).s.belowRecoverSince = w.s.belowRecoverSince ∧
    (w.write pl1 pl2 reason force).s.retryAt = w.s.retryAt ∧
    (w.write pl1 pl2 reason force).s.backoffS = w.s.backoffS ∧
    (w.write pl1 pl2 reason force).s.fwPl1W = w.s.fwPl1W ∧
    (w.write pl1 pl2 reason force).s.fwPl2W = w.s.fwPl2W ∧
    (w.write pl1 pl2 reason force).s.thermalCapW = w.s.thermalCapW ∧
    (w.write pl1 pl2 reason force).s.lastThermal = w.s.lastThermal := by
  unfold write
  dsimp only
  split <;> simp

/-- Written or skipped, the commanded limits are the clamped ones. -/
@[simp] theorem write_limits (pl1 pl2 : ℚ) (reason : WriteReason) (force : Bool) :
    (w.write pl1 pl2 reason force).s.pl1W = some (w.cap1 pl1) ∧
    (w.write pl1 pl2 reason force).s.pl2W = some (w.cap2 pl2) := by
  unfold write
  dsimp only
  split
  · rename_i h
    exact ⟨h.2.2.1.symm, h.2.2.2.symm⟩
  · exact ⟨rfl, rfl⟩

/-- A write commands the clamped limits, or is skipped: then the last one is
less than `REASSERT_S` old. -/
theorem write_cases (pl1 pl2 : ℚ) (reason : WriteReason) (force : Bool) :
    (commanded (w.write pl1 pl2 reason force).actions = commanded w.actions ∧
      (w.write pl1 pl2 reason force).s.lastWrite = w.s.lastWrite ∧
      ¬ Elapsed w.now w.s.lastWrite reassertS) ∨
    (commanded (w.write pl1 pl2 reason force).actions =
        commanded w.actions ++ [(w.cap1 pl1, w.cap2 pl2)] ∧
      (w.write pl1 pl2 reason force).s.lastWrite = some w.now) := by
  unfold write
  dsimp only
  split
  · rename_i h
    exact Or.inl ⟨rfl, rfl, h.2.1⟩
  · right
    simp [commanded, Action.limits?]

theorem write_commanded (pl1 pl2 : ℚ) (reason : WriteReason) (force : Bool) :
    commanded (w.write pl1 pl2 reason force).actions = commanded w.actions ∨
    commanded (w.write pl1 pl2 reason force).actions =
      commanded w.actions ++ [(w.cap1 pl1, w.cap2 pl2)] := by
  rcases w.write_cases pl1 pl2 reason force with ⟨h, -⟩ | ⟨h, -⟩
  · exact Or.inl h
  · exact Or.inr h

@[simp] theorem write_emitted (pl1 pl2 : ℚ) (reason : WriteReason) (force : Bool) :
    emitted (w.write pl1 pl2 reason force).actions = emitted w.actions := by
  unfold write
  dsimp only
  split <;> simp [emitted, Action.type?]

/-! ## `thermal` -/

@[simp] theorem thermal_frame (tempC : Reading) (floor ceiling : ℚ) :
    (w.thermal tempC floor ceiling).2.g = w.g ∧
    (w.thermal tempC floor ceiling).2.now = w.now ∧
    (w.thermal tempC floor ceiling).2.s.state = w.s.state ∧
    (w.thermal tempC floor ceiling).2.s.started = w.s.started ∧
    (w.thermal tempC floor ceiling).2.s.pl1W = w.s.pl1W ∧
    (w.thermal tempC floor ceiling).2.s.pl2W = w.s.pl2W ∧
    (w.thermal tempC floor ceiling).2.s.lastWrite = w.s.lastWrite ∧
    (w.thermal tempC floor ceiling).2.s.lastCut = w.s.lastCut ∧
    (w.thermal tempC floor ceiling).2.s.lastValid = w.s.lastValid ∧
    (w.thermal tempC floor ceiling).2.s.belowShedSince = w.s.belowShedSince ∧
    (w.thermal tempC floor ceiling).2.s.belowRecoverSince = w.s.belowRecoverSince ∧
    (w.thermal tempC floor ceiling).2.s.retryAt = w.s.retryAt ∧
    (w.thermal tempC floor ceiling).2.s.backoffS = w.s.backoffS ∧
    (w.thermal tempC floor ceiling).2.s.fwPl1W = w.s.fwPl1W ∧
    (w.thermal tempC floor ceiling).2.s.fwPl2W = w.s.fwPl2W ∧
    commanded (w.thermal tempC floor ceiling).2.actions = commanded w.actions := by
  unfold thermal
  dsimp only
  split
  · split_ifs <;> simp
  · simp

/-- The thermal rule emits none of the rule events. -/
theorem thermal_emitted (tempC : Reading) (floor ceiling : ℚ) {t : EventType} (ht : t.IsRule) :
    t ∈ emitted (w.thermal tempC floor ceiling).2.actions ↔ t ∈ emitted w.actions := by
  unfold thermal
  dsimp only
  split
  · split_ifs <;> rcases ht with rfl | rfl | rfl <;> simp [Event.type]
  · rfl

/-- The effective ceiling stays between the floor and the ceiling; with the
floor above the ceiling it is the ceiling. -/
theorem thermal_bounds (hstep : 0 ≤ w.g.thermalStepW) (tempC : Reading) (floor ceiling : ℚ) :
    min floor ceiling ≤ (w.thermal tempC floor ceiling).1 ∧
      (w.thermal tempC floor ceiling).1 ≤ ceiling := by
  have hheld : min floor ceiling ≤ w.thermalHeld floor ceiling ∧
      w.thermalHeld floor ceiling ≤ ceiling := by
    unfold thermalHeld
    split
    · exact ⟨min_le_min_right _ (le_max_right _ _), min_le_right _ _⟩
    · exact ⟨min_le_right _ _, le_refl _⟩
  have hstart : w.thermalStart (w.thermalHeld floor ceiling) ≤ w.thermalHeld floor ceiling := by
    unfold thermalStart
    split
    · exact min_le_left _ _
    · exact le_refl _
  unfold thermal
  dsimp only
  split
  · split_ifs with _ _ hfloor hrecover
    · -- trim: down from a start above the floor
      refine ⟨(min_le_left _ _).trans (le_max_left _ _), ?_⟩
      refine (max_le hfloor.le ?_).trans (hstart.trans hheld.2)
      linarith
    · exact hheld
    · -- recover: up, not above the ceiling
      refine ⟨le_min (min_le_right _ _) ?_, min_le_left _ _⟩
      linarith [hheld.1]
    · exact hheld
    · exact hheld
  · exact hheld

/-! ## The control rules -/

/-- `w'` is `w` after a rule: nothing is commanded, and of the fields a later
rule looks at only the two timers move. -/
structure AfterRule (w w' : Step) (shed recover : Option ℚ) (events : List EventType) : Prop where
  g : w'.g = w.g
  now : w'.now = w.now
  state : w'.s.state = w.s.state
  started : w'.s.started = w.s.started
  pl1W : w'.s.pl1W = w.s.pl1W
  pl2W : w'.s.pl2W = w.s.pl2W
  lastWrite : w'.s.lastWrite = w.s.lastWrite
  lastValid : w'.s.lastValid = w.s.lastValid
  retryAt : w'.s.retryAt = w.s.retryAt
  backoffS : w'.s.backoffS = w.s.backoffS
  fwPl1W : w'.s.fwPl1W = w.s.fwPl1W
  fwPl2W : w'.s.fwPl2W = w.s.fwPl2W
  thermalCapW : w'.s.thermalCapW = w.s.thermalCapW
  lastThermal : w'.s.lastThermal = w.s.lastThermal
  belowShedSince : w'.s.belowShedSince = shed
  belowRecoverSince : w'.s.belowRecoverSince = recover
  commanded : commanded w'.actions = commanded w.actions
  emitted : emitted w'.actions = emitted w.actions ++ events

/-- What the rules can settle, one case for each branch of rules 2 to 5. -/
inductive Outcome (sample : Sample) (ceiling : ℚ) : Decision → Prop
  | invalid {w' : Step} (hsample : sample.valid? = none)
      (after : AfterRule w w' w.s.belowShedSince w.s.belowRecoverSince []) :
      Outcome sample ceiling ⟨w.entryState ceiling, w.entryPl1 ceiling, w'⟩
  | emergency {w' : Step} {pdtr acpw : ℚ} (hsample : sample.valid? = some (pdtr, acpw))
      (hspike : (thresholds acpw w.g).emergencyW ≤ pdtr)
      (after : AfterRule w w' none none (if w.s.state = .emergency then [] else [.emergency])) :
      Outcome sample ceiling ⟨.emergency, w.floor, w'⟩
  | hold {w' : Step} {pdtr acpw : ℚ} (hsample : sample.valid? = some (pdtr, acpw))
      (hcalm : pdtr < (thresholds acpw w.g).emergencyW)
      (hshed : (thresholds acpw w.g).shedW ≤ sample.mean pdtr)
      (hstate : w.s.state = .emergency) (after : AfterRule w w' none none []) :
      Outcome sample ceiling ⟨w.entryState ceiling, w.entryPl1 ceiling, w'⟩
  | cut {w' : Step} {pdtr acpw : ℚ} (hsample : sample.valid? = some (pdtr, acpw))
      (hcalm : pdtr < (thresholds acpw w.g).emergencyW)
      (hshed : (thresholds acpw w.g).shedW ≤ sample.mean pdtr)
      (hstate : w.s.state ≠ .emergency) (hfloor : w.floor < w.entryPl1 ceiling)
      (after : AfterRule w w' none none [.cut]) :
      Outcome sample ceiling ⟨.trim, max w.floor (w.entryPl1 ceiling - w.g.cutStepW), w'⟩
  | shed {w' : Step} {pdtr acpw : ℚ} (hsample : sample.valid? = some (pdtr, acpw))
      (hcalm : pdtr < (thresholds acpw w.g).emergencyW)
      (hshed : (thresholds acpw w.g).shedW ≤ sample.mean pdtr)
      (hstate : w.s.state ≠ .emergency) (after : AfterRule w w' none none []) :
      Outcome sample ceiling ⟨.trim, w.entryPl1 ceiling, w'⟩
  | leave {w' : Step} {pdtr acpw : ℚ} (hsample : sample.valid? = some (pdtr, acpw))
      (hcalm : pdtr < (thresholds acpw w.g).emergencyW)
      (hshed : sample.mean pdtr < (thresholds acpw w.g).shedW)
      (hstate : w.s.state = .emergency)
      (hheld : emergencyHoldS ≤ w.now - w.s.belowShedSince.getD w.now)
      (after : AfterRule w w' (some (w.s.belowShedSince.getD w.now)) none []) :
      Outcome sample ceiling ⟨.trim, w.entryPl1 ceiling, w'⟩
  | stay {w' : Step} {pdtr acpw : ℚ} (hsample : sample.valid? = some (pdtr, acpw))
      (hcalm : pdtr < (thresholds acpw w.g).emergencyW)
      (hshed : sample.mean pdtr < (thresholds acpw w.g).shedW)
      (hstate : w.s.state = .emergency)
      (hheld : w.now - w.s.belowShedSince.getD w.now < emergencyHoldS)
      (after : AfterRule w w' (some (w.s.belowShedSince.getD w.now)) w.s.belowRecoverSince []) :
      Outcome sample ceiling ⟨w.entryState ceiling, w.entryPl1 ceiling, w'⟩
  | below {w' : Step} {pdtr acpw : ℚ} (hsample : sample.valid? = some (pdtr, acpw))
      (hcalm : pdtr < (thresholds acpw w.g).emergencyW)
      (hshed : sample.mean pdtr < (thresholds acpw w.g).shedW)
      (hstate : w.s.state ≠ .emergency)
      (hrecover : sample.mean pdtr < (thresholds acpw w.g).recoverW)
      (after : AfterRule w w' (some (w.s.belowShedSince.getD w.now))
        (some (w.s.belowRecoverSince.getD w.now)) []) :
      Outcome sample ceiling ⟨w.label (w.entryPl1 ceiling), w.entryPl1 ceiling, w'⟩
  | recover {w' : Step} {pdtr acpw since : ℚ} (hsample : sample.valid? = some (pdtr, acpw))
      (hcalm : pdtr < (thresholds acpw w.g).emergencyW)
      (hshed : sample.mean pdtr < (thresholds acpw w.g).shedW)
      (hstate : w.s.state ≠ .emergency)
      (hrecover : sample.mean pdtr < (thresholds acpw w.g).recoverW)
      (hsince : w.s.belowRecoverSince = some since)
      (hspan : w.g.recoverIntervalS ≤ w.now - since) (hceiling : w.entryPl1 ceiling < ceiling)
      (after : AfterRule w w' (some (w.s.belowShedSince.getD w.now)) (some w.now) [.recover]) :
      Outcome sample ceiling
        ⟨w.label (min ceiling (w.entryPl1 ceiling + w.g.recoverStepW)),
          min ceiling (w.entryPl1 ceiling + w.g.recoverStepW), w'⟩
  | between {w' : Step} {pdtr acpw : ℚ} (hsample : sample.valid? = some (pdtr, acpw))
      (hcalm : pdtr < (thresholds acpw w.g).emergencyW)
      (hshed : sample.mean pdtr < (thresholds acpw w.g).shedW)
      (hstate : w.s.state ≠ .emergency)
      (hrecover : (thresholds acpw w.g).recoverW ≤ sample.mean pdtr)
      (after : AfterRule w w' (some (w.s.belowShedSince.getD w.now)) none []) :
      Outcome sample ceiling ⟨w.label (w.entryPl1 ceiling), w.entryPl1 ceiling, w'⟩

/-- `u` is `w` up to the bookkeeping no control rule looks at. -/
structure Same (w u : Step) : Prop where
  g : u.g = w.g
  now : u.now = w.now
  state : u.s.state = w.s.state
  started : u.s.started = w.s.started
  pl1W : u.s.pl1W = w.s.pl1W
  pl2W : u.s.pl2W = w.s.pl2W
  lastWrite : u.s.lastWrite = w.s.lastWrite
  lastValid : u.s.lastValid = w.s.lastValid
  belowShedSince : u.s.belowShedSince = w.s.belowShedSince
  belowRecoverSince : u.s.belowRecoverSince = w.s.belowRecoverSince
  fwPl1W : u.s.fwPl1W = w.s.fwPl1W
  fwPl2W : u.s.fwPl2W = w.s.fwPl2W
  commanded : commanded u.actions = commanded w.actions
  emitted : ∀ t : EventType, t.IsRule → (t ∈ emitted u.actions ↔ t ∈ emitted w.actions)

variable {w}

theorem Same.floor {u : Step} (h : Same w u) : u.floor = w.floor := by
  simp [Step.floor, h.g]

theorem Same.cap1 {u : Step} (h : Same w u) (x : ℚ) : u.cap1 x = w.cap1 x := by
  simp [Step.cap1, h.fwPl1W]

theorem Same.cap2 {u : Step} (h : Same w u) (x : ℚ) : u.cap2 x = w.cap2 x := by
  simp [Step.cap2, h.fwPl2W]

theorem Same.top {u : Step} (h : Same w u) : u.top = w.top := by
  simp [Step.top, h.cap1, h.g]

theorem Same.label {u : Step} (h : Same w u) (x : ℚ) : u.label x = w.label x := by
  simp [Step.label, h.top]

theorem Same.fallbackW {u : Step} (h : Same w u) (x : ℚ) : u.fallbackW x = w.fallbackW x := by
  simp [Step.fallbackW, h.pl1W]

theorem Same.resume {u : Step} (h : Same w u) : u.Resume ↔ w.Resume := by
  simp [Resume, h.state, h.pl1W]

theorem Same.entryPl1 {u : Step} (h : Same w u) (x : ℚ) : u.entryPl1 x = w.entryPl1 x := by
  simp [Step.entryPl1, Step.resumePl1, h.resume, h.state, h.pl1W, h.fallbackW, h.g, h.floor]

theorem Same.entryState {u : Step} (h : Same w u) (x : ℚ) : u.entryState x = w.entryState x := by
  simp [Step.entryState, h.resume, h.state, h.label, h.entryPl1]

theorem same_thermal (tempC : Reading) (floor ceiling : ℚ) :
    Same w (w.thermal tempC floor ceiling).2 := by
  constructor
  case emitted => exact fun t ht => w.thermal_emitted tempC floor ceiling ht
  all_goals simp

/-- Inversion of the control rules. -/
theorem decision_outcome (sample : Sample) (ceiling : ℚ) :
    Outcome w sample ceiling (w.decision sample ceiling) := by
  unfold decision
  split
  · rename_i pdtr acpw hsample
    unfold rules
    split_ifs with hspike hshed hstate
    · -- rule 2
      refine .emergency hsample hspike ?_
      by_cases hstate : w.s.state = .emergency
      · simp only [hstate, ne_eq, not_true, if_false, if_true]
        constructor <;> simp [clearBelow]
      · simp only [hstate, ne_eq, not_false_iff, if_true, if_false]
        constructor <;> simp [clearBelow, Event.type]
    · -- rule 3
      have hcalm := not_le.1 hspike
      unfold rule3
      dsimp only
      split_ifs with hstate hcut
      · refine .cut hsample hcalm hshed hstate hcut.2 ?_
        constructor <;> simp [clearBelow, Event.type]
      · exact .shed hsample hcalm hshed hstate (by constructor <;> simp [clearBelow])
      · exact .hold hsample hcalm hshed (not_not.1 hstate) (by constructor <;> simp [clearBelow])
    · -- rule 5
      have hcalm := not_le.1 hspike
      have hshed := not_le.1 hshed
      unfold rule5
      split_ifs with hheld
      · refine .leave hsample hcalm hshed hstate ((elapsed_some _ _ _).1 hheld) ?_
        constructor <;> simp [belowShed]
      · refine .stay hsample hcalm hshed hstate ?_ (by constructor <;> simp [belowShed])
        exact not_le.1 fun h => hheld ((elapsed_some _ _ _).2 h)
    · -- rule 4
      have hcalm := not_le.1 hspike
      have hshed := not_le.1 hshed
      unfold rule4
      dsimp only
      split_ifs with hrecover
      · split
        · rename_i hsince
          refine .below hsample hcalm hshed hstate hrecover ?_
          constructor <;> simp [belowShed, show w.s.belowRecoverSince = none from hsince]
        · rename_i since hsince
          split_ifs with hdue
          · refine .recover hsample hcalm hshed hstate hrecover hsince hdue.1 hdue.2 ?_
            constructor <;> simp [belowShed, Event.type]
          · refine .below hsample hcalm hshed hstate hrecover ?_
            constructor <;> simp [belowShed, show w.s.belowRecoverSince = some since from hsince]
      · exact .between hsample hcalm hshed hstate (not_lt.1 hrecover)
          (by constructor <;> simp [belowShed])
  · rename_i hsample
    exact .invalid hsample (by constructor <;> simp)

end Step

end TurboMac.Linux
