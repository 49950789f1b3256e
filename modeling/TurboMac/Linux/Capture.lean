import TurboMac.Linux.Rapl

/-! # Whose limits are captured

A live capture believes a PL1 of 45 W or more to be the firmware's. TurboMac writes
45 W at most, so that one value is both, and a write that has only taken for PL2
leaves the firmware's PL1 beside it.
-/

namespace TurboMac.Linux

open Decimal

/-! ## What TurboMac writes -/

theorem wToUw_mono {v w : ℚ} (h : v ≤ w) : wToUw v ≤ wToUw w := by
  apply roundHalfEven_mono
  linarith

theorem wToUw_natCast (n : ℕ) : wToUw n = n * 1000000 := by
  unfold wToUw
  have hcast : (n : ℚ) * 1000000 = ((n * 1000000 : ℤ) : ℚ) := by
    push_cast
    rfl
  rw [hcast, roundHalfEven_intCast]

theorem floorEighth_mono {v w : ℚ} (h : v ≤ w) : floorEighth v ≤ floorEighth w := by
  have hfloor : ⌊v * 8 + 1 / 1000000000⌋ ≤ ⌊w * 8 + 1 / 1000000000⌋ := by
    apply Int.floor_mono
    linarith
  have hcast : ((⌊v * 8 + 1 / 1000000000⌋ : ℤ) : ℚ) ≤ (⌊w * 8 + 1 / 1000000000⌋ : ℤ) := by
    exact_mod_cast hfloor
  unfold floorEighth
  linarith

theorem floorEighth_hardMaxW : floorEighth hardMaxW = hardMaxW := by
  decide +kernel

/-- Nothing above 45 W is written. -/
theorem wToUw_floorEighth_le {w : ℚ} (h : w ≤ hardMaxW) : wToUw (floorEighth w) ≤ 45000000 := by
  have hle := floorEighth_mono h
  rw [floorEighth_hardMaxW] at hle
  have huw := wToUw_mono hle
  have hmax : wToUw hardMaxW = 45000000 := wToUw_natCast 45
  omega

theorem clampLimits_le (pl1W pl2W : ℚ) (firmware : Option FirmwareLimits) :
    wToUw (clampLimits pl1W pl2W hardMaxW firmware).1 ≤ 45000000 := by
  unfold clampLimits
  apply wToUw_floorEighth_le
  refine (min_le_right _ _).trans ?_
  cases firmware.filter validFirmware with
  | none => exact le_refl hardMaxW
  | some fw => exact min_le_left _ _

theorem fallbackUw_le (staticCapW : Option ℚ) : fallbackUw staticCapW ≤ 45000000 := by
  unfold fallbackUw
  split
  · split
    · rename_i hrange
      have huw := wToUw_mono hrange.2
      have hmax : wToUw 45 = 45000000 := wToUw_natCast 45
      omega
    · decide
  · decide

/-! ## What is captured -/

/-- Limits that the firmware has written. -/
def FirmwareLimits.Genuine (fw : FirmwareLimits) : Prop :=
  fw.pl1.source = .firmware ∧ fw.pl2.source = .firmware

namespace Machine

variable {m m' : Machine}

/-- What has been saved is the firmware's, and so is what has been returned as valid. -/
structure Genuine (m : Machine) : Prop where
  file : ∀ fw, m.file = .limits fw → fw.Genuine
  returned : ∀ fw ∈ m.returned, validFirmware fw = true → fw.Genuine

/-- The live PL1 is at most 45 W if TurboMac has written it, and at least that otherwise. -/
structure Ranged (m : Machine) : Prop where
  turbomac : m.pl1.source = .turbomac → m.pl1.uw ≤ 45000000
  firmware : m.pl1.source = .firmware → 45000000 ≤ m.pl1.uw

/-- A machine with the firmware's limits. -/
structure Fresh (m : Machine) : Prop where
  pl1 : m.pl1.source = .firmware
  pl2 : m.pl2.source = .firmware
  high : 45000000 ≤ m.pl1.uw
  file : ∀ fw, m.file = .limits fw → fw.Genuine
  daemon : m.daemon = none
  returned : m.returned = []

/-- A live PL1 of 45 W that TurboMac has written, or a PL2 it has written beside a PL1 of
the firmware. -/
def Confusable (m : Machine) : Prop :=
  m.pl1 = ⟨45000000, .turbomac⟩ ∨ m.pl1.source = .firmware ∧ m.pl2.source = .turbomac

instance (m : Machine) : Decidable m.Confusable := inferInstanceAs (Decidable (_ ∨ _))

/-- A call captures live limits, and may save them. -/
def captures (m : Machine) (answers : LoadAnswers) : Bool :=
  (m.savedFirmware answers.opened).isNone && answers.readable && answers.saved

end Machine

/-- The event has a call that captures live limits, and may save them. -/
def RaplEvent.captures (m : Machine) : RaplEvent → Bool
  | .capApply available _ load _ => available && m.captures load
  | .daemonStart load => m.captures load
  | .capEcho _ _ | .daemonStop | .governorWrite _ _ _ _ | .lose _ => false

/-- No live limits are captured that may be taken for the firmware's. -/
def RaplEvent.Clear (m : Machine) (e : RaplEvent) : Prop := e.captures m = true → ¬ m.Confusable

namespace Machine

variable {m m' : Machine}

theorem capture_suspect_iff (m : Machine) : m.capture.suspect = true ↔ m.pl1.uw < 45000000 := by
  unfold capture Limit.watts hardMaxW
  rw [decide_eq_true_eq, div_lt_iff₀ (by norm_num)]
  norm_num
  exact_mod_cast Iff.rfl

theorem savedFirmware_eq_some {opened : Bool} {fw : FirmwareLimits}
    (h : m.savedFirmware opened = some fw) : m.file = .limits fw := by
  unfold savedFirmware at h
  split at h
  · rename_i fw' hfile
    split at h
    · cases h
      exact hfile
    · cases h
  · cases h
  · cases h

/-- A capture that is not suspect is the firmware's exactly if it cannot be confused. -/
theorem genuine_capture_iff (hm : m.Ranged) (hsuspect : ¬ m.capture.suspect = true) :
    m.capture.Genuine ↔ ¬ m.Confusable := by
  rw [capture_suspect_iff, not_lt] at hsuspect
  have hcapture : m.capture.Genuine ↔ m.pl1.source = .firmware ∧ m.pl2.source = .firmware := Iff.rfl
  rw [hcapture]
  unfold Confusable
  cases hsource : m.pl1.source with
  | turbomac =>
      have huw : m.pl1.uw = 45000000 := le_antisymm (hm.turbomac hsource) hsuspect
      have hpl1 : m.pl1 = ⟨45000000, .turbomac⟩ := by
        rw [← huw, ← hsource]
      simp [hpl1]
  | firmware =>
      have hpl1 : m.pl1 ≠ ⟨45000000, .turbomac⟩ := by
        intro h
        rw [h] at hsource
        cases hsource
      cases m.pl2.source with
      | firmware => simp [hpl1]
      | turbomac => simp [hpl1]

/-- A suspect capture is one that cannot be confused. -/
theorem not_confusable_of_suspect (hm : m.Ranged) (hsuspect : m.capture.suspect = true) :
    ¬ m.Confusable := by
  rw [capture_suspect_iff] at hsuspect
  rintro (h | ⟨h, _⟩)
  · rw [h] at hsuspect
    exact absurd hsuspect (lt_irrefl _)
  · have hge := hm.firmware h
    omega

/-- A call leaves the registers. -/
theorem pl1_load {answers : LoadAnswers} {fw : Option FirmwareLimits}
    (h : m.load answers = some (fw, m')) : m'.pl1 = m.pl1 := by
  unfold load loadOrCaptureFirmware at h
  rw [if_neg (by simp)] at h
  rcases Option.map_eq_some_iff.1 h with ⟨⟨loaded, m₁⟩, hloaded, hm'⟩
  cases hm'
  cases hsaved : m.savedFirmware answers.opened with
  | some fw =>
      rw [hsaved] at hloaded
      cases hloaded
      rfl
  | none =>
      rw [hsaved] at hloaded
      dsimp only at hloaded
      split at hloaded
      · cases hloaded
        rfl
      split at hloaded
      · cases hloaded
        rfl
      split at hloaded
      · cases hloaded
      · cases hloaded
        rfl

theorem Genuine.returning (hg : m.Genuine) {fw : Option FirmwareLimits}
    (hfw : ∀ fw' ∈ fw, validFirmware fw' = true → fw'.Genuine) :
    Genuine { m with returned := fw.toList ++ m.returned } := by
  refine ⟨hg.file, ?_⟩
  intro fw' hmem
  rcases List.mem_append.1 hmem with hmem | hmem
  · exact hfw fw' (Option.mem_toList.1 hmem)
  · exact hg.returned fw' hmem

/-- Every way out of `load_or_capture_firmware`. -/
theorem load_spec (hm : m.Ranged) (hg : m.Genuine) (answers : LoadAnswers) :
    (m.load answers = none ∧ m.captures answers = false) ∨
      ∃ fw m', m.load answers = some (fw, m') ∧
        (m'.Genuine ↔ (m.captures answers = true → ¬ m.Confusable)) := by
  unfold load loadOrCaptureFirmware
  rw [if_neg (by simp)]
  cases hsaved : m.savedFirmware answers.opened with
  | some fw =>
      -- a file of limits is returned as it is
      have hcaptures : m.captures answers = false := by simp [captures, hsaved]
      refine .inr ⟨_, _, rfl, iff_of_true (hg.returning ?_) (by simp [hcaptures])⟩
      intro fw' hfw' _
      cases hfw'
      exact hg.file fw (savedFirmware_eq_some hsaved)
  | none =>
      dsimp only
      split
      · rename_i hunreadable
        have hcaptures : m.captures answers = false := by
          unfold captures
          -- the live limits cannot be read
          simp only [Bool.not_eq_true'] at hunreadable
          simp [hunreadable]
        refine .inr ⟨_, _, rfl, iff_of_true (hg.returning ?_) (by simp [hcaptures])⟩
        intro fw' hfw'
        cases hfw'
      split
      · rename_i hsuspect
        refine .inr ⟨_, _, rfl, iff_of_true (hg.returning ?_) ?_⟩
        · -- suspect limits are returned and not saved
          intro fw' hfw' hvalid
          cases hfw'
          unfold validFirmware at hvalid
          rw [hsuspect] at hvalid
          cases hvalid
        · intro _
          exact not_confusable_of_suspect hm hsuspect
      rename_i hreadable hsuspect
      simp only [Bool.not_eq_true', Bool.not_eq_false] at hreadable
      split
      · rename_i hunsaved
        refine .inl ⟨rfl, ?_⟩
        unfold captures
        -- the file cannot be written
        simp only [Bool.not_eq_true'] at hunsaved
        simp [hunsaved]
      · rename_i hsave
        simp only [Bool.not_eq_true', Bool.not_eq_false] at hsave
        -- saved: genuine exactly if the live limits are not TurboMac's own
        have hcaptures : m.captures answers = true := by simp [captures, hsaved, hreadable, hsave]
        refine .inr ⟨_, _, rfl, ?_⟩
        constructor
        · intro h _
          exact (genuine_capture_iff hm hsuspect).1 (h.file _ rfl)
        · intro hclear
          have h := (genuine_capture_iff hm hsuspect).2 (hclear hcaptures)
          have hfile : Genuine { m with file := .limits m.capture } := by
            refine ⟨?_, hg.returned⟩
            intro fw hfw
            cases hfw
            exact h
          apply hfile.returning
          intro fw' hfw' _
          cases hfw'
          exact h

/-! ## Events -/

theorem ranged_written (hm : m.Ranged) {w : ℚ} (hw : wToUw w ≤ 45000000) (takes : Bool) :
    let l := written m.pl1 w takes
    (l.source = .turbomac → l.uw ≤ 45000000) ∧ (l.source = .firmware → 45000000 ≤ l.uw) := by
  unfold written
  cases takes with
  | false => exact ⟨hm.turbomac, hm.firmware⟩
  | true =>
      constructor
      · intro _
        exact hw
      · intro h
        cases h

theorem ranged_applyAndVerify (hm : m.Ranged) (pl1W pl2W : ℚ) (firmware : Option FirmwareLimits)
    (answers : WriteAnswers) : Ranged (m.applyAndVerify pl1W pl2W hardMaxW firmware answers) := by
  have h := ranged_written hm (clampLimits_le pl1W pl2W firmware) answers.pl1
  exact ⟨h.1, h.2⟩

/-- Every event keeps the range of the live PL1. -/
theorem ranged_step (hm : m.Ranged) {e : RaplEvent} (hstep : m.step e = some m') : m'.Ranged := by
  -- a capture leaves PL1 as it is
  have hload : ∀ {answers fw m₁}, m.load answers = some (fw, m₁) → m₁.Ranged := by
    intro answers fw m₁ h
    constructor
    · rw [pl1_load h]
      exact hm.turbomac
    · rw [pl1_load h]
      exact hm.firmware
  cases e with
  | capApply available staticCapW answers write =>
      unfold step at hstep
      dsimp only at hstep
      split at hstep
      · cases hstep
        exact hm
      cases hloaded : m.load answers with
      | none =>
          rw [hloaded] at hstep
          cases hstep
          exact hm
      | some result =>
          rw [hloaded] at hstep
          cases hstep
          exact ranged_applyAndVerify (hload hloaded) _ _ _ _
  | capEcho staticCapW write =>
      cases hstep
      -- what `echo` writes is within the range of the fallback
      have hle := fallbackUw_le staticCapW
      rcases write with ⟨takes, takes'⟩
      cases takes with
      | false => exact ⟨hm.turbomac, hm.firmware⟩
      | true =>
          constructor
          · intro _
            exact hle
          · intro hsource
            cases hsource
  | daemonStart answers =>
      unfold step at hstep
      dsimp only at hstep
      cases hloaded : m.load answers with
      | none =>
          rw [hloaded] at hstep
          cases hstep
          exact hm
      | some result =>
          rw [hloaded] at hstep
          cases hstep
          have hranged := hload hloaded
          exact ⟨hranged.turbomac, hranged.firmware⟩
  | daemonStop =>
      cases hstep
      exact ⟨hm.turbomac, hm.firmware⟩
  | governorWrite available pl1W pl2W write =>
      unfold step at hstep
      dsimp only at hstep
      split at hstep
      · cases hstep
      split at hstep
      · cases hstep
        exact ranged_applyAndVerify hm _ _ _ _
      · cases hstep
        exact hm
  | lose missing =>
      cases hstep
      exact ⟨hm.turbomac, hm.firmware⟩

/-- What has been saved and returned is as it was. -/
structure SameLimits (m m' : Machine) : Prop where
  file : m'.file = m.file
  returned : m'.returned = m.returned

theorem SameLimits.genuine_iff (h : SameLimits m m') : m'.Genuine ↔ m.Genuine := by
  constructor
  · rintro ⟨hfile, hreturned⟩
    rw [h.file] at hfile
    rw [h.returned] at hreturned
    exact ⟨hfile, hreturned⟩
  · rintro ⟨hfile, hreturned⟩
    rw [← h.file] at hfile
    rw [← h.returned] at hreturned
    exact ⟨hfile, hreturned⟩

/-- An event that captures nothing. -/
theorem genuine_iff_clear {e : RaplEvent} (hg : m'.Genuine) (hcaptures : e.captures m = false) :
    m'.Genuine ↔ e.Clear m := by
  refine iff_of_true hg ?_
  intro h
  rw [hcaptures] at h
  cases h

/-- An event keeps the firmware's limits apart exactly if it is clear. -/
theorem genuine_step_iff (hm : m.Ranged) (hg : m.Genuine) {e : RaplEvent}
    (hstep : m.step e = some m') : m'.Genuine ↔ e.Clear m := by
  have hsame : ∀ {m₁}, SameLimits m m₁ → m₁.Genuine := fun h => h.genuine_iff.2 hg
  cases e with
  | capApply available staticCapW answers write =>
      unfold step at hstep
      dsimp only at hstep
      split at hstep
      · rename_i hunavailable
        simp only [Bool.not_eq_true'] at hunavailable
        cases hstep
        exact genuine_iff_clear hg (by simp [RaplEvent.captures, hunavailable])
      rename_i havailable
      simp only [Bool.not_eq_true', Bool.not_eq_false] at havailable
      rcases load_spec hm hg answers with ⟨hraised, hcaptures⟩ | ⟨fw, m₁, hload, hgenuine⟩
      · rw [hraised] at hstep
        cases hstep
        exact genuine_iff_clear hg (by simp [RaplEvent.captures, hcaptures])
      · rw [hload] at hstep
        cases hstep
        -- the writes that follow touch neither the file nor what has been returned
        have hwrite : SameLimits m₁ (m₁.applyAndVerify staticCapW staticCapW hardMaxW fw write) :=
          ⟨rfl, rfl⟩
        rw [hwrite.genuine_iff, hgenuine]
        subst havailable
        exact Iff.rfl
  | capEcho staticCapW write =>
      cases hstep
      exact genuine_iff_clear (hsame ⟨rfl, rfl⟩) rfl
  | daemonStart answers =>
      unfold step at hstep
      dsimp only at hstep
      rcases load_spec hm hg answers with ⟨hraised, hcaptures⟩ | ⟨fw, m₁, hload, hgenuine⟩
      · rw [hraised] at hstep
        cases hstep
        exact genuine_iff_clear hg hcaptures
      · rw [hload] at hstep
        cases hstep
        have hstart : SameLimits m₁ { m₁ with daemon := some fw } := ⟨rfl, rfl⟩
        rw [hstart.genuine_iff, hgenuine]
        exact Iff.rfl
  | daemonStop =>
      cases hstep
      exact genuine_iff_clear (hsame ⟨rfl, rfl⟩) rfl
  | governorWrite available pl1W pl2W write =>
      unfold step at hstep
      dsimp only at hstep
      split at hstep
      · cases hstep
      split at hstep
      · cases hstep
        exact genuine_iff_clear (hsame ⟨rfl, rfl⟩) rfl
      · cases hstep
        exact genuine_iff_clear hg rfl
  | lose missing =>
      cases hstep
      refine genuine_iff_clear ⟨?_, hg.returned⟩ rfl
      intro fw hfw
      cases missing <;> cases hfw

theorem Fresh.ranged (h : m.Fresh) : m.Ranged := by
  constructor
  · rw [h.pl1]
    intro hsource
    cases hsource
  · intro _
    exact h.high

theorem Fresh.genuine (h : m.Fresh) : m.Genuine := by
  refine ⟨h.file, ?_⟩
  rw [h.returned]
  simp

end Machine

section

variable {m m' : Machine}

/-- **Whose limits are captured.** From a machine with the firmware's limits, all along
any run of events, what is saved is the firmware's and what is returned as valid is, exactly
if no live limits are captured while PL1 is TurboMac's own 45 W, or while PL2 is TurboMac's
and PL1 still the firmware's. -/
theorem firmware_limits_genuine_iff (hfresh : m.Fresh) (events : List RaplEvent)
    (hrun : Interleaving.run Machine.step m events = some m') :
    (∀ pre m₁, pre <+: events → Interleaving.run Machine.step m pre = some m₁ → m₁.Genuine) ↔
      ∀ pre e m₁, pre ++ [e] <+: events → Interleaving.run Machine.step m pre = some m₁ →
        e.Clear m₁ := by
  apply Interleaving.always_iff
  · intro m₁ e m₂ hm h
    exact Machine.ranged_step hm h
  · intro m₁ e m₂ hm hg h
    exact Machine.genuine_step_iff hm hg h
  · exact hfresh.ranged
  · exact hfresh.genuine
  · exact hrun

end

/-! ## A cap of 45 W -/

/-- The firmware's limits of 100 W and 125 W, before anything has been captured. -/
def sampleMachine : Machine := ⟨⟨100000000, .firmware⟩, ⟨125000000, .firmware⟩, .missing, none, []⟩

theorem fresh_sampleMachine : sampleMachine.Fresh := by
  constructor
  · rfl
  · rfl
  · decide
  · intro fw hfw
    cases hfw
  · rfl
  · rfl

/-- A cap is applied, the file is lost, and the daemon starts. -/
def lostFileRun (staticCapW : ℚ) : List RaplEvent :=
  [.capApply true staticCapW ⟨true, true, true⟩ ⟨true, true⟩, .lose true,
    .daemonStart ⟨true, true, true⟩]

/-- TurboMac's own 45 W are saved as the firmware's, and returned as valid. -/
theorem captured_own_limits : sampleMachine.Fresh ∧
    ∃ m, Interleaving.run Machine.step sampleMachine (lostFileRun 45) = some m ∧
      m.file = .limits ⟨⟨45000000, .turbomac⟩, ⟨45000000, .turbomac⟩, false⟩ ∧
      m.daemon = some (some ⟨⟨45000000, .turbomac⟩, ⟨45000000, .turbomac⟩, false⟩) ∧
      ¬ m.Genuine := by
  have hrun : ((Interleaving.run Machine.step sampleMachine (lostFileRun 45)).any fun m =>
      decide (m.file = .limits ⟨⟨45000000, .turbomac⟩, ⟨45000000, .turbomac⟩, false⟩) &&
        decide (m.daemon = some (some ⟨⟨45000000, .turbomac⟩, ⟨45000000, .turbomac⟩, false⟩))) =
      true := by decide +kernel
  rw [Option.any_eq_true] at hrun
  rcases hrun with ⟨m, hm, hlimits⟩
  rw [Bool.and_eq_true, decide_eq_true_eq, decide_eq_true_eq] at hlimits
  refine ⟨fresh_sampleMachine, m, hm, hlimits.1, hlimits.2, ?_⟩
  intro hgenuine
  have hsource := (hgenuine.file _ hlimits.1).1
  cases hsource

/-- The same with the cap that is set by default. -/
theorem firmware_limits_genuine_lostFileRun :
    (∀ pre m, pre <+: lostFileRun 35 → Interleaving.run Machine.step sampleMachine pre = some m →
        m.Genuine) ↔
      ∀ pre e m, pre ++ [e] <+: lostFileRun 35 →
        Interleaving.run Machine.step sampleMachine pre = some m → e.Clear m := by
  have hrun : (Interleaving.run Machine.step sampleMachine (lostFileRun 35)).isSome = true := by
    decide +kernel
  rcases Option.isSome_iff_exists.1 hrun with ⟨m, hm⟩
  exact firmware_limits_genuine_iff fresh_sampleMachine (lostFileRun 35) hm

end TurboMac.Linux
