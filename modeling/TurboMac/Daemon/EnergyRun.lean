import Mathlib.Tactic.FieldSimp
import Mathlib.Tactic.Linarith
import Mathlib.Tactic.Positivity
import TurboMac.Daemon.Energy
import TurboMac.Lib.Counter

/-! # The energy of a run of samples

The register shows a count of energy units modulo 2^32. Every sample, also one that is
invalid, is the base of the next one, so that each valid result has the energy since
the sample before it.
-/

namespace TurboMac.Daemon

open Kext (U32)

/-- A sample with the count behind the register. -/
structure CountedSample where
  count : ℕ
  time : ℚ
deriving DecidableEq, Repr

/-- What the register shows. -/
def CountedSample.raw (s : CountedSample) : U32 := BitVec.ofNat 32 s.count

/-- The energy between two samples in joules. -/
def joulesBetween (exponent : U32) (a b : CountedSample) : ℚ := (b.count - a.count) / 2 ^ exponent.toNat

namespace EnergyTracker

/-- The results of a run of samples. -/
def run (exponent : U32) (tracker : EnergyTracker) : List CountedSample → List EnergySampleResult
  | [] => []
  | s :: samples =>
    let (result, tracker) := tracker.sample s.raw exponent s.time
    result :: run exponent tracker samples

/-- The tracker has its base at a sample. -/
def At (tracker : EnergyTracker) (a : CountedSample) : Prop :=
  tracker = ⟨true, a.raw, a.time⟩

/-- Whatever its result, a sample is the next base. -/
theorem at_sample (tracker : EnergyTracker) (exponent : U32) {s : CountedSample} (hs : 0 ≤ s.time) :
    (tracker.sample s.raw exponent s.time).2.At s := by
  unfold sample At
  rw [if_neg (not_lt.2 hs)]
  by_cases hinit : tracker.initialized = false
  · rw [if_pos hinit]
  · rw [if_neg hinit]
    rw [Bool.not_eq_false] at hinit
    rw [hinit]

end EnergyTracker

/-! ## One interval -/

theorem toNat_sub_eq_advance (cur prev : U32) :
    ((cur - prev).toNat : ℤ) = Counter.advance (2 ^ 32) prev.toNat cur.toNat := by
  have hcur := cur.isLt
  have hprev := prev.isLt
  rw [BitVec.toNat_sub, Counter.advance]
  split_ifs with h
  · omega
  · omega

/-- The register's difference is the count's. -/
theorem raw_sub_raw {a b : CountedSample} (hle : a.count ≤ b.count) (hlt : b.count < a.count + 2 ^ 32) :
    ((b.raw - a.raw).toNat : ℚ) = b.count - a.count := by
  have hadvance : Counter.Advances (2 ^ 32) a.count b.count := by
    constructor
    · exact_mod_cast hle
    · exact_mod_cast hlt
  have hsub := toNat_sub_eq_advance b.raw a.raw
  rw [CountedSample.raw, CountedSample.raw, BitVec.toNat_ofNat, BitVec.toNat_ofNat] at hsub
  rw [Int.natCast_emod, Int.natCast_emod, Nat.cast_pow, Nat.cast_ofNat,
    Counter.advance_emod hadvance] at hsub
  have hcast : (((b.raw - a.raw).toNat : ℤ) : ℚ) = ((b.count - a.count : ℤ) : ℚ) := by
    rw [CountedSample.raw, CountedSample.raw, hsub]
  push_cast at hcast
  exact hcast

/-- When a sample is valid, and what its watts are. -/
theorem packagePowerWatts_eq {exponent : U32} (hexponent : exponent < 32) {a b : CountedSample}
    (hle : a.count ≤ b.count) (hlt : b.count < a.count + 2 ^ 32) :
    packagePowerWatts a.raw b.raw exponent (b.time - a.time) =
      if 0 < b.time - a.time ∧ b.time - a.time ≤ 2 ∧
          joulesBetween exponent a b / (b.time - a.time) ≤ 500 then
        some (joulesBetween exponent a b / (b.time - a.time))
      else none := by
  have hjoules : 0 ≤ joulesBetween exponent a b := by
    have hcast : (a.count : ℚ) ≤ b.count := by exact_mod_cast hle
    unfold joulesBetween
    apply div_nonneg
    · linarith
    · positivity
  have hlow : ¬ 32 ≤ exponent := BitVec.not_le.2 hexponent
  have hdelta := raw_sub_raw hle hlt
  simp only [packagePowerWatts, hdelta]
  by_cases hdt : 0 < b.time - a.time
  · have hwatts : ¬ joulesBetween exponent a b / (b.time - a.time) < 0 := by
      rw [not_lt]
      positivity
    by_cases hlong : b.time - a.time ≤ 2
    · simp only [hlow, not_le.2 hdt, not_lt.2 hlong, or_self, if_false, hdt, hlong, true_and]
      rw [← joulesBetween]
      by_cases hmax : joulesBetween exponent a b / (b.time - a.time) ≤ 500
      · rw [if_pos hmax, if_neg]
        rintro (hneg | hgt)
        · exact hwatts hneg
        · exact absurd hmax (not_le.2 hgt)
      · rw [if_neg hmax, if_pos (.inr (not_le.1 hmax))]
    · -- too long ago
      rw [if_pos (.inr (.inr (not_le.1 hlong))), if_neg fun h => hlong h.2.1]
  · -- no time has passed
    rw [if_pos (.inr (.inl (not_lt.1 hdt))), if_neg fun h => hdt h.1]

/-! ## A run -/

namespace EnergyTracker

variable {exponent : U32}

/-- Each result but the first is that of the sample from a tracker that has its base at
the sample before. -/
theorem run_getElem? {tracker : EnergyTracker} {samples : List CountedSample}
    (htimes : ∀ s ∈ samples, 0 ≤ s.time) {i : ℕ} {a b : CountedSample} (ha : samples[i]? = some a)
    (hb : samples[i + 1]? = some b) :
    (run exponent tracker samples)[i + 1]? =
      some ((sample ⟨true, a.raw, a.time⟩ b.raw exponent b.time).1) := by
  induction samples generalizing tracker i with
  | nil => cases ha
  | cons s samples ih =>
      have hnext := at_sample tracker exponent (htimes s List.mem_cons_self)
      rw [run, List.getElem?_cons_succ]
      rw [List.getElem?_cons_succ] at hb
      cases i with
      | zero =>
          rw [List.getElem?_cons_zero, Option.some_inj] at ha
          subst ha
          cases samples with
          | nil => cases hb
          | cons s' samples =>
              rw [List.getElem?_cons_zero, Option.some_inj] at hb
              subst hb
              rw [run, List.getElem?_cons_zero, hnext]
      | succ i =>
          rw [List.getElem?_cons_succ] at ha
          exact ih (fun s' hs' => htimes s' (List.mem_cons_of_mem _ hs')) ha hb

/-- In a run of samples each valid result has exactly the energy since the sample before
it, and a result is valid exactly if the time since then is good and the power not too
high. The first sample is never valid. -/
theorem energy_since_previous (hexponent : exponent < 32) {samples : List CountedSample}
    (htimes : ∀ s ∈ samples, 0 ≤ s.time)
    (hadvance : samples.IsChain fun a b =>
      a.time ≤ b.time ∧ a.count ≤ b.count ∧ b.count < a.count + 2 ^ 32) :
    (∀ watts, (run exponent reset samples)[0]? ≠ some (.valid watts)) ∧
    ∀ (i : ℕ) (a b : CountedSample), samples[i]? = some a → samples[i + 1]? = some b →
      (∀ watts, (run exponent reset samples)[i + 1]? = some (.valid watts) →
        watts * (b.time - a.time) = joulesBetween exponent a b) ∧
      ((∃ watts, (run exponent reset samples)[i + 1]? = some (.valid watts)) ↔
        0 < b.time - a.time ∧ b.time - a.time ≤ 2 ∧
          joulesBetween exponent a b / (b.time - a.time) ≤ 500) := by
  constructor
  · intro watts
    cases samples with
    | nil => simp [run]
    | cons s samples =>
        -- after the reset there is nothing to compare the first sample with
        have hs := htimes s List.mem_cons_self
        simp [run, sample, reset, not_lt.2 hs]
  · intro i a b ha hb
    obtain ⟨-, hle, hlt⟩ : a.time ≤ b.time ∧ a.count ≤ b.count ∧ b.count < a.count + 2 ^ 32 := by
      obtain ⟨_, ha⟩ := List.getElem?_eq_some_iff.1 ha
      obtain ⟨hi, hb⟩ := List.getElem?_eq_some_iff.1 hb
      rw [← ha, ← hb]
      exact List.isChain_iff_getElem.1 hadvance i hi
    have hbase : ¬ b.time < 0 := not_lt.2 (htimes b (List.mem_of_getElem? hb))
    have hwatts := packagePowerWatts_eq hexponent hle hlt
    -- each sample is compared with the one right before it, valid or not
    have hresult : (run exponent reset samples)[i + 1]? =
        some ((packagePowerWatts a.raw b.raw exponent (b.time - a.time)).elim .invalid .valid) := by
      rw [run_getElem? htimes ha hb, sample, if_neg hbase, if_neg Bool.noConfusion]
      dsimp only
      cases packagePowerWatts a.raw b.raw exponent (b.time - a.time) with
      | none => rfl
      | some watts => rfl
    rw [hresult, hwatts]
    split_ifs with hgood
    · constructor
      · intro watts hvalid
        cases hvalid
        have hdt := hgood.1.ne'
        field_simp
      · exact iff_of_true ⟨_, rfl⟩ hgood
    · constructor
      · intro watts hvalid
        cases hvalid
      · apply iff_of_false _ hgood
        rintro ⟨watts, hvalid⟩
        cases hvalid

/-- The register wraps, and the interval after that is too long. -/
def sampleRun : List CountedSample :=
  [⟨4294967196, 0⟩, ⟨4294983580, 1⟩, ⟨4294990000, 5⟩, ⟨4295006384, 6⟩]

theorem energy_since_previous_sampleRun :
    (∀ watts, (run 14 reset sampleRun)[0]? ≠ some (.valid watts)) ∧
    ∀ (i : ℕ) (a b : CountedSample), sampleRun[i]? = some a → sampleRun[i + 1]? = some b →
      (∀ watts, (run 14 reset sampleRun)[i + 1]? = some (.valid watts) →
        watts * (b.time - a.time) = joulesBetween 14 a b) ∧
      ((∃ watts, (run 14 reset sampleRun)[i + 1]? = some (.valid watts)) ↔
        0 < b.time - a.time ∧ b.time - a.time ≤ 2 ∧
          joulesBetween 14 a b / (b.time - a.time) ≤ 500) := by
  apply energy_since_previous
  · decide
  · simp [sampleRun]
  · norm_num [sampleRun]

end EnergyTracker

end TurboMac.Daemon
