import Mathlib.Data.Rat.Cast.Order
import Mathlib.Data.String.Basic
import Mathlib.Tactic.Linarith
import TurboMac.Lib.Evict

/-! # `logger.py`: which sample files are removed

`SampleLogger.prune` removes what is too old, and then from the oldest name on what is
too much. The file that is being written stays, but it counts.
-/

namespace TurboMac.Linux

/-- What `os.stat` says of a sample file. -/
structure SampleStat where
  path : String
  mtime : ℚ
  size : ℕ
deriving DecidableEq, Repr

/-- The files that the two `glob`s find. -/
structure SampleListing where
  files : List SampleStat
  nodup : (files.map SampleStat.path).Nodup

/-- Whether a file can be read by `stat`, and whether it can be removed. -/
structure PruneAnswers where
  stat : String → Bool
  unlink : String → Bool

/-- Nothing fails. -/
def PruneAnswers.ok : PruneAnswers := ⟨fun _ => true, fun _ => true⟩

/-- The current file, the clock and the two settings. -/
structure PruneLimits where
  path : Option String
  now : ℚ
  retentionDays : ℚ
  maxMib : ℚ
deriving DecidableEq, Repr

namespace PruneLimits

variable (p : PruneLimits)

def isCurrent (f : SampleStat) : Bool := p.path == some f.path

/-- Older than `retention_days`, and not the current file. -/
def isExpired (f : SampleStat) : Bool :=
  !p.isCurrent f && decide (p.retentionDays * 86400 < p.now - f.mtime)

def maxBytes : ℚ := p.maxMib * 1024 * 1024

end PruneLimits

/-- The bytes of some files. -/
def bytes (files : List SampleStat) : ℚ := Evict.total (fun f => (f.size : ℚ)) files

namespace SampleListing

variable (d : SampleListing) (answers : PruneAnswers) (p : PruneLimits)

/-- The files by name. -/
def sorted : List SampleStat := d.files.mergeSort fun f g => decide (f.path ≤ g.path)

/-- A file in the first loop of `prune`: it is removed, kept, or passed over. -/
def ageStep (acc : List String × List SampleStat) (f : SampleStat) : List String × List SampleStat :=
  if !answers.stat f.path then acc
  else if p.isExpired f then (acc.1 ++ [f.path], acc.2)
  else (acc.1, acc.2 ++ [f])

/-- A file in the second loop of `prune`, with the bytes that are left. -/
def sizeStep (acc : List String × ℚ) (f : SampleStat) : List String × ℚ :=
  if acc.2 ≤ p.maxBytes ∨ p.isCurrent f then acc else (acc.1 ++ [f.path], acc.2 - f.size)

/-- What `prune` returns. -/
def removed : List String :=
  let (removed, keep) := d.sorted.foldl (ageStep answers p) ([], [])
  (keep.foldl (sizeStep p) (removed, bytes keep)).1

/-- The files that are there after `prune`. -/
def prune : SampleListing where
  files := d.files.filter fun f => !((d.removed answers p).contains f.path && answers.unlink f.path)
  nodup := d.nodup.sublist (List.filter_sublist.map _)

end SampleListing

/-! ## The loops -/

namespace SampleListing

variable (d : SampleListing) (answers : PruneAnswers) (p : PruneLimits)

/-- The files that `stat` finds, by name. -/
def found : List SampleStat := d.sorted.filter fun f => answers.stat f.path

theorem foldl_ageStep (files : List SampleStat) (removed : List String) (keep : List SampleStat) :
    files.foldl (ageStep answers p) (removed, keep) =
      (removed ++ ((files.filter fun f => answers.stat f.path).filter p.isExpired).map SampleStat.path,
        keep ++ (files.filter fun f => answers.stat f.path).filter fun f => !p.isExpired f) := by
  induction files generalizing removed keep with
  | nil => simp
  | cons f files ih =>
      rw [List.foldl_cons]
      cases hstat : answers.stat f.path with
      | false => simp [ageStep, hstat, ih]
      | true =>
          cases hold : p.isExpired f with
          | false => simp [ageStep, hstat, hold, ih]
          | true => simp [ageStep, hstat, hold, ih]

theorem foldl_sizeStep (keep : List SampleStat) (removed : List String) (total : ℚ) :
    (keep.foldl (sizeStep p) (removed, total)).1 = removed ++
      (Evict.evict (fun f : SampleStat => (f.size : ℚ)) p.isCurrent p.maxBytes total keep).map
        SampleStat.path := by
  induction keep generalizing removed total with
  | nil => simp [Evict.evict]
  | cons f keep ih =>
      rw [List.foldl_cons, Evict.evict, sizeStep]
      split_ifs
      · exact ih removed total
      · rw [ih, List.map_cons, List.append_assoc, List.singleton_append]

/-- The files that are old, and those that are not. -/
def expired : List SampleStat := (d.found answers).filter p.isExpired

def recent : List SampleStat := (d.found answers).filter fun f => !p.isExpired f

/-- The files that the second loop removes. -/
def evicted : List SampleStat :=
  Evict.evict (fun f : SampleStat => (f.size : ℚ)) p.isCurrent p.maxBytes (bytes (d.recent answers p))
    (d.recent answers p)

/-- What is removed, whatever fails. -/
theorem removed_eq :
    d.removed answers p = (d.expired answers p ++ d.evicted answers p).map SampleStat.path := by
  simp only [removed, foldl_ageStep, foldl_sizeStep, List.nil_append, List.map_append]
  rfl

end SampleListing

/-! ## What is left -/

namespace SampleListing

variable (d : SampleListing) (p : PruneLimits)

theorem perm_sorted : d.sorted.Perm d.files := List.mergeSort_perm _ _

theorem mem_sorted {f : SampleStat} : f ∈ d.sorted ↔ f ∈ d.files := d.perm_sorted.mem_iff

theorem nodup_sorted : (d.sorted.map SampleStat.path).Nodup :=
  (d.perm_sorted.map SampleStat.path).nodup_iff.2 d.nodup

/-- A file is known by its path. -/
theorem path_mem_iff {l : List SampleStat} (hl : ∀ f ∈ l, f ∈ d.files) {f : SampleStat}
    (hf : f ∈ d.files) : f.path ∈ l.map SampleStat.path ↔ f ∈ l := by
  constructor
  · intro hpath
    obtain ⟨g, hg, heq⟩ := List.mem_map.1 hpath
    rwa [← List.inj_on_of_nodup_map d.nodup (hl g hg) hf heq]
  · intro hmem
    exact List.mem_map_of_mem hmem

theorem found_ok : d.found .ok = d.sorted := by
  unfold found PruneAnswers.ok
  rw [List.filter_true]

/-- What the second loop may remove. -/
def candidates : List SampleStat := (d.recent .ok p).filter fun f => !p.isCurrent f

theorem shortest_evicted : Evict.Shortest (fun f : SampleStat => (f.size : ℚ)) p.maxBytes
    (bytes (d.recent .ok p)) (d.candidates p) (d.evicted .ok p) := Evict.shortest_evict _ _

theorem evicted_sublist : (d.evicted .ok p).Sublist (d.recent .ok p) :=
  (d.shortest_evicted p).sublist.trans List.filter_sublist

theorem mem_of_mem_removed {f : SampleStat} (hf : f ∈ d.expired .ok p ++ d.evicted .ok p) :
    f ∈ d.files := by
  have hfound : f ∈ d.found .ok := by
    rcases List.mem_append.1 hf with hf | hf
    · exact List.mem_of_mem_filter hf
    · exact List.mem_of_mem_filter ((d.evicted_sublist p).subset hf)
  rw [found_ok] at hfound
  exact d.mem_sorted.1 hfound

/-- Exactly what `prune` returns is gone. -/
theorem mem_prune_iff {f : SampleStat} :
    f ∈ (d.prune .ok p).files ↔ f ∈ d.files ∧ f ∉ d.expired .ok p ∧ f ∉ d.evicted .ok p := by
  have hunlink : PruneAnswers.ok.unlink f.path = true := rfl
  simp only [prune, hunlink, List.mem_filter, Bool.and_true, Bool.not_eq_true',
    List.contains_eq_mem, decide_eq_false_iff_not]
  apply and_congr_right
  intro hf
  rw [removed_eq, d.path_mem_iff (fun g hg => d.mem_of_mem_removed p hg) hf, List.mem_append, not_or]

theorem bytes_prune :
    bytes (d.prune .ok p).files = bytes (d.recent .ok p) - bytes (d.evicted .ok p) := by
  have hnodup : (d.recent .ok p).Nodup := by
    have hsorted := d.nodup_sorted.of_map
    rw [← found_ok] at hsorted
    exact hsorted.filter _
  have hperm : (d.prune .ok p).files.Perm
      ((d.recent .ok p).filter fun f => f ∉ d.evicted .ok p) := by
    rw [List.perm_ext_iff_of_nodup (d.prune .ok p).nodup.of_map (hnodup.filter _)]
    intro f
    rw [mem_prune_iff, List.mem_filter, decide_eq_true_eq, expired, recent, found_ok, List.mem_filter,
      List.mem_filter, mem_sorted]
    cases hold : p.isExpired f with
    | false => simp
    | true =>
        simp only [and_true, Bool.not_true, Bool.false_eq_true, and_false, false_and, iff_false]
        rintro ⟨hf, hnot, -⟩
        exact hnot hf
  have hleft : bytes ((d.recent .ok p).filter fun f => f ∉ d.evicted .ok p) =
      bytes (d.recent .ok p) - bytes (d.evicted .ok p) :=
    Evict.total_filter_notMem (d.evicted_sublist p) hnodup
  have hsum : bytes (d.prune .ok p).files =
      bytes ((d.recent .ok p).filter fun f => f ∉ d.evicted .ok p) :=
    (hperm.map fun f : SampleStat => (f.size : ℚ)).sum_eq
  exact hsum.trans hleft

/-- `prune` removes the files that are too old, and of the others as few as will do, the
oldest names first. The current file stays. Only where it is alone is there too much left. -/
theorem prune_exact (d : SampleListing) (p : PruneLimits) :
    let old := d.sorted.filter p.isExpired
    let keep := d.sorted.filter fun f => !p.isExpired f
    let candidates := keep.filter fun f => !p.isCurrent f
    (∃ k ≤ candidates.length,
      d.removed .ok p = (old ++ candidates.take k).map SampleStat.path ∧
      (∀ j < k, p.maxBytes < bytes keep - bytes (candidates.take j)) ∧
      (bytes keep - bytes (candidates.take k) ≤ p.maxBytes ∨ k = candidates.length) ∧
      bytes (d.prune .ok p).files = bytes keep - bytes (candidates.take k)) ∧
    (∀ f ∈ d.files, f ∈ (d.prune .ok p).files ↔ f.path ∉ d.removed .ok p) ∧
    (∀ f ∈ d.files, p.isCurrent f = true → f ∈ (d.prune .ok p).files) ∧
    (p.maxBytes < bytes (d.prune .ok p).files →
      ∀ f ∈ (d.prune .ok p).files, p.isCurrent f = true) := by
  have hold : d.expired .ok p = d.sorted.filter p.isExpired := by rw [expired, found_ok]
  have hkeep : d.recent .ok p = d.sorted.filter fun f => !p.isExpired f := by rw [recent, found_ok]
  have hshortest := d.shortest_evicted p
  have hleft := d.bytes_prune p
  intro old keep candidates
  refine ⟨?_, ?_, ?_, ?_⟩
  · obtain ⟨k, hk, htake, hshort, hlast⟩ := hshortest
    rw [SampleListing.candidates, hkeep] at hk htake hlast hshort
    refine ⟨k, hk, ?_, hshort, hlast, ?_⟩
    · rw [removed_eq, htake, hold]
    · rw [hleft, htake, hkeep]
  · intro f hf
    rw [mem_prune_iff, removed_eq, d.path_mem_iff (fun g hg => d.mem_of_mem_removed p hg) hf,
      List.mem_append, not_or]
    exact and_iff_right hf
  · -- the current file is neither too old nor a candidate
    intro f hf hcurrent
    rw [mem_prune_iff]
    refine ⟨hf, ?_, ?_⟩
    · rw [hold, List.mem_filter, PruneLimits.isExpired, hcurrent]
      simp
    · intro hevicted
      have hcandidate := List.of_mem_filter (hshortest.sublist.subset hevicted)
      rw [hcurrent] at hcandidate
      cases hcandidate
  · -- if there is too much left, then all candidates have been removed
    intro habove f hf
    rw [hleft] at habove
    have hall := hshortest.eq_candidates habove
    rw [mem_prune_iff, hall, hold, SampleListing.candidates, hkeep, List.mem_filter, List.mem_filter,
      List.mem_filter, mem_sorted] at hf
    obtain ⟨hf, hrecent, hcandidate⟩ := hf
    cases hcurrent : p.isCurrent f with
    | true => rfl
    | false =>
        cases hexpired : p.isExpired f with
        | true => exact absurd ⟨hf, hexpired⟩ hrecent
        | false =>
            apply absurd _ hcandidate
            rw [hexpired, hcurrent]
            exact ⟨⟨hf, rfl⟩, rfl⟩

end SampleListing

end TurboMac.Linux
