import Mathlib.Algebra.Order.Group.Defs
import Mathlib.Data.List.TakeWhile

/-! # Sliding windows of timed samples

A queue of samples, pushed at the back at nondecreasing times and expired from
the front once they are more than `span` old. `Tracks` is its invariant: the
newest sample ever pushed is still in it, or has expired. `Recent` says what else
is in it: of all that was pushed, what a window of the queue's span sees.
-/

namespace Window

/-- A value and the time it was taken. -/
structure TimedValue (τ α : Type*) where
  time : τ
  value : α
deriving DecidableEq, Repr

variable {τ α : Type*} [AddCommGroup τ] [LinearOrder τ]

/-- Drop samples from the front while they are more than `span` old. -/
def expire (span now : τ) (samples : List (TimedValue τ α)) : List (TimedValue τ α) :=
  samples.dropWhile fun s => decide (span < now - s.time)

section

variable {span newest clock now : τ} {samples : List (TimedValue τ α)}

theorem mem_of_mem_expire {s : TimedValue τ α} (h : s ∈ expire span now samples) : s ∈ samples :=
  (List.dropWhile_sublist _).mem h

/-- A sample within the window stays. -/
theorem mem_expire {s : TimedValue τ α} (hs : s ∈ samples) (hage : now - s.time ≤ span) :
    s ∈ expire span now samples := by
  induction samples with
  | nil => exact hs
  | cons x samples ih =>
      by_cases hx : span < now - x.time
      · have hne : s ≠ x := by
          rintro rfl
          exact absurd hx (not_lt.2 hage)
        have hmem : s ∈ samples := (List.mem_cons.1 hs).resolve_left hne
        simpa [expire, hx] using ih hmem
      · simpa [expire, hx] using hs

/-- The newest sample ever pushed was pushed at `newest`, and is in the queue
unless it had expired by `clock`. -/
structure Tracks (span newest clock : τ) (samples : List (TimedValue τ α)) : Prop where
  le : ∀ s ∈ samples, s.time ≤ newest
  newest : (∃ s ∈ samples, s.time = newest) ∨ samples = [] ∧ span < clock - newest

/-- A push makes its own time the newest. -/
theorem tracks_push (h : ∀ s ∈ samples, s.time ≤ now) (value : α) :
    Tracks span now clock (samples ++ [⟨now, value⟩]) := by
  refine ⟨?_, .inl ⟨⟨now, value⟩, by simp, rfl⟩⟩
  intro s hs
  rcases List.mem_append.1 hs with hs | hs
  · exact h s hs
  · rw [List.mem_singleton.1 hs]

variable [IsOrderedAddMonoid τ]

/-- What is expired by `clock` is so later. -/
theorem Tracks.wait (h : Tracks span newest clock samples) (hclock : clock ≤ now) :
    Tracks span newest now samples := by
  refine ⟨h.le, h.newest.imp id fun hempty => ⟨hempty.1, hempty.2.trans_le ?_⟩⟩
  exact sub_le_sub_right hclock newest

/-- After an expiry the queue is nonempty exactly if the newest sample is within
the window. -/
theorem Tracks.expire_ne_nil (h : Tracks span newest clock samples) (hclock : clock ≤ now) :
    expire span now samples ≠ [] ↔ now - newest ≤ span := by
  constructor
  · intro hne
    obtain ⟨s, hs⟩ := List.exists_mem_of_ne_nil _ hne
    by_contra hage
    rw [not_le] at hage
    -- then every sample has expired
    have hall : expire span now samples = [] := by
      refine List.dropWhile_eq_nil_iff.2 fun x hx => decide_eq_true ?_
      exact hage.trans_le (sub_le_sub_left (h.le x hx) now)
    exact absurd hs (by simp [hall])
  · intro hage
    rcases h.newest with ⟨s, hs, rfl⟩ | ⟨-, hexpired⟩
    · exact List.ne_nil_of_mem (mem_expire hs hage)
    · have hlt : span < now - newest := hexpired.trans_le (sub_le_sub_right hclock newest)
      exact absurd hlt (not_lt.2 hage)

theorem Tracks.expire (h : Tracks span newest clock samples) (hclock : clock ≤ now) :
    Tracks span newest now (expire span now samples) := by
  refine ⟨fun s hs => h.le s (mem_of_mem_expire hs), ?_⟩
  by_cases hage : now - newest ≤ span
  · rcases h.newest with ⟨s, hs, htime⟩ | ⟨-, hexpired⟩
    · exact .inl ⟨s, mem_expire hs (htime ▸ hage), htime⟩
    · have hlt : span < now - newest := hexpired.trans_le (sub_le_sub_right hclock newest)
      exact absurd hlt (not_lt.2 hage)
  · have hempty : Window.expire span now samples = [] := by
      by_contra hne
      exact hage ((h.expire_ne_nil hclock).1 hne)
    exact .inr ⟨hempty, not_le.1 hage⟩

end

/-! ## All that was pushed -/

section

variable {span clock now : τ} {all queue samples : List (TimedValue τ α)} {s : TimedValue τ α}

theorem expire_cons_of_old (h : span < now - s.time) :
    expire span now (s :: samples) = expire span now samples :=
  List.dropWhile_cons_of_pos (decide_eq_true h)

theorem expire_cons_of_recent (h : ¬ span < now - s.time) :
    expire span now (s :: samples) = s :: samples :=
  List.dropWhile_cons_of_neg (by simpa using h)

/-- In order of their times. -/
def Ordered (samples : List (TimedValue τ α)) : Prop := samples.Pairwise fun s s' => s.time ≤ s'.time

/-- Of samples in order, those within the span stay. -/
theorem expire_eq_filter [IsOrderedAddMonoid τ] (h : Ordered samples) :
    expire span now samples = samples.filter fun s => decide (now - s.time ≤ span) := by
  induction samples with
  | nil => rfl
  | cons s samples ih =>
      have hrest := ih (List.pairwise_cons.1 h).2
      have hle := (List.pairwise_cons.1 h).1
      by_cases hold : span < now - s.time
      · rw [expire_cons_of_old hold, List.filter_cons_of_neg]
        · exact hrest
        · rw [decide_eq_true_eq]
          exact not_le.2 hold
      · -- what comes after is no older
        rw [expire_cons_of_recent hold]
        refine (List.filter_eq_self.2 ?_).symm
        intro s' hs'
        rw [not_lt] at hold
        rcases List.mem_cons.1 hs' with rfl | hs'
        · exact decide_eq_true hold
        · exact decide_eq_true ((sub_le_sub_left (hle s' hs') now).trans hold)

omit [AddCommGroup τ] in
theorem Ordered.push (h : Ordered samples)
    (hlast : ∀ s' ∈ samples, s'.time ≤ s.time) : Ordered (samples ++ [s]) := by
  refine List.pairwise_append.2 ⟨h, List.pairwise_singleton _ _, ?_⟩
  intro s' hs' s'' hs''
  rw [List.mem_singleton.1 hs'']
  exact hlast s' hs'

/-- From `clock` on, the queue expires to the same samples as all that was pushed. -/
def Recent (span clock : τ) (all queue : List (TimedValue τ α)) : Prop :=
  ∀ now, clock ≤ now → expire span now queue = expire span now all

/-- What looks at recent samples only does not see an expiry. -/
theorem filter_expire {p : TimedValue τ α → Bool}
    (hp : ∀ s, p s = true → now - s.time ≤ span) : (expire span now samples).filter p = samples.filter p := by
  induction samples with
  | nil => rfl
  | cons s samples ih =>
      by_cases hold : span < now - s.time
      · have hfalse : ¬ p s = true := fun htrue => absurd hold (not_lt.2 (hp s htrue))
        rw [expire_cons_of_old hold, List.filter_cons_of_neg hfalse, ih]
      · rw [expire_cons_of_recent hold]

theorem Recent.filter {p : TimedValue τ α → Bool} (h : Recent span clock all queue)
    (hclock : clock ≤ now) (hp : ∀ s, p s = true → now - s.time ≤ span) :
    queue.filter p = all.filter p := by
  rw [← filter_expire hp, h now hclock, filter_expire hp]

theorem recent_nil : Recent span clock ([] : List (TimedValue τ α)) [] := fun _ _ => rfl

theorem Recent.wait (h : Recent span clock all queue) (hclock : clock ≤ now) :
    Recent span now all queue := fun _ hnow => h _ (hclock.trans hnow)

theorem Recent.push (h : Recent span clock all queue) (s : TimedValue τ α) :
    Recent span clock (all ++ [s]) (queue ++ [s]) := by
  intro now hnow
  have hsame := h now hnow
  unfold expire at hsame ⊢
  rw [List.dropWhile_append, List.dropWhile_append, hsame]

/-- What has expired stays so. -/
theorem expire_expire [IsOrderedAddMonoid τ] (hclock : clock ≤ now) :
    expire span now (expire span clock samples) = expire span now samples := by
  induction samples with
  | nil => rfl
  | cons s samples ih =>
      by_cases hold : span < clock - s.time
      · have hold' : span < now - s.time := hold.trans_le (sub_le_sub_right hclock s.time)
        rw [expire_cons_of_old hold, expire_cons_of_old hold', ih]
      · rw [expire_cons_of_recent hold]

theorem Recent.expire [IsOrderedAddMonoid τ] (h : Recent span clock all queue)
    (hclock : clock ≤ now) : Recent span now all (expire span now queue) := by
  intro later hlater
  rw [expire_expire hlater, h later (hclock.trans hlater)]

end

end Window
