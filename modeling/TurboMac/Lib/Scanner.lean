import Mathlib.Data.List.Basic
import Mathlib.Data.List.Induction
import Mathlib.Tactic.Common

/-! # Input that arrives in pieces

A scanner takes one value off the front of its buffer, or waits for more. If what
it takes does not depend on what comes later, it does not matter where the input
has been cut: the values and the rest are those of the whole input.
-/

/-- One value off the front, or none while more is needed. -/
structure Scanner (α β : Type*) where
  scan : List α → Option (β × List α)
  /-- A value takes something off. -/
  consumes : ∀ {input value rest}, scan input = some (value, rest) →
    ∃ front, front ≠ [] ∧ input = front ++ rest
  /-- What is decided is not revised. -/
  stable : ∀ {input value rest} (later : List α), scan input = some (value, rest) →
    scan (input ++ later) = some (value, rest ++ later)

namespace Scanner

variable {α β : Type*} (s : Scanner α β)

theorem length_lt {s : Scanner α β} {input rest : List α} {value : β}
    (h : s.scan input = some (value, rest)) : rest.length < input.length := by
  obtain ⟨front, hne, rfl⟩ := s.consumes h
  have hpos := List.length_pos_iff.mpr hne
  rw [List.length_append]
  omega

/-- Scan until more is needed: the values, and what is left. -/
def drain (input : List α) : List β × List α :=
  match _h : s.scan input with
  | none => ([], input)
  | some (value, rest) => (value :: (drain rest).1, (drain rest).2)
termination_by input.length
decreasing_by all_goals exact length_lt ‹_›

/-- Append a piece to what is left, and scan. -/
def feed (r : List β × List α) (piece : List α) : List β × List α :=
  (r.1 ++ (s.drain (r.2 ++ piece)).1, (s.drain (r.2 ++ piece)).2)

section

variable {s} {input rest : List α} {value : β}

theorem scan_nil : s.scan [] = none := by
  cases h : s.scan [] with
  | none => rfl
  | some r => exact absurd (length_lt h) (by simp)

theorem drain_of_none (h : s.scan input = none) : s.drain input = ([], input) := by
  rw [drain]
  split
  · rfl
  · simp_all

theorem drain_of_some (h : s.scan input = some (value, rest)) :
    s.drain input = (value :: (s.drain rest).1, (s.drain rest).2) := by
  rw [drain]
  split
  · simp_all
  · simp_all

/-- To prove something of `drain`: what waits, and one value more. -/
theorem drain_induction {P : List α → Prop} (wait : ∀ input, s.scan input = none → P input)
    (take : ∀ input value rest, s.scan input = some (value, rest) → P rest → P input)
    (input : List α) : P input := by
  induction hlength : input.length using Nat.strongRecOn generalizing input with
  | ind n ih =>
    cases h : s.scan input with
    | none => exact wait input h
    | some r => exact take input r.1 r.2 h (ih r.2.length (hlength ▸ length_lt h) r.2 rfl)

/-- Scanning ends because more is needed. -/
theorem scan_drain (input : List α) : s.scan (s.drain input).2 = none := by
  induction input using s.drain_induction with
  | wait input h => rwa [drain_of_none h]
  | take input value rest h ih => rwa [drain_of_some h]

/-- No more values than elements. -/
theorem length_drain (input : List α) : (s.drain input).1.length ≤ input.length := by
  induction input using s.drain_induction with
  | wait input h =>
      rw [drain_of_none h]
      exact Nat.zero_le _
  | take input value rest h ih =>
      have hlt := length_lt h
      rw [drain_of_some h, List.length_cons]
      omega

/-- A cut makes no difference. -/
theorem drain_append (input later : List α) :
    s.drain (input ++ later) = s.feed (s.drain input) later := by
  induction input using s.drain_induction with
  | wait input h =>
      rw [drain_of_none h]
      rfl
  | take input value rest h ih =>
      -- the value is the same with more behind it
      rw [drain_of_some h, drain_of_some (s.stable later h), ih]
      rfl

/-- Neither do any number of cuts. -/
theorem feed_pieces (pieces : List (List α)) : pieces.foldl s.feed ([], []) = s.drain pieces.flatten := by
  induction pieces using List.reverseRecOn with
  | nil => rw [List.flatten_nil, drain_of_none scan_nil, List.foldl_nil]
  | append_singleton pieces piece ih =>
      rw [List.foldl_append, ih, List.flatten_append, drain_append, List.flatten_singleton]
      rfl

end

end Scanner
