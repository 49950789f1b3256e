import Mathlib.Data.List.TakeWhile
import Mathlib.Data.Nat.Basic
import TurboMac.Lib.Scanner

/-! # Lines

A stream is cut after each delimiter, or after as many elements as a line may have. Lines
that are short enough come out as they were put in.
-/

namespace Lines

variable {α : Type} [DecidableEq α] (delimiter : α) (limit : Option ℕ)

/-- What is before the first delimiter. -/
def before (input : List α) : List α := input.takeWhile (· ≠ delimiter)

/-- The first line, or none while it is not complete. -/
def scan (input : List α) : Option (List α × List α) :=
  let line := before delimiter input
  if line.length < input.length ∧ ∀ n ∈ limit, line.length < n then
    some (line ++ [delimiter], input.drop (line.length + 1))
  else limit.bind fun n => if n ≤ input.length then some (input.take n, input.drop n) else none

section

variable {delimiter limit} {input rest line : List α}

theorem before_append (hline : delimiter ∉ line) : before delimiter (line ++ delimiter :: rest) = line := by
  unfold before
  rw [List.takeWhile_append_of_pos]
  · simp
  · intro a ha
    simpa using fun heq : a = delimiter => hline (heq ▸ ha)

theorem scan_append (hline : delimiter ∉ line) (hlimit : ∀ n ∈ limit, line.length < n) :
    scan delimiter limit (line ++ delimiter :: rest) = some (line ++ [delimiter], rest) := by
  unfold scan
  rw [before_append hline]
  dsimp only
  rw [if_pos ⟨by simp, hlimit⟩]
  simp

/-- A delimiter is where the rest begins. -/
theorem exists_rest (h : (before delimiter input).length < input.length) :
    ∃ rest, input = before delimiter input ++ delimiter :: rest ∧ delimiter ∉ before delimiter input := by
  have hsplit : before delimiter input ++ input.dropWhile (· ≠ delimiter) = input :=
    List.takeWhile_append_dropWhile
  have hnot : delimiter ∉ before delimiter input := by
    intro hmem
    simpa using List.mem_takeWhile_imp hmem
  cases hdrop : input.dropWhile (· ≠ delimiter) with
  | nil =>
      rw [hdrop, List.append_nil] at hsplit
      rw [hsplit] at h
      exact absurd h (lt_irrefl _)
  | cons c rest =>
      have hc : c = delimiter := by
        have hhead := List.head?_dropWhile_not (fun a => decide (a ≠ delimiter)) input
        rw [hdrop] at hhead
        simpa using hhead
      rw [hdrop, hc] at hsplit
      exact ⟨rest, hsplit.symm, hnot⟩

/-- What `scan` takes: a line, or as much as is allowed where no delimiter is in it. -/
theorem scan_cases {value : List α} (h : scan delimiter limit input = some (value, rest)) :
    (∃ line, value = line ++ [delimiter] ∧ input = value ++ rest ∧ delimiter ∉ line ∧
      ∀ n ∈ limit, line.length < n) ∨
    (∃ n, limit = some n ∧ n ≤ input.length ∧ value = input.take n ∧ rest = input.drop n ∧
      n ≤ (before delimiter input).length) := by
  unfold scan at h
  dsimp only at h
  split at h
  · rename_i hline
    obtain ⟨rfl, rfl⟩ := Prod.mk.inj (Option.some.inj h)
    obtain ⟨more, hinput, hnot⟩ := exists_rest hline.1
    refine .inl ⟨_, rfl, ?_, hnot, hline.2⟩
    have hdrop : input.drop ((before delimiter input).length + 1) = more := by
      generalize before delimiter input = line at hinput
      rw [hinput]
      simp
    rw [hdrop, List.append_assoc]
    exact hinput
  · rename_i hnone
    obtain ⟨n, hlimit, h⟩ := Option.bind_eq_some_iff.1 h
    split at h
    · rename_i hle
      obtain ⟨rfl, rfl⟩ := Prod.mk.inj (Option.some.inj h)
      refine .inr ⟨n, hlimit, hle, rfl, rfl, ?_⟩
      by_contra hlt
      apply hnone
      refine ⟨by omega, ?_⟩
      intro n' hn'
      rw [hlimit] at hn'
      obtain rfl := Option.some.inj hn'
      omega
    · cases h

theorem length_before_append (later : List α) :
    (before delimiter input).length ≤ (before delimiter (input ++ later)).length := by
  unfold before
  rw [List.takeWhile_append]
  split
  · rename_i hall
    rw [List.length_append]
    omega
  · exact le_refl _

end

/-- The lines of a stream. -/
def scanner (hlimit : limit ≠ some 0) : Scanner α (List α) where
  scan := scan delimiter limit
  consumes := by
    intro input value rest h
    rcases scan_cases h with ⟨line, rfl, hinput, -⟩ | ⟨n, rfl, hle, rfl, rfl, -⟩
    · exact ⟨line ++ [delimiter], by simp, hinput⟩
    · refine ⟨input.take n, ?_, (List.take_append_drop n input).symm⟩
      have hpos : n ≠ 0 := fun hzero => hlimit (hzero ▸ rfl)
      intro hnil
      rw [List.take_eq_nil_iff] at hnil
      rcases hnil with hzero | rfl
      · exact hpos hzero
      · exact hpos (by simpa using hle)
  stable := by
    intro input value rest later h
    rcases scan_cases h with ⟨line, rfl, hinput, hline, hshort⟩ | ⟨n, rfl, hle, rfl, rfl, hbefore⟩
    · rw [hinput, List.append_assoc, List.append_assoc]
      exact scan_append hline hshort
    · have hlonger := Nat.le_trans hbefore (@length_before_append _ _ delimiter input later)
      have htake : (input ++ later).take n = input.take n := List.take_append_of_le_length hle
      have hdrop : (input ++ later).drop n = input.drop n ++ later := List.drop_append_of_le_length hle
      unfold scan
      dsimp only
      rw [if_neg, Option.bind_some, if_pos, htake, hdrop]
      · rw [List.length_append]
        omega
      · intro h
        have hlt := h.2 n rfl
        omega

theorem scanner_scan (hlimit : limit ≠ some 0) (input : List α) :
    (scanner delimiter limit hlimit).scan input = scan delimiter limit input := rfl

/-- Lines that are short enough are what comes out. -/
theorem drain_lines (hlimit : limit ≠ some 0) {bodies : List (List α)}
    (hbodies : ∀ body ∈ bodies, delimiter ∉ body ∧ ∀ n ∈ limit, body.length < n) :
    (scanner delimiter limit hlimit).drain (bodies.flatMap fun body => body ++ [delimiter]) =
      (bodies.map fun body => body ++ [delimiter], []) := by
  induction bodies with
  | nil => exact Scanner.drain_of_none Scanner.scan_nil
  | cons body bodies ih =>
      obtain ⟨hbody, hshort⟩ := hbodies body List.mem_cons_self
      have hscan : (scanner delimiter limit hlimit).scan
          ((body :: bodies).flatMap fun body => body ++ [delimiter]) =
          some (body ++ [delimiter], bodies.flatMap fun body => body ++ [delimiter]) := by
        rw [scanner_scan, List.flatMap_cons, List.append_assoc]
        exact scan_append hbody hshort
      rw [Scanner.drain_of_some hscan, ih fun body h => hbodies body (List.mem_cons_of_mem _ h)]
      rfl

end Lines
