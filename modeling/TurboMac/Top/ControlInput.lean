import Mathlib.Data.List.TakeWhile
import TurboMac.Lib.Bytes
import TurboMac.Lib.Scanner

/-! # `consumeControlInput`

The TUI takes control actions off the bytes read from the terminal. A read may end
inside an escape sequence or inside the three bytes of an arrow: such a prefix waits,
and what is complete does not depend on the bytes behind it.
-/

namespace TurboMac.Top

open Bytes

inductive ControlAction where
  | none | dutyUp | dutyDown | workersUp | workersDown | toggleLoad | stopLoad | maximumPreset
  | resetPeaks | quit
  deriving DecidableEq

/-- The byte of a character literal. -/
def byte (c : Char) : Byte := BitVec.ofNat 8 c.toNat

/-- The four directions, by the byte that tells them apart. -/
def direction (up down right left given : Byte) : ControlAction :=
  if given = up then .dutyUp
  else if given = down then .dutyDown
  else if given = right then .workersUp
  else if given = left then .workersDown
  else .none

/-- After `ESC [` and after `ESC O`. -/
def arrowKey : Byte → ControlAction := direction (byte 'A') (byte 'B') (byte 'C') (byte 'D')

/-- The third byte of an arrow in UTF-8. -/
def arrowGlyph : Byte → ControlAction := direction 0x91 0x93 0x92 0x90

def key (first : Byte) : ControlAction :=
  if first ∈ ['w', 'W', '+', '='].map byte then .dutyUp
  else if first ∈ ['s', 'S', '-', '_'].map byte then .dutyDown
  else if first ∈ ['d', 'D', ']'].map byte then .workersUp
  else if first ∈ ['a', 'A', '['].map byte then .workersDown
  else if first ∈ [' ', '\r', '\n'].map byte then .toggleLoad
  else if first ∈ ['0', 'x', 'X'].map byte then .stopLoad
  else if first ∈ ['m', 'M'].map byte then .maximumPreset
  else if first ∈ ['r', 'R'].map byte then .resetPeaks
  else if first ∈ ['q', 'Q'].map byte then .quit
  else .none

/-- The byte that ends an `ESC [` sequence. -/
def isFinal (character : Byte) : Bool := 0x40 ≤ character.toNat && character.toNat ≤ 0x7e

/-- The result, and what is then in `*input` and `*action`. -/
def consumeControlInput (input : List Byte) (action : ControlAction) :
    Bool × List Byte × ControlAction :=
  match input with
  | [] => (false, input, action)
  | first :: rest =>
    if first = 0x1b then
      match rest with
      | [] => (false, input, .none)
      | second :: sequence =>
        if second = byte '[' then
          match sequence.dropWhile (fun character => !isFinal character) with
          | [] => (false, input, .none)
          | final :: rest => (true, rest, arrowKey final)
        else if second = byte 'O' then
          match sequence with
          | [] => (false, input, .none)
          | third :: rest => (true, rest, arrowKey third)
        else (true, rest, .none)
    else if first = 0xe2 then
      match rest with
      | second :: third :: rest => (true, rest, if second = 0x86 then arrowGlyph third else .none)
      | _ => (false, input, .none)
    else (true, rest, key first)

/-- The sequences: what is taken off, its action and the rest. -/
inductive Takes : List Byte → ControlAction → List Byte → Prop
  /-- `ESC [`, any number of parameter bytes and a final byte -/
  | bracket (parameters : List Byte) (final : Byte) (rest : List Byte)
      (hparameters : ∀ character ∈ parameters, isFinal character = false)
      (hfinal : isFinal final = true) :
      Takes (0x1b :: byte '[' :: (parameters ++ final :: rest)) (arrowKey final) rest
  /-- `ESC O` and one byte -/
  | letter (third : Byte) (rest : List Byte) :
      Takes (0x1b :: byte 'O' :: third :: rest) (arrowKey third) rest
  /-- an `ESC` that starts neither -/
  | escape (second : Byte) (rest : List Byte) (hbracket : second ≠ byte '[')
      (hletter : second ≠ byte 'O') : Takes (0x1b :: second :: rest) .none (second :: rest)
  /-- three bytes of UTF-8 -/
  | glyph (second third : Byte) (rest : List Byte) :
      Takes (0xe2 :: second :: third :: rest) (if second = 0x86 then arrowGlyph third else .none) rest
  /-- any other byte -/
  | key (first : Byte) (rest : List Byte) (hescape : first ≠ 0x1b) (hglyph : first ≠ 0xe2) :
      Takes (first :: rest) (key first) rest

namespace Takes

variable {input rest : List Byte} {action : ControlAction}

theorem front (h : Takes input action rest) : ∃ front, front ≠ [] ∧ input = front ++ rest := by
  cases h with
  | bracket parameters final rest _ _ =>
      exact ⟨0x1b :: byte '[' :: (parameters ++ [final]), by simp, by simp⟩
  | letter third rest => exact ⟨[0x1b, byte 'O', third], by simp, rfl⟩
  | escape second rest _ _ => exact ⟨[0x1b], by simp, rfl⟩
  | glyph second third rest => exact ⟨[0xe2, second, third], by simp, rfl⟩
  | key first rest _ _ => exact ⟨[first], by simp, rfl⟩

/-- More bytes behind a sequence do not change it. -/
theorem append (h : Takes input action rest) (later : List Byte) :
    Takes (input ++ later) action (rest ++ later) := by
  cases h with
  | bracket parameters final rest hparameters hfinal =>
      have h := bracket parameters final (rest ++ later) hparameters hfinal
      simpa using h
  | letter third rest => exact letter third (rest ++ later)
  | escape second rest hbracket hletter => exact escape second (rest ++ later) hbracket hletter
  | glyph second third rest => exact glyph second third (rest ++ later)
  | key first rest hescape hglyph => exact key first (rest ++ later) hescape hglyph

end Takes

/-! ## What one call does -/

section

variable {input rest : List Byte} {action action' : ControlAction}

theorem dropWhile_parameters {parameters : List Byte} {final : Byte} (rest : List Byte)
    (hparameters : ∀ character ∈ parameters, isFinal character = false)
    (hfinal : isFinal final = true) :
    (parameters ++ final :: rest).dropWhile (fun character => !isFinal character) = final :: rest := by
  induction parameters with
  | nil => rw [List.nil_append, List.dropWhile_cons_of_neg (by simp [hfinal])]
  | cons character parameters ih =>
      have hcharacter := hparameters character List.mem_cons_self
      rw [List.cons_append, List.dropWhile_cons_of_pos (by simp [hcharacter])]
      exact ih fun other hother => hparameters other (List.mem_cons_of_mem _ hother)

/-- A sequence with a final byte, cut at it. -/
theorem eq_of_dropWhile {sequence : List Byte} {final : Byte}
    (h : sequence.dropWhile (fun character => !isFinal character) = final :: rest) :
    ∃ parameters, sequence = parameters ++ final :: rest ∧
      (∀ character ∈ parameters, isFinal character = false) ∧ isFinal final = true := by
  refine ⟨sequence.takeWhile (fun character => !isFinal character), ?_, ?_, ?_⟩
  · rw [← h, List.takeWhile_append_dropWhile]
  · intro character hmem
    have hnot := List.mem_takeWhile_imp hmem
    simpa using hnot
  · have hhead := List.head_dropWhile_not (l := sequence) (fun character => !isFinal character)
      (by simp [h])
    simpa [h] using hhead

theorem consumeControlInput_of_takes (h : Takes input action' rest) :
    consumeControlInput input action = (true, rest, action') := by
  cases h with
  | bracket parameters final rest hparameters hfinal =>
      simp only [consumeControlInput, if_pos, dropWhile_parameters rest hparameters hfinal]
  | letter third rest =>
      have hbracket : byte 'O' ≠ byte '[' := by decide
      simp only [consumeControlInput, if_pos, if_neg hbracket]
  | escape second rest hbracket hletter =>
      simp only [consumeControlInput, if_pos, if_neg hbracket, if_neg hletter]
  | glyph second third rest =>
      have hescape : (0xe2 : Byte) ≠ 0x1b := by decide
      simp only [consumeControlInput, if_pos, if_neg hescape]
  | key first rest hescape hglyph =>
      simp only [consumeControlInput, if_neg hescape, if_neg hglyph]

/-- A call takes a sequence off, or leaves the buffer as it is. -/
theorem consumeControlInput_cases (input : List Byte) (action : ControlAction) :
    (∃ action' rest, consumeControlInput input action = (true, rest, action') ∧
      Takes input action' rest) ∨
    ∃ action', consumeControlInput input action = (false, input, action') := by
  unfold consumeControlInput
  split
  · exact .inr ⟨_, rfl⟩
  · split_ifs with hescape hglyph
    · subst hescape
      split
      · exact .inr ⟨_, rfl⟩
      · split_ifs with hbracket hletter
        · subst hbracket
          split
          · exact .inr ⟨_, rfl⟩
          · rename_i hfinal
            obtain ⟨parameters, rfl, hparameters, hfinal⟩ := eq_of_dropWhile hfinal
            exact .inl ⟨_, _, rfl, .bracket parameters _ _ hparameters hfinal⟩
        · subst hletter
          split
          · exact .inr ⟨_, rfl⟩
          · exact .inl ⟨_, _, rfl, .letter _ _⟩
        · exact .inl ⟨_, _, rfl, .escape _ _ hbracket hletter⟩
    · subst hglyph
      split
      · exact .inl ⟨_, _, rfl, .glyph _ _ _⟩
      · exact .inr ⟨_, rfl⟩
    · exact .inl ⟨_, _, rfl, .key _ _ hescape hglyph⟩

theorem takes_of_consumeControlInput
    (h : consumeControlInput input action = (true, rest, action')) : Takes input action' rest := by
  obtain ⟨action'', rest', heq, htakes⟩ | ⟨action'', heq⟩ := consumeControlInput_cases input action
  · rw [h] at heq
    obtain ⟨-, rfl, rfl⟩ := heq
    exact htakes
  · rw [h] at heq
    simp at heq

end

/-! ## The input loop of `main` -/

/-- One call in the loop: `action` is `None` before it. -/
def scanControl (input : List Byte) : Option (ControlAction × List Byte) :=
  match consumeControlInput input .none with
  | (true, rest, action) => some (action, rest)
  | (false, _, _) => none

theorem scanControl_iff {input rest : List Byte} {action : ControlAction} :
    scanControl input = some (action, rest) ↔ Takes input action rest := by
  constructor
  · intro h
    unfold scanControl at h
    split at h
    · rename_i hconsume
      obtain ⟨rfl, rfl⟩ := h
      exact takes_of_consumeControlInput hconsume
    · simp at h
  · intro h
    rw [scanControl, consumeControlInput_of_takes h]

theorem scanControl_front {input rest : List Byte} {action : ControlAction}
    (h : scanControl input = some (action, rest)) : ∃ front, front ≠ [] ∧ input = front ++ rest :=
  (scanControl_iff.mp h).front

theorem scanControl_append {input rest : List Byte} {action : ControlAction} (later : List Byte)
    (h : scanControl input = some (action, rest)) :
    scanControl (input ++ later) = some (action, rest ++ later) :=
  scanControl_iff.mpr ((scanControl_iff.mp h).append later)

/-- `consumeControlInput` as a scanner. -/
def control : Scanner Byte ControlAction where
  scan := scanControl
  consumes := scanControl_front
  stable := scanControl_append

/-- The pending input, one call after the other until one returns false: the actions,
and the bytes that wait. -/
def consumePending (pendingInput : List Byte) : List ControlAction × List Byte :=
  control.drain pendingInput

/-- A read of the terminal: the actions so far and the bytes that wait. -/
def readInput (before : List ControlAction × List Byte) (chunk : List Byte) :
    List ControlAction × List Byte :=
  let r := consumePending (before.2 ++ chunk)
  (before.1 ++ r.1, r.2)

/-- The actions and the bytes that wait are those of the whole input, wherever the reads
end; every call that returns true takes something off, one that returns false nothing,
and after at most a call for each byte one returns false. -/
theorem readInput_pieces :
    (∀ chunks : List (List Byte), chunks.foldl readInput ([], []) = consumePending chunks.flatten) ∧
    (∀ input rest action action', consumeControlInput input action = (true, rest, action') →
      ∃ front, front ≠ [] ∧ input = front ++ rest) ∧
    (∀ input left action action', consumeControlInput input action = (false, left, action') →
      left = input) ∧
    ∀ input action, (consumeControlInput (consumePending input).2 action).1 = false ∧
      (consumePending input).1.length ≤ input.length := by
  refine ⟨control.feed_pieces, ?_, ?_, ?_⟩
  · intro input rest action action' h
    exact (takes_of_consumeControlInput h).front
  · intro input left action action' h
    obtain ⟨_, _, heq, _⟩ | ⟨_, heq⟩ := consumeControlInput_cases input action
    · rw [h] at heq
      simp at heq
    · rw [h] at heq
      simp_all
  · intro input action
    refine ⟨?_, control.length_drain input⟩
    obtain ⟨_, _, heq, htakes⟩ | ⟨_, heq⟩ :=
      consumeControlInput_cases (consumePending input).2 action
    · have hwaits : scanControl (consumePending input).2 = none := control.scan_drain input
      rw [scanControl_iff.mpr htakes] at hwaits
      cases hwaits
    · rw [heq]

end TurboMac.Top
