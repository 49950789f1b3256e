import TurboMac.Lib.Retry
import TurboMac.Linux.FanFloor

/-! # Failed writes of the fan floor

`apply` remembers one failed write of each fan. Each fan is a slot that serves what
the calls want of it, and a value is retried early exactly where a slot may do so.
-/

namespace TurboMac.Linux

open Retry

/-- Not a write to fan `n`, nor the failure of one. -/
def FanEvent.Spares (n : ℕ) : FanEvent → Prop
  | .writeMin m _ | .floorError m _ _ => m ≠ n
  | _ => True

namespace FanController

/-- What is remembered of a fan. -/
def slot (c : FanController) (n : ℕ) : Retry.Slot ℤ ℚ := ⟨c.written n, c.failed n⟩

/-- Whether a write of `rpm` will land. -/
def lands (fan : Fan) (rpm : ℤ) (answers : FanAnswers) : Bool :=
  match answers.writeError with
  | some _ => false
  | none => (landed rpm fan.max answers.readback).isNone

/-- A call, or a part of one, that does not serve fan `n`. -/
structure Spared (n : ℕ) (c c' : FanController) : Prop where
  fans : c'.fans = c.fans
  defaults : c'.defaults = c.defaults
  slot : c'.slot n = c.slot n
  trace : ∃ new, c'.trace = new ++ c.trace ∧ ∀ e ∈ new, e.Spares n

/-- One that serves it once. -/
structure Served (n : ℕ) (request : Retry.Request ℤ ℚ) (c c' : FanController) : Prop where
  fans : c'.fans = c.fans
  defaults : c'.defaults = c.defaults
  step : Retry.Step retryS (c.slot n) request (c'.slot n)
  trace : ∃ new, c'.trace = new ++ c.trace ∧
    (∀ v, .writeMin n v ∈ new ↔ (c.slot n).Writes retryS request ∧ request.want = v) ∧
    ∀ v, (∃ error, .floorError n v error ∈ new) ↔
      (c.slot n).Writes retryS request ∧ request.want = v ∧ request.lands = false

variable {n m : ℕ} {request : Retry.Request ℤ ℚ} {c c' c'' : FanController} {fan : Fan} {target maxRpm lo : ℤ}
  {now : ℚ} {answers : FanAnswers}

instance : IsPreorder FanController (Spared n) where
  refl c := ⟨rfl, rfl, rfl, [], rfl, by simp⟩
  trans c c' c'' h h' := by
    rcases h.trace with ⟨new, htrace, hspares⟩
    rcases h'.trace with ⟨new', htrace', hspares'⟩
    refine ⟨h'.fans.trans h.fans, h'.defaults.trans h.defaults, h'.slot.trans h.slot, new' ++ new, ?_, ?_⟩
    · rw [htrace', htrace, List.append_assoc]
    · intro e he
      rcases List.mem_append.1 he with he | he
      · exact hspares' e he
      · exact hspares e he

theorem not_writeMin_of_spares {new : List FanEvent} (h : ∀ e ∈ new, e.Spares n) (v : ℤ) :
    .writeMin n v ∉ new := by
  intro hmem
  exact h _ hmem rfl

theorem not_floorError_of_spares {new : List FanEvent} (h : ∀ e ∈ new, e.Spares n) (v : ℤ)
    (error : FanError) : .floorError n v error ∉ new := by
  intro hmem
  exact h _ hmem rfl

/-- A fan that is served has been spared before. -/
theorem Served.after (h' : Served n request c' c'') (h : Spared n c c') : Served n request c c'' := by
  rcases h.trace with ⟨new, htrace, hspares⟩
  rcases h'.trace with ⟨new', htrace', hwrites, hfails⟩
  rw [h.slot] at hwrites hfails
  refine ⟨h'.fans.trans h.fans, h'.defaults.trans h.defaults, ?_, new' ++ new, ?_, ?_, ?_⟩
  · rw [← h.slot]
    exact h'.step
  · rw [htrace', htrace, List.append_assoc]
  · intro v
    rw [← hwrites v, List.mem_append, or_iff_left (not_writeMin_of_spares hspares v)]
  · intro v
    rw [← hfails v]
    simp [not_floorError_of_spares hspares v]

/-- And is spared afterwards. -/
theorem Served.before (h : Served n request c c') (h' : Spared n c' c'') : Served n request c c'' := by
  rcases h.trace with ⟨new, htrace, hwrites, hfails⟩
  rcases h'.trace with ⟨new', htrace', hspares⟩
  refine ⟨h'.fans.trans h.fans, h'.defaults.trans h.defaults, ?_, new' ++ new, ?_, ?_, ?_⟩
  · rw [h'.slot]
    exact h.step
  · rw [htrace', htrace, List.append_assoc]
  · intro v
    rw [← hwrites v, List.mem_append, or_iff_right (not_writeMin_of_spares hspares v)]
  · intro v
    rw [← hfails v]
    simp [not_floorError_of_spares hspares v]

/-! ## One fan -/

theorem write_lands (c : FanController) (n : ℕ) (fan : Fan) (rpm : ℤ) (answers : FanAnswers) :
    (c.write n fan rpm answers).1.isNone = lands fan rpm answers := by
  unfold write lands
  cases answers.writeError <;> rfl

theorem waits_iff (c : FanController) (n : ℕ) (want : ℤ) (now : ℚ) :
    c.waits n want now = true ↔ (c.slot n).Waits retryS want now := by
  unfold waits Slot.Waits slot
  dsimp only
  cases c.failed n with
  | none => simp
  | some failed =>
      rcases failed with ⟨rpm, since⟩
      simp

/-- What `apply` wants of a fan. -/
def wanted (lo : ℤ) (fan : Fan) (target maxRpm : ℤ) (now : ℚ) (answers : FanAnswers) :
    Retry.Request ℤ ℚ :=
  ⟨clamp lo fan.max target maxRpm, now, lands fan (clamp lo fan.max target maxRpm) answers⟩

/-- What `apply` does with a fan: nothing, or a write that lands, or one that fails, perhaps
after it has been read back. -/
theorem applyFan_cases (hlo : c.defaults n = some lo) :
    (¬ (c.slot n).Writes retryS (wanted lo fan target maxRpm now answers) ∧
      (c.applyFan n fan target maxRpm now answers).2 = c) ∨
    ((c.slot n).Writes retryS (wanted lo fan target maxRpm now answers) ∧
      (wanted lo fan target maxRpm now answers).lands = true ∧ ∃ r,
      (c.applyFan n fan target maxRpm now answers).2 =
        { c with
          written := Function.update c.written n (some (clamp lo fan.max target maxRpm))
          failed := Function.update c.failed n none
          trace := .readMin n r :: .writeMin n (clamp lo fan.max target maxRpm) :: c.trace }) ∨
    ((c.slot n).Writes retryS (wanted lo fan target maxRpm now answers) ∧
      (wanted lo fan target maxRpm now answers).lands = false ∧ ∃ error reads,
      (∀ e ∈ reads, ∃ r, e = .readMin n r) ∧ (c.applyFan n fan target maxRpm now answers).2 =
        { c with
          written := Function.update c.written n none
          failed := Function.update c.failed n (some (clamp lo fan.max target maxRpm, now))
          writeErrors := c.writeErrors + 1
          trace := .floorError n (clamp lo fan.max target maxRpm) error :: (reads ++
            .writeMin n (clamp lo fan.max target maxRpm) :: c.trace) }) := by
  have hlands := write_lands c n fan (clamp lo fan.max target maxRpm) answers
  have hwaits := waits_iff c n (clamp lo fan.max target maxRpm) now
  unfold applyFan wanted Slot.Writes
  rw [hlo]
  dsimp only
  rw [← hwaits]
  by_cases hskip : c.written n = some (clamp lo fan.max target maxRpm) ∨
      c.waits n (clamp lo fan.max target maxRpm) now = true
  · left
    rw [if_pos hskip]
    refine ⟨?_, rfl⟩
    rintro ⟨hwritten, hwait⟩
    exact hskip.elim hwritten hwait
  · right
    rw [if_neg hskip]
    have hwrites := not_or.1 hskip
    generalize clamp lo fan.max target maxRpm = want at hlands hwrites ⊢
    rcases write_cases c n fan want answers with ⟨r, -, heq⟩ | ⟨error, heq | heq⟩
    · rw [heq] at hlands ⊢
      exact .inl ⟨hwrites, hlands.symm, some r, rfl⟩
    · rw [heq] at hlands ⊢
      exact .inr ⟨hwrites, hlands.symm, error, [], by simp, rfl⟩
    · rw [heq] at hlands ⊢
      exact .inr ⟨hwrites, hlands.symm, error, [.readMin n answers.readback], by simp, rfl⟩

theorem applyFan_spared (h : c.defaults n ≠ none → m ≠ n) :
    Spared n c (c.applyFan m fan target maxRpm now answers).2 := by
  cases hdefault : c.defaults m with
  | none =>
      have hsame : c.applyFan m fan target maxRpm now answers = (false, c) := by
        rw [applyFan, hdefault]
      rw [hsame]
      exact refl_of _ c
  | some lo =>
      have hm : m ≠ n := by
        rintro rfl
        exact h (by simp [hdefault]) rfl
      have hslot : ∀ {written : Option ℤ} {failed : Option (ℤ × ℚ)},
          (⟨Function.update c.written m written n, Function.update c.failed m failed n⟩ : Retry.Slot ℤ ℚ) =
            c.slot n := by
        intro written failed
        rw [Function.update_of_ne hm.symm, Function.update_of_ne hm.symm]
        rfl
      rcases @applyFan_cases m c fan target maxRpm lo now answers hdefault with
        ⟨-, h⟩ | ⟨-, -, r, h⟩ | ⟨-, -, error, reads, hreads, h⟩
      · rw [h]
        exact refl_of _ c
      · rw [h]
        refine ⟨rfl, rfl, hslot, [_, _], rfl, ?_⟩
        simp [FanEvent.Spares, hm]
      · rw [h]
        refine ⟨rfl, rfl, hslot, .floorError m (clamp lo fan.max target maxRpm) error ::
          (reads ++ [.writeMin m (clamp lo fan.max target maxRpm)]), by simp, ?_⟩
        intro e he
        rcases List.mem_cons.1 he with rfl | he
        · exact hm
        rcases List.mem_append.1 he with he | he
        · rcases hreads e he with ⟨r, rfl⟩
          trivial
        · rw [List.mem_singleton.1 he]
          exact hm

theorem applyFan_served (hlo : c.defaults n = some lo) :
    Served n (wanted lo fan target maxRpm now answers) c
      (c.applyFan n fan target maxRpm now answers).2 := by
  have hslot : ∀ {written : Option ℤ} {failed : Option (ℤ × ℚ)},
      (⟨Function.update c.written n written n, Function.update c.failed n failed n⟩ : Retry.Slot ℤ ℚ) =
        ⟨written, failed⟩ := by
    intro written failed
    rw [Function.update_self, Function.update_self]
  have hwant : (wanted lo fan target maxRpm now answers).want = clamp lo fan.max target maxRpm := rfl
  rcases @applyFan_cases n c fan target maxRpm lo now answers hlo with
    ⟨hquiet, h⟩ | ⟨hwrites, hlands, r, h⟩ | ⟨hwrites, hlands, error, reads, hreads, h⟩
  · rw [h]
    refine ⟨rfl, rfl, ⟨fun _ => rfl, ?_, ?_⟩, [], rfl, ?_, ?_⟩
    · intro hwrites
      exact absurd hwrites hquiet
    · intro hwrites
      exact absurd hwrites hquiet
    · simp [hquiet]
    · simp [hquiet]
  · rw [h]
    refine ⟨rfl, rfl, ⟨?_, fun _ _ => hslot, ?_⟩, [_, _], rfl, ?_, ?_⟩
    · intro hquiet
      exact absurd hwrites hquiet
    · intro _ hfails
      rw [hlands] at hfails
      cases hfails
    · intro v
      simp [hwrites, hwant, eq_comm]
    · simp [hlands]
  · rw [h]
    have hreads' : ∀ e, (∀ r, e ≠ .readMin n r) → e ∉ reads := by
      intro e hne hmem
      rcases hreads e hmem with ⟨r, rfl⟩
      exact hne r rfl
    refine ⟨rfl, rfl, ⟨?_, ?_, fun _ _ => hslot⟩, .floorError n (clamp lo fan.max target maxRpm) error ::
      (reads ++ [.writeMin n (clamp lo fan.max target maxRpm)]), by simp, ?_, ?_⟩
    · intro hquiet
      exact absurd hwrites hquiet
    · intro _ hlands'
      rw [hlands] at hlands'
      cases hlands'
    · intro v
      have hread := hreads' (.writeMin n v) (by simp)
      simp [hwrites, hwant, hread, eq_comm]
    · intro v
      have hread : ∀ error, .floorError n v error ∉ reads := fun error => hreads' _ (by simp)
      simp [hwrites, hlands, hwant, hread, eq_comm]

/-! ## The calls -/

theorem spared_applyFans {answers : ℕ → FanAnswers} {fans : List (ℕ × Fan)} (changed : Bool)
    (c : FanController) (hn : c.defaults n ≠ none → n ∉ fans.map Prod.fst) :
    Spared n c (applyFans target maxRpm now answers fans changed c).2 := by
  induction fans generalizing changed c with
  | nil => exact refl_of _ c
  | cons item fans ih =>
      rcases item with ⟨m, fan⟩
      rw [List.map_cons, List.mem_cons, not_or] at hn
      have hone : Spared n c (c.applyFan m fan target maxRpm now (answers m)).2 :=
        applyFan_spared fun hdefault => Ne.symm (hn hdefault).1
      refine trans_of _ hone (ih _ _ ?_)
      rw [hone.defaults]
      exact fun hdefault => (hn hdefault).2

theorem served_applyFans {answers : ℕ → FanAnswers} {fans : List (ℕ × Fan)}
    (hnodup : (fans.map Prod.fst).Nodup) (hfan : (n, fan) ∈ fans) (changed : Bool)
    (c : FanController) (hlo : c.defaults n = some lo) :
    Served n (wanted lo fan target maxRpm now (answers n)) c
      (applyFans target maxRpm now answers fans changed c).2 := by
  induction fans generalizing changed c with
  | nil => cases hfan
  | cons item fans ih =>
      rcases item with ⟨m, fan'⟩
      rw [List.map_cons, List.nodup_cons] at hnodup
      rcases List.mem_cons.1 hfan with heq | hmem
      · cases heq
        exact (applyFan_served hlo).before (spared_applyFans _ _ fun _ => hnodup.1)
      · have hne : m ≠ n := by
          rintro rfl
          exact hnodup.1 (List.mem_map.2 ⟨_, hmem, rfl⟩)
        have hone : Spared n c (c.applyFan m fan' target maxRpm now (answers m)).2 :=
          applyFan_spared fun _ => hne
        exact (ih hnodup.2 hmem _ _ ((congrFun hone.defaults n).trans hlo)).after hone

theorem spared_changed {clock : ℚ} (c : FanController) :
    Spared n c { c with lastChange := some clock, trace := .floor target :: c.trace } :=
  ⟨rfl, rfl, rfl, [.floor target], rfl, by simp [FanEvent.Spares]⟩

/-- A call serves each fan with a default once. -/
theorem served_apply {answers : ℕ → FanAnswers} (hnodup : (c.fans.map Prod.fst).Nodup)
    (hfan : (n, fan) ∈ c.fans) (hlo : c.defaults n = some lo) :
    Served n (wanted lo fan target maxRpm now (answers n)) c (c.apply target maxRpm now answers) := by
  have hfans := @served_applyFans n fan target maxRpm lo now answers c.fans hnodup hfan false c hlo
  unfold apply
  generalize applyFans target maxRpm now answers c.fans false c = x at hfans ⊢
  rcases x with ⟨changed, c'⟩
  dsimp only at hfans ⊢
  split
  · exact hfans.before (spared_changed c')
  · exact hfans

/-- And no other fan. -/
theorem spared_apply {answers : ℕ → FanAnswers} (hn : c.defaults n ≠ none → n ∉ c.fans.map Prod.fst) :
    Spared n c (c.apply target maxRpm now answers) := by
  have hfans := @spared_applyFans n target maxRpm now answers c.fans false c hn
  unfold apply
  generalize applyFans target maxRpm now answers c.fans false c = x at hfans ⊢
  rcases x with ⟨changed, c'⟩
  dsimp only at hfans ⊢
  split
  · exact trans_of _ hfans (spared_changed c')
  · exact hfans

/-- A call serves a fan or does not. -/
theorem spared_or_served {answers : ℕ → FanAnswers} (hnodup : (c.fans.map Prod.fst).Nodup) (n : ℕ) :
    (Spared n c (c.apply target maxRpm now answers) ∧
      ¬ ∃ fan lo, (n, fan) ∈ c.fans ∧ c.defaults n = some lo) ∨
    ∃ fan lo, (n, fan) ∈ c.fans ∧ c.defaults n = some lo ∧
      Served n (wanted lo fan target maxRpm now (answers n)) c (c.apply target maxRpm now answers) := by
  by_cases hserved : ∃ fan lo, (n, fan) ∈ c.fans ∧ c.defaults n = some lo
  · rcases hserved with ⟨fan, lo, hfan, hlo⟩
    exact .inr ⟨fan, lo, hfan, hlo, served_apply hnodup hfan hlo⟩
  · refine .inl ⟨spared_apply ?_, hserved⟩
    intro hdefault hmem
    rcases List.mem_map.1 hmem with ⟨⟨m, fan⟩, hfan, rfl⟩
    rcases Option.ne_none_iff_exists'.1 hdefault with ⟨lo, hlo⟩
    exact hserved ⟨fan, lo, hfan, hlo⟩

end FanController

/-! ## Runs -/

/-- One call of `apply`. -/
structure ApplyCall where
  target : ℤ
  maxRpm : ℤ
  clock : ℚ
  answers : ℕ → FanAnswers

/-- Calls of `apply`, at nondecreasing times. -/
structure FanWrites where
  start : FanController
  nodup : (start.fans.map Prod.fst).Nodup
  calls : ℕ → ApplyCall
  mono : Monotone fun i => (calls i).clock

namespace FanWrites

variable (r : FanWrites)

/-- The controller before call `i`. -/
def controller : ℕ → FanController
  | 0 => r.start
  | i + 1 => (controller i).apply (r.calls i).target (r.calls i).maxRpm (r.calls i).clock
      (r.calls i).answers

/-- What call `i` does. -/
def events (i : ℕ) : List FanEvent := (r.controller i).events (r.controller (i + 1))

def Attempts (n : ℕ) (v : ℤ) (i : ℕ) : Prop := .writeMin n v ∈ r.events i

def Fails (n : ℕ) (v : ℤ) (i : ℕ) : Prop := ∃ error, .floorError n v error ∈ r.events i

def Succeeds (n : ℕ) (i : ℕ) : Prop := ∃ v, r.Attempts n v i ∧ ¬ r.Fails n v i

/-- Call `i` wants `v` of fan `n`. -/
def Wants (n : ℕ) (v : ℤ) (i : ℕ) : Prop :=
  ∃ fan lo, (n, fan) ∈ r.start.fans ∧ r.start.defaults n = some lo ∧
    FanController.clamp lo fan.max (r.calls i).target (r.calls i).maxRpm = v

/-- A value that has failed is not written again for half a minute, unless the fan is
written in between. -/
def RateLimited (n : ℕ) (v : ℤ) : Prop :=
  ∀ i j, i < j → r.Fails n v i → (r.calls j).clock < (r.calls i).clock + retryS → r.Attempts n v j →
    ∃ k, i < k ∧ k < j ∧ r.Succeeds n k

variable {r : FanWrites} {n : ℕ} {fan : Fan} {lo v : ℤ}

open FanController

theorem same_controller (r : FanWrites) (i : ℕ) :
    (r.controller i).fans = r.start.fans ∧ (r.controller i).defaults = r.start.defaults := by
  induction i with
  | zero => exact ⟨rfl, rfl⟩
  | succ i ih =>
      have hnodup : ((r.controller i).fans.map Prod.fst).Nodup := by
        rw [ih.1]
        exact r.nodup
      rcases @spared_or_served (r.controller i) (r.calls i).target (r.calls i).maxRpm (r.calls i).clock
        (r.calls i).answers hnodup 0 with ⟨h, -⟩ | ⟨fan, lo, -, -, h⟩
      · exact ⟨h.fans.trans ih.1, h.defaults.trans ih.2⟩
      · exact ⟨h.fans.trans ih.1, h.defaults.trans ih.2⟩

/-- What the calls want of a fan. -/
def requests (r : FanWrites) (n : ℕ) (fan : Fan) (lo : ℤ) (i : ℕ) : Retry.Request ℤ ℚ :=
  wanted lo fan (r.calls i).target (r.calls i).maxRpm (r.calls i).clock ((r.calls i).answers n)

theorem served (hfan : (n, fan) ∈ r.start.fans) (hlo : r.start.defaults n = some lo) (i : ℕ) :
    Served n (r.requests n fan lo i) (r.controller i) (r.controller (i + 1)) := by
  have hsame := r.same_controller i
  apply served_apply
  · rw [hsame.1]
    exact r.nodup
  · rw [hsame.1]
    exact hfan
  · rw [hsame.2]
    exact hlo

/-- Each fan is a slot that serves what the calls want of it. -/
theorem run_slot (hfan : (n, fan) ∈ r.start.fans) (hlo : r.start.defaults n = some lo) :
    Retry.Run retryS (fun i => (r.controller i).slot n) (r.requests n fan lo) where
  mono := r.mono
  step i := (served hfan hlo i).step

theorem attempts_iff (hfan : (n, fan) ∈ r.start.fans) (hlo : r.start.defaults n = some lo) (i : ℕ) :
    r.Attempts n v i ↔ ((r.controller i).slot n).Writes retryS (r.requests n fan lo i) ∧
      (r.requests n fan lo i).want = v := by
  rcases (served hfan hlo i).trace with ⟨new, htrace, hwrites, -⟩
  rw [Attempts, events, events_of_append htrace]
  exact hwrites v

theorem fails_iff (hfan : (n, fan) ∈ r.start.fans) (hlo : r.start.defaults n = some lo) (i : ℕ) :
    r.Fails n v i ↔
      Retry.FailsAt retryS (fun i => (r.controller i).slot n) (r.requests n fan lo) i v := by
  rcases (served hfan hlo i).trace with ⟨new, htrace, -, hfails⟩
  rw [Fails, events, events_of_append htrace]
  exact hfails v

theorem succeeds_iff (hfan : (n, fan) ∈ r.start.fans) (hlo : r.start.defaults n = some lo) (i : ℕ) :
    r.Succeeds n i ↔
      Retry.LandsAt retryS (fun i => (r.controller i).slot n) (r.requests n fan lo) i := by
  constructor
  · rintro ⟨v, hattempts, hsucceeds⟩
    rw [attempts_iff hfan hlo] at hattempts
    rw [fails_iff hfan hlo] at hsucceeds
    refine ⟨hattempts.1, ?_⟩
    by_contra hlands
    exact hsucceeds ⟨hattempts.1, hattempts.2, Bool.eq_false_iff.2 hlands⟩
  · rintro ⟨hwrites, hlands⟩
    refine ⟨_, (attempts_iff hfan hlo i).2 ⟨hwrites, rfl⟩, ?_⟩
    rw [fails_iff hfan hlo]
    rintro ⟨-, -, hfails⟩
    rw [hlands] at hfails
    cases hfails

theorem wants_iff (hfan : (n, fan) ∈ r.start.fans) (hlo : r.start.defaults n = some lo) (i : ℕ) :
    r.Wants n v i ↔ (r.requests n fan lo i).want = v := by
  constructor
  · rintro ⟨fan', lo', hfan', hlo', hwant⟩
    have hsame := List.inj_on_of_nodup_map r.nodup hfan hfan' rfl
    cases hsame
    rw [hlo] at hlo'
    cases hlo'
    exact hwant
  · intro hwant
    exact ⟨fan, lo, hfan, hlo, hwant⟩

theorem not_attempts (h : ¬ ∃ fan lo, (n, fan) ∈ r.start.fans ∧ r.start.defaults n = some lo) (i : ℕ) :
    ¬ r.Attempts n v i := by
  have hsame := r.same_controller i
  have hnodup : ((r.controller i).fans.map Prod.fst).Nodup := by
    rw [hsame.1]
    exact r.nodup
  rcases @spared_or_served (r.controller i) (r.calls i).target (r.calls i).maxRpm (r.calls i).clock
    (r.calls i).answers hnodup n with ⟨hspared, -⟩ | ⟨fan, lo, hfan, hlo, -⟩
  · rcases hspared.trace with ⟨new, htrace, hspares⟩
    have hevents : r.events i = new := events_of_append htrace
    rw [Attempts, hevents]
    exact not_writeMin_of_spares hspares v
  · rw [hsame.1] at hfan
    rw [hsame.2] at hlo
    exact absurd ⟨fan, lo, hfan, hlo⟩ h

/-- A value that has failed is left alone for half a minute exactly if no other value
fails before it is wanted again, unless the fan is written in between. -/
theorem fan_retry_iff (r : FanWrites) (n : ℕ) (v : ℤ) : r.RateLimited n v ↔
    ∀ i k j w, i < k → k < j → r.Fails n v i → r.Fails n w k → w ≠ v → r.Wants n v j →
      (r.calls j).clock < (r.calls i).clock + retryS → ∃ l, i < l ∧ l < j ∧ r.Succeeds n l := by
  by_cases hserved : ∃ fan lo, (n, fan) ∈ r.start.fans ∧ r.start.defaults n = some lo
  · rcases hserved with ⟨fan, lo, hfan, hlo⟩
    have hlimited := (run_slot hfan hlo).limited_iff v
    simp only [RateLimited, attempts_iff hfan hlo, fails_iff hfan hlo, succeeds_iff hfan hlo,
      wants_iff hfan hlo]
    have hclock : ∀ i j, (r.calls j).clock < (r.calls i).clock + retryS ↔
        (r.requests n fan lo j).now - (r.requests n fan lo i).now < retryS :=
      fun i j => sub_lt_iff_lt_add'.symm
    simp only [hclock]
    refine Iff.trans ?_ hlimited
    constructor
    · intro h i j hij hfails hwrites hwant hearly
      exact h i j hij hfails hearly ⟨hwrites, hwant⟩
    · intro h i j hij hfails hearly hattempts
      exact h i j hij hfails hattempts.1 hattempts.2 hearly
  · -- the fan is never written
    refine iff_of_true ?_ ?_
    · intro i j hij hfails hearly hattempts
      exact absurd hattempts (not_attempts hserved j)
    · rintro i k j w hik hkj hfails hfails' hne ⟨fan, lo, hfan, hlo, -⟩ hearly
      exact absurd ⟨fan, lo, hfan, hlo⟩ hserved

end FanWrites

/-- Writes of one fan fail, second after second, while the target changes and changes back. -/
def failingWrites : FanWrites where
  start := FanController.discovered [(1, ⟨"left", some 5927, none⟩)] (fun _ => some 2160) none
  nodup := by simp [FanController.discovered]
  calls i := ⟨if i % 2 = 0 then 3500 else 4500, 5900, i, fun _ => ⟨none, none, some "EIO", none⟩⟩
  mono := by
    intro i j hij
    exact Nat.cast_le.2 hij

/-- A value that has failed is written again after two seconds. -/
theorem failing_write_repeated : ¬ failingWrites.RateLimited 1 3500 := by
  intro h
  have hfails : failingWrites.Fails 1 3500 0 := by
    refine ⟨.write "EIO", ?_⟩
    decide +kernel
  have hattempts : failingWrites.Attempts 1 3500 2 := by
    unfold FanWrites.Attempts
    decide +kernel
  have hearly : (failingWrites.calls 2).clock < (failingWrites.calls 0).clock + retryS := by
    decide +kernel
  rcases h 0 2 (by omega) hfails hearly hattempts with ⟨k, hik, hkj, v, hattempt, hsucceeds⟩
  have hk : k = 1 := by omega
  subst hk
  have hevents : failingWrites.events 1 =
      [.floorError 1 4500 (.write "EIO"), .writeMin 1 4500] := by decide +kernel
  rw [FanWrites.Attempts, hevents] at hattempt
  have hv : v = 4500 := by simpa using hattempt
  apply hsucceeds
  refine ⟨.write "EIO", ?_⟩
  rw [hevents, hv]
  exact List.mem_cons_self

end TurboMac.Linux
