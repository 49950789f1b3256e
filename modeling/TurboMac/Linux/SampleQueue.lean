import Mathlib.Data.List.Nodup
import TurboMac.Lib.Interleaving

/-! # `logger.py`: the queue between the control loop and the writer

`SampleLogger.write` and `_writer_loop` as two parties that take turns in any order;
each operation on the queue and each access to `_backlog` is a step of its own. A
record is known by the number of the call of `write` that has brought it. Left out
are `close`, which puts the `None` that ends the loop, and `task_done`, which `drain`
counts by. What a write of a record to the file does is in `writeNow`.
-/

namespace TurboMac.Linux

/-- `QUEUE_MAX`. -/
def queueMax : ℕ := 120

/-- Where the control loop is, with the record of its call. -/
inductive ProducerAt where
  | idle
  /-- the first put has raised `Full`, with so many records queued -/
  | full (rec found : ℕ)
  /-- before `_backlog` is read -/
  | checking (rec : ℕ)
  /-- before `_backlog` is set -/
  | setting (rec : ℕ)
  /-- before `log_backlog` -/
  | reporting (rec : ℕ)
  /-- before the second put -/
  | retrying (rec : ℕ)
deriving DecidableEq, Repr

/-- Where the writer thread is. -/
inductive WriterAt where
  | getting
  | writing (rec : ℕ)
  /-- before `_backlog` is read -/
  | checking
  /-- before `qsize` -/
  | measuring
  /-- before `_backlog` is cleared -/
  | clearing
deriving DecidableEq, Repr

/-- The record that the writer has in hand. -/
def WriterAt.inHand : WriterAt → Option ℕ
  | .writing rec => some rec
  | _ => none

/-- A record that a call has taken out of the queue, with what was there at that moment. -/
structure Drop where
  call : ℕ
  found : ℕ
  record : ℕ
  queued : List ℕ
  inHand : Option ℕ
deriving DecidableEq, Repr

/-- The shared state, the two parties, and what has happened: the number of calls, the
records the writer has taken, those that were dropped, and how often `log_backlog` was
reported. -/
structure SampleQueue where
  queue : List ℕ
  backlog : Bool
  producer : ProducerAt
  writer : WriterAt
  calls : ℕ
  taken : List ℕ
  dropped : List Drop
  backlogs : ℕ
deriving DecidableEq, Repr

/-- Who takes the next step. -/
inductive Party where
  | producer
  | writer
deriving DecidableEq, Repr

namespace SampleQueue

/-- Before the first record. -/
def start : SampleQueue := ⟨[], false, .idle, .getting, 0, [], [], 0⟩

/-- The next step of `write`; from `idle` on, the next call. -/
def produce (s : SampleQueue) : SampleQueue :=
  match s.producer with
  | .idle =>
    if s.queue.length < queueMax then
      { s with queue := s.queue ++ [s.calls], calls := s.calls + 1 }
    else { s with producer := .full s.calls s.queue.length, calls := s.calls + 1 }
  | .full rec found =>
    match s.queue with
    | [] => { s with producer := .checking rec }
    | oldest :: queue =>
      { s with
        queue := queue
        dropped := s.dropped ++ [⟨rec, found, oldest, s.queue, s.writer.inHand⟩]
        producer := .checking rec }
  | .checking rec =>
    if s.backlog then { s with producer := .retrying rec } else { s with producer := .setting rec }
  | .setting rec => { s with backlog := true, producer := .reporting rec }
  | .reporting rec => { s with backlogs := s.backlogs + 1, producer := .retrying rec }
  | .retrying rec =>
    if s.queue.length < queueMax then { s with queue := s.queue ++ [rec], producer := .idle }
    else { s with producer := .idle }

/-- The next step of `_writer_loop`, which waits while the queue is empty. -/
def consume (s : SampleQueue) : Option SampleQueue :=
  match s.writer with
  | .getting =>
    match s.queue with
    | [] => none
    | rec :: queue =>
      some { s with queue := queue, taken := s.taken ++ [rec], writer := .writing rec }
  | .writing _ => some { s with writer := .checking }
  | .checking => some { s with writer := if s.backlog then .measuring else .getting }
  | .measuring =>
    some { s with writer := if s.queue.length < queueMax / 2 then .clearing else .getting }
  | .clearing => some { s with backlog := false, writer := .getting }

/-- A step of a party, if it can take one. -/
def step (s : SampleQueue) : Party → Option SampleQueue
  | .producer => some s.produce
  | .writer => s.consume

/-! ## Every step -/

/-- What a step finds and what it changes. -/
inductive Step (s : SampleQueue) : Party → SampleQueue → Prop where
  | put (hat : s.producer = .idle) (hroom : s.queue.length < queueMax) :
      Step s .producer { s with queue := s.queue ++ [s.calls], calls := s.calls + 1 }
  | putFull (hat : s.producer = .idle) (hfull : ¬ s.queue.length < queueMax) :
      Step s .producer
        { s with producer := .full s.calls s.queue.length, calls := s.calls + 1 }
  | dropNone {rec found : ℕ} (hat : s.producer = .full rec found) (hqueue : s.queue = []) :
      Step s .producer { s with producer := .checking rec }
  | dropOldest {rec found oldest : ℕ} {queue : List ℕ} (hat : s.producer = .full rec found)
      (hqueue : s.queue = oldest :: queue) :
      Step s .producer
        { s with
          queue := queue
          dropped := s.dropped ++ [⟨rec, found, oldest, s.queue, s.writer.inHand⟩]
          producer := .checking rec }
  | knowsBacklog {rec : ℕ} (hat : s.producer = .checking rec) (hbacklog : s.backlog = true) :
      Step s .producer { s with producer := .retrying rec }
  | newBacklog {rec : ℕ} (hat : s.producer = .checking rec) (hbacklog : s.backlog = false) :
      Step s .producer { s with producer := .setting rec }
  | setBacklog {rec : ℕ} (hat : s.producer = .setting rec) :
      Step s .producer { s with backlog := true, producer := .reporting rec }
  | report {rec : ℕ} (hat : s.producer = .reporting rec) :
      Step s .producer { s with backlogs := s.backlogs + 1, producer := .retrying rec }
  | retry {rec : ℕ} (hat : s.producer = .retrying rec) (hroom : s.queue.length < queueMax) :
      Step s .producer { s with queue := s.queue ++ [rec], producer := .idle }
  | giveUp {rec : ℕ} (hat : s.producer = .retrying rec) (hfull : ¬ s.queue.length < queueMax) :
      Step s .producer { s with producer := .idle }
  | get {rec : ℕ} {queue : List ℕ} (hat : s.writer = .getting) (hqueue : s.queue = rec :: queue) :
      Step s .writer { s with queue := queue, taken := s.taken ++ [rec], writer := .writing rec }
  | written {rec : ℕ} (hat : s.writer = .writing rec) :
      Step s .writer { s with writer := .checking }
  | check (hat : s.writer = .checking) :
      Step s .writer { s with writer := if s.backlog then .measuring else .getting }
  | measure (hat : s.writer = .measuring) :
      Step s .writer
        { s with writer := if s.queue.length < queueMax / 2 then .clearing else .getting }
  | clear (hat : s.writer = .clearing) :
      Step s .writer { s with backlog := false, writer := .getting }

variable {s s' : SampleQueue} {p : Party}

theorem step_produce (s : SampleQueue) : Step s .producer s.produce := by
  unfold produce
  split
  · rename_i hat
    split_ifs with hroom
    · exact .put hat hroom
    · exact .putFull hat hroom
  · rename_i rec found hat
    split
    · rename_i hqueue
      exact .dropNone hat hqueue
    · rename_i oldest queue hqueue
      exact .dropOldest hat hqueue
  · rename_i rec hat
    split_ifs with hbacklog
    · exact .knowsBacklog hat hbacklog
    · exact .newBacklog hat (Bool.not_eq_true _ ▸ hbacklog)
  · rename_i rec hat
    exact .setBacklog hat
  · rename_i rec hat
    exact .report hat
  · rename_i rec hat
    split_ifs with hroom
    · exact .retry hat hroom
    · exact .giveUp hat hroom

theorem step_consume (h : s.consume = some s') : Step s .writer s' := by
  unfold consume at h
  split at h
  · rename_i hat
    split at h
    · cases h
    · rename_i rec queue hqueue
      cases h
      exact .get hat hqueue
  · rename_i rec hat
    cases h
    exact .written hat
  · rename_i hat
    cases h
    exact .check hat
  · rename_i hat
    cases h
    exact .measure hat
  · rename_i hat
    cases h
    exact .clear hat

theorem step_cases (h : s.step p = some s') : Step s p s' := by
  cases p with
  | producer =>
      cases h
      exact step_produce s
  | writer => exact step_consume h

/-! ## Room -/

/-- Past `get_nowait` there is room for one more. -/
def HasRoom : ProducerAt → Prop
  | .idle | .full _ _ => False
  | _ => True

/-- The queue has at most its bound, and less while the control loop has made room. -/
structure Room (s : SampleQueue) : Prop where
  le_max : s.queue.length ≤ queueMax
  lt_max : HasRoom s.producer → s.queue.length < queueMax

theorem room_start : start.Room := ⟨Nat.zero_le _, fun h => absurd h id⟩

theorem Step.room (h : Step s p s') (hr : s.Room) : s'.Room := by
  obtain ⟨hle, hlt⟩ := hr
  have hpos : 0 < queueMax := by decide
  cases h with
  | put hat hroom =>
      refine ⟨?_, ?_⟩
      · simp only [List.length_append, List.length_singleton]
        omega
      · simp only [hat]
        exact False.elim
  | putFull hat hfull => exact ⟨hle, False.elim⟩
  | dropNone hat hqueue =>
      refine ⟨hle, fun _ => ?_⟩
      simp only [hqueue, List.length_nil]
      exact hpos
  | dropOldest hat hqueue =>
      rw [hqueue, List.length_cons] at hle
      refine ⟨?_, fun _ => ?_⟩
      · simp only
        omega
      · simp only
        omega
  | knowsBacklog hat _ | newBacklog hat _ | setBacklog hat | report hat =>
      rw [hat] at hlt
      exact ⟨hle, fun _ => hlt trivial⟩
  | retry hat hroom =>
      refine ⟨?_, False.elim⟩
      simp only [List.length_append, List.length_singleton]
      omega
  | giveUp hat hfull => exact ⟨hle, False.elim⟩
  | get hat hqueue =>
      rw [hqueue, List.length_cons] at hle hlt
      refine ⟨?_, fun hroom => ?_⟩
      · simp only
        omega
      · have hlen := hlt hroom
        simp only
        omega
  | written hat | check hat | measure hat | clear hat => exact ⟨hle, hlt⟩

/-! ## Order -/

/-- The record of the call, until it is in the queue. -/
def pending : ProducerAt → List ℕ
  | .idle => []
  | .full rec _ | .checking rec | .setting rec | .reporting rec | .retrying rec => [rec]

/-- All records that are not dropped, in the order in which they were, or will be, taken. -/
def line (s : SampleQueue) : List ℕ := s.taken ++ s.queue ++ pending s.producer

/-- The records are in the order of their calls, and each of them is in line or dropped. -/
structure Lined (s : SampleQueue) : Prop where
  increasing : s.line.Pairwise (· < ·)
  lt_calls : ∀ r ∈ s.line, r < s.calls
  accounted : ∀ r < s.calls, r ∈ s.line ∨ ∃ d ∈ s.dropped, d.record = r
  gone : ∀ d ∈ s.dropped, d.record < s.calls ∧ d.record ∉ s.line

theorem lined_start : start.Lined where
  increasing := List.Pairwise.nil
  lt_calls := by simp [line, start, pending]
  accounted := by simp [start]
  gone := by simp [start]

theorem Lined.same (h : s.Lined) (hline : s'.line = s.line) (hcalls : s'.calls = s.calls)
    (hdropped : s'.dropped = s.dropped) : s'.Lined := by
  obtain ⟨hinc, hlt, hacc, hgone⟩ := h
  rw [← hline] at hinc hlt hacc hgone
  rw [← hcalls] at hlt hacc hgone
  rw [← hdropped] at hacc hgone
  exact ⟨hinc, hlt, hacc, hgone⟩

/-- A new call brings the next record. -/
theorem Lined.begin (h : s.Lined) (hline : s'.line = s.line ++ [s.calls])
    (hcalls : s'.calls = s.calls + 1) (hdropped : s'.dropped = s.dropped) : s'.Lined := by
  constructor
  · rw [hline, List.pairwise_append]
    refine ⟨h.increasing, List.pairwise_singleton _ _, ?_⟩
    intro r hr r' hr'
    rw [List.mem_singleton] at hr'
    rw [hr']
    exact h.lt_calls r hr
  · intro r hr
    rw [hline, List.mem_append, List.mem_singleton] at hr
    rcases hr with hr | rfl
    · have hlt := h.lt_calls r hr
      omega
    · omega
  · intro r hr
    rw [hline, hdropped, List.mem_append, List.mem_singleton]
    rcases Nat.lt_or_ge r s.calls with hold | hnew
    · exact (h.accounted r hold).imp .inl id
    · left
      right
      omega
  · intro d hd
    rw [hdropped] at hd
    obtain ⟨hlt, hnot⟩ := h.gone d hd
    rw [hline, List.mem_append, List.mem_singleton, not_or]
    refine ⟨?_, hnot, ?_⟩
    · omega
    · omega

/-- A record is dropped out of the line. -/
theorem Lined.drop (h : s.Lined) {before after : List ℕ} {d : Drop}
    (hline : s.line = before ++ d.record :: after) (hline' : s'.line = before ++ after)
    (hcalls : s'.calls = s.calls) (hdropped : s'.dropped = s.dropped ++ [d]) : s'.Lined := by
  obtain ⟨hinc, hlt, hacc, hgone⟩ := h
  rw [hline] at hinc hlt hacc hgone
  have hsub : (before ++ after).Sublist (before ++ d.record :: after) :=
    List.Sublist.append_left (List.sublist_cons_self _ _) before
  constructor
  · rw [hline']
    exact hinc.sublist hsub
  · intro r hr
    rw [hline'] at hr
    rw [hcalls]
    exact hlt r (hsub.subset hr)
  · intro r hr
    rw [hcalls] at hr
    rw [hline', hdropped]
    rcases hacc r hr with hmem | ⟨d', hd', heq⟩
    · rw [List.mem_append, List.mem_cons] at hmem
      rcases hmem with hmem | rfl | hmem
      · exact .inl (List.mem_append_left _ hmem)
      · exact .inr ⟨d, List.mem_append_right _ (List.mem_singleton_self d), rfl⟩
      · exact .inl (List.mem_append_right _ hmem)
    · exact .inr ⟨d', List.mem_append_left _ hd', heq⟩
  · intro d' hd'
    rw [hdropped, List.mem_append, List.mem_singleton] at hd'
    rw [hcalls, hline']
    rcases hd' with hd' | rfl
    · have hold := hgone d' hd'
      exact ⟨hold.1, fun hmem => hold.2 (hsub.subset hmem)⟩
    · refine ⟨hlt _ (List.mem_append_right _ List.mem_cons_self), ?_⟩
      -- a strictly increasing list has the record once
      rw [List.pairwise_append, List.pairwise_cons] at hinc
      intro hmem
      rcases List.mem_append.1 hmem with hmem | hmem
      · exact lt_irrefl _ (hinc.2.2 _ hmem _ List.mem_cons_self)
      · exact lt_irrefl _ (hinc.2.1.1 _ hmem)

theorem Step.lined (h : Step s p s') (hr : s.Room) (hl : s.Lined) : s'.Lined := by
  cases h with
  | put hat hroom =>
      apply hl.begin
      · simp [line, hat, pending]
      · rfl
      · rfl
  | putFull hat hfull =>
      apply hl.begin
      · simp [line, hat, pending]
      · rfl
      · rfl
  | @dropOldest rec found oldest queue hat hqueue =>
      refine @Lined.drop s _ hl s.taken (queue ++ [rec])
        ⟨rec, found, oldest, s.queue, s.writer.inHand⟩ ?_ ?_ rfl rfl
      · simp [line, hat, pending, hqueue]
      · simp [line, pending]
  | dropNone hat _ | knowsBacklog hat _ | newBacklog hat _ | setBacklog hat | report hat =>
      apply hl.same
      · simp [line, hat, pending]
      · rfl
      · rfl
  | retry hat hroom =>
      apply hl.same
      · simp [line, hat, pending]
      · rfl
      · rfl
  | giveUp hat hfull =>
      -- there is room for the second `put`
      have hlt := hr.lt_max
      rw [hat] at hlt
      exact absurd (hlt trivial) hfull
  | get hat hqueue =>
      apply hl.same
      · simp [line, hqueue]
      · rfl
      · rfl
  | written hat | check hat | measure hat | clear hat => exact hl.same rfl rfl rfl

/-! ## What is dropped -/

/-- A drop is of the oldest record, by a call that has found the queue full, and not of
the record in hand. -/
structure Rightful (d : Drop) : Prop where
  full : d.found = queueMax
  oldest : d.queued.head? = some d.record
  le_queued : ∀ r ∈ d.queued, d.record ≤ r
  notInHand : d.inHand ≠ some d.record

structure Drops (s : SampleQueue) : Prop where
  rightful : ∀ d ∈ s.dropped, Rightful d
  once : (s.dropped.map Drop.call).Nodup
  call_lt : ∀ d ∈ s.dropped, d.call < s.calls
  inHand_taken : ∀ r, s.writer.inHand = some r → r ∈ s.taken
  /-- a call that has found the queue full has dropped nothing yet -/
  current : ∀ rec found, s.producer = .full rec found →
    found = queueMax ∧ rec < s.calls ∧ ∀ d ∈ s.dropped, d.call ≠ rec

theorem drops_start : start.Drops where
  rightful := by simp [start]
  once := by simp [start]
  call_lt := by simp [start]
  inHand_taken := by simp [start, WriterAt.inHand]
  current := by simp [start]

theorem Drops.same (h : s.Drops) (hdropped : s'.dropped = s.dropped) (hcalls : s.calls ≤ s'.calls)
    (hinHand : ∀ r, s'.writer.inHand = some r → r ∈ s'.taken)
    (hcurrent : ∀ rec found, s'.producer = .full rec found →
      found = queueMax ∧ rec < s'.calls ∧ ∀ d ∈ s.dropped, d.call ≠ rec) : s'.Drops := by
  obtain ⟨hrightful, honce, hlt, -, -⟩ := h
  constructor
  · rw [hdropped]
    exact hrightful
  · rw [hdropped]
    exact honce
  · rw [hdropped]
    intro d hd
    exact (hlt d hd).trans_le hcalls
  · exact hinHand
  · rw [hdropped]
    exact hcurrent

/-- The oldest record is before all that are queued and after all that are taken. -/
theorem Lined.rightful (hl : s.Lined) (hd : s.Drops) (rec : ℕ) {oldest : ℕ} {queue : List ℕ}
    (hqueue : s.queue = oldest :: queue) :
    Rightful ⟨rec, queueMax, oldest, s.queue, s.writer.inHand⟩ := by
  have hinc := hl.increasing
  rw [line, hqueue, List.append_assoc, List.pairwise_append] at hinc
  constructor
  · rfl
  · show s.queue.head? = some oldest
    rw [hqueue, List.head?_cons]
  · show ∀ r ∈ s.queue, oldest ≤ r
    rw [hqueue]
    intro r hr
    rcases List.mem_cons.1 hr with rfl | hr
    · exact le_refl r
    · exact ((List.pairwise_cons.1 hinc.2.1).1 r (List.mem_append_left _ hr)).le
  · intro hinHand
    have htaken := hd.inHand_taken oldest hinHand
    exact lt_irrefl _ (hinc.2.2 oldest htaken oldest List.mem_cons_self)

theorem Step.drops (h : Step s p s') (hr : s.Room) (hl : s.Lined) (hd : s.Drops) : s'.Drops := by
  cases h with
  | put hat _ =>
      refine hd.same rfl (Nat.le_succ _) hd.inHand_taken ?_
      intro rec found hfull
      rw [show _ = s.producer from rfl, hat] at hfull
      cases hfull
  | putFull hat hfull =>
      refine hd.same rfl (Nat.le_succ _) hd.inHand_taken ?_
      intro rec found hat'
      cases hat'
      have hle := hr.le_max
      refine ⟨by omega, Nat.lt_succ_self _, ?_⟩
      intro d hmem
      exact (hd.call_lt d hmem).ne
  | @dropOldest rec found oldest queue hat hqueue =>
      -- the call has found the queue full, and this is its only drop
      obtain ⟨rfl, hlt, hfresh⟩ := hd.current rec found hat
      have hrightful := hl.rightful hd rec hqueue
      constructor
      · intro d hmem
        rcases List.mem_append.1 hmem with hmem | hmem
        · exact hd.rightful d hmem
        · rw [List.mem_singleton.1 hmem]
          exact hrightful
      · show ((s.dropped ++ [_]).map Drop.call).Nodup
        rw [List.map_append, List.nodup_append]
        refine ⟨hd.once, List.nodup_singleton _, ?_⟩
        rintro call hcall call' hcall' rfl
        obtain ⟨d, hmem, rfl⟩ := List.mem_map.1 hcall
        exact hfresh d hmem (List.mem_singleton.1 hcall')
      · intro d hmem
        rcases List.mem_append.1 hmem with hmem | hmem
        · exact hd.call_lt d hmem
        · rw [List.mem_singleton.1 hmem]
          exact hlt
      · exact hd.inHand_taken
      · intro rec' found' hfull
        cases hfull
  | dropNone _ _ | knowsBacklog _ _ | newBacklog _ _ | setBacklog _ | report _ | retry _ _ | giveUp _ _ =>
      refine hd.same rfl (le_refl _) hd.inHand_taken ?_
      intro rec' found' hfull
      cases hfull
  | get hat hqueue =>
      refine hd.same rfl (le_refl _) ?_ hd.current
      intro r hinHand
      cases hinHand
      exact List.mem_append_right _ (List.mem_singleton_self _)
  | written _ | clear _ =>
      refine hd.same rfl (le_refl _) ?_ hd.current
      intro r hinHand
      cases hinHand
  | check _ | measure _ =>
      refine hd.same rfl (le_refl _) ?_ hd.current
      intro r hinHand
      simp only at hinHand
      split_ifs at hinHand
      · cases hinHand
      · cases hinHand

/-! ## The report -/

/-- Half of the bound, below which the writer clears `_backlog`. -/
def Low (s : SampleQueue) : Prop := s.queue.length < queueMax / 2

/-- `_backlog` is only cleared where it was found set and the queue low, and only set
where it was found clear. -/
structure Flag (s : SampleQueue) : Prop where
  measuring : s.writer = .measuring → s.backlog = true
  clearing : s.writer = .clearing → s.backlog = true
  setting : ∀ rec, s.producer = .setting rec → s.backlog = false
  reporting : ∀ rec, s.producer = .reporting rec → s.writer = .clearing ∨ s.backlog = false → s.Low

theorem flag_start : start.Flag where
  measuring := by simp [start]
  clearing := by simp [start]
  setting := by simp [start]
  reporting := by simp [start]

theorem Step.flag (h : Step s p s') (hf : s.Flag) : s'.Flag := by
  obtain ⟨hmeasuring, hclearing, hsetting, hreporting⟩ := hf
  cases h with
  | put hat _ =>
      refine ⟨hmeasuring, hclearing, hsetting, ?_⟩
      intro rec hrec
      rw [show _ = s.producer from rfl, hat] at hrec
      cases hrec
  | putFull _ _ | dropNone _ _ | dropOldest _ _ | knowsBacklog _ _ | report _ | retry _ _ | giveUp _ _ =>
      refine ⟨hmeasuring, hclearing, ?_, ?_⟩
      · intro rec hrec
        cases hrec
      · intro rec hrec
        cases hrec
  | newBacklog _ hbacklog =>
      -- the control loop goes on to set the flag since it has found it clear
      refine ⟨hmeasuring, hclearing, fun _ _ => hbacklog, ?_⟩
      intro rec hrec
      cases hrec
  | setBacklog hat =>
      refine ⟨fun _ => rfl, fun _ => rfl, ?_, ?_⟩
      · intro rec hrec
        cases hrec
      · -- a writer that is about to clear has seen the flag set
        rintro rec - (hwriter | hclear)
        · have hset := hclearing hwriter
          rw [hsetting _ hat] at hset
          cases hset
        · cases hclear
  | @get _ queue hat hqueue =>
      refine ⟨?_, ?_, hsetting, ?_⟩
      · intro hwriter
        cases hwriter
      · intro hwriter
        cases hwriter
      · rintro rec hrec (hwriter | hclear)
        · cases hwriter
        · -- one record less is queued
          have hlow := hreporting rec hrec (.inr hclear)
          rw [Low, hqueue, List.length_cons] at hlow
          show queue.length < queueMax / 2
          omega
  | written hat =>
      refine ⟨?_, ?_, hsetting, ?_⟩
      · intro hwriter
        cases hwriter
      · intro hwriter
        cases hwriter
      · rintro rec hrec (hwriter | hclear)
        · cases hwriter
        · exact hreporting rec hrec (.inr hclear)
  | check hat =>
      refine ⟨?_, ?_, hsetting, ?_⟩
      · intro hwriter
        by_contra hbacklog
        simp [hbacklog] at hwriter
      · intro hwriter
        simp only at hwriter
        split_ifs at hwriter
      · rintro rec hrec (hwriter | hclear)
        · simp only at hwriter
          split_ifs at hwriter
        · exact hreporting rec hrec (.inr hclear)
  | measure hat =>
      -- the writer goes on to clear the flag only where the queue is low
      have hset := hmeasuring hat
      refine ⟨fun _ => hset, fun _ => hset, hsetting, ?_⟩
      rintro rec hrec (hwriter | hclear)
      · by_contra hlow
        simp only at hwriter
        rw [if_neg (show ¬ s.queue.length < queueMax / 2 from hlow)] at hwriter
        cases hwriter
      · exact absurd (hset.symm.trans hclear) (by simp)
  | clear hat =>
      refine ⟨?_, ?_, fun _ _ => rfl, ?_⟩
      · intro hwriter
        cases hwriter
      · intro hwriter
        cases hwriter
      · intro rec hrec _
        exact hreporting rec hrec (.inl hat)

/-- Nobody is about to clear the flag or to report. -/
structure Quiet (s : SampleQueue) : Prop where
  backlog : s.backlog = true
  clearing : s.writer ≠ .clearing
  setting : ∀ rec, s.producer ≠ .setting rec
  reporting : ∀ rec, s.producer ≠ .reporting rec

/-- It stays so as long as the queue is not low. -/
theorem Step.quiet (h : Step s p s') (hlow : ¬ s.Low) (hq : s.Quiet) : s'.Quiet := by
  obtain ⟨hbacklog, hclearing, hsetting, hreporting⟩ := hq
  cases h with
  | put hat _ => exact ⟨hbacklog, hclearing, hsetting, hreporting⟩
  | putFull _ _ | dropNone _ _ | dropOldest _ _ | knowsBacklog _ _ | report _ | retry _ _ | giveUp _ _ =>
      exact ⟨hbacklog, hclearing, by simp, by simp⟩
  | newBacklog _ hclear =>
      rw [hbacklog] at hclear
      cases hclear
  | setBacklog hat => exact absurd hat (hsetting _)
  | get _ _ | written _ => exact ⟨hbacklog, by simp, hsetting, hreporting⟩
  | check _ =>
      refine ⟨hbacklog, ?_, hsetting, hreporting⟩
      simp only
      rw [if_pos hbacklog]
      exact WriterAt.noConfusion
  | measure _ =>
      refine ⟨hbacklog, ?_, hsetting, hreporting⟩
      simp only
      rw [if_neg (show ¬ s.queue.length < queueMax / 2 from hlow)]
      exact WriterAt.noConfusion
  | clear hat => exact absurd hat hclearing

/-- Only the control loop reports. -/
theorem Step.backlogs (h : Step s p s') (hreport : s'.backlogs ≠ s.backlogs) :
    ∃ rec, s.producer = .reporting rec ∧
      s' = { s with backlogs := s.backlogs + 1, producer := .retrying rec } := by
  cases h with
  | @report rec hat => exact ⟨rec, hat, rfl⟩
  | put _ _ | putFull _ _ | dropNone _ _ | dropOldest _ _ | knowsBacklog _ _ | newBacklog _ _
  | setBacklog _ | retry _ _ | giveUp _ _ | get _ _ | written _ | check _ | measure _ | clear _ =>
      exact absurd rfl hreport

/-- What is reported while the queue is not low leaves all quiet. -/
theorem Flag.quiet_of_report (hf : s.Flag) {rec : ℕ} (hat : s.producer = .reporting rec)
    (hlow : ¬ s.Low) :
    Quiet { s with backlogs := s.backlogs + 1, producer := .retrying rec } := by
  refine ⟨?_, ?_, by simp, by simp⟩
  · by_contra hbacklog
    rw [Bool.not_eq_true] at hbacklog
    exact hlow (hf.reporting rec hat (.inr hbacklog))
  · intro hwriter
    exact hlow (hf.reporting rec hat (.inl hwriter))

/-! ## A run -/

/-- All that holds after any steps of the two. -/
structure Inv (s : SampleQueue) : Prop where
  room : s.Room
  lined : s.Lined
  drops : s.Drops
  flag : s.Flag

theorem inv_start : start.Inv := ⟨room_start, lined_start, drops_start, flag_start⟩

theorem Inv.step (h : s.Inv) (hstep : s.step p = some s') : s'.Inv := by
  have hcases := step_cases hstep
  exact ⟨hcases.room h.room, hcases.lined h.room h.lined, hcases.drops h.room h.lined h.drops,
    hcases.flag h.flag⟩

theorem Inv.run (h : s.Inv) {turns : List Party}
    (hrun : Interleaving.run SampleQueue.step s turns = some s') : s'.Inv :=
  Interleaving.run_invariant (fun _ _ _ hinv hstep => hinv.step hstep) h turns hrun

/-- While the queue has not been low there is nothing new to report. -/
theorem Quiet.run (hq : s.Quiet) {turns : List Party} {t : SampleQueue}
    (hrun : Interleaving.run SampleQueue.step s turns = some t)
    (hlow : ∀ (pre : List Party) (u : SampleQueue), pre <+: turns →
      Interleaving.run SampleQueue.step s pre = some u → ¬ u.Low) : t.Quiet := by
  induction turns using List.reverseRecOn generalizing t with
  | nil =>
      cases hrun
      exact hq
  | append_singleton turns p ih =>
      obtain ⟨u, hbefore, hlast⟩ := Interleaving.run_concat_eq_some hrun
      have hquiet : u.Quiet := by
        apply ih hbefore
        intro pre v hpre hv
        exact hlow pre v (hpre.trans (List.prefix_append turns [p])) hv
      exact (step_cases hlast).quiet (hlow turns u (List.prefix_append turns [p]) hbefore) hquiet

/-- After any steps of the two in any order: the taken records are some of the written
ones in their order, each once; what is dropped is dropped by a call that has found 120
records queued, one for a call, is the oldest that is queued then, and neither in hand
nor ever taken; no other record is lost; and before the flag is reported again the queue
has been below 60. -/
theorem queue_discipline {turns : List Party}
    (hrun : Interleaving.run step start turns = some s) :
    (s.taken.Pairwise (· < ·) ∧ ∀ r ∈ s.taken, r < s.calls) ∧
    (∀ d ∈ s.dropped, d.found = 120 ∧ d.queued.head? = some d.record ∧
      (∀ r ∈ d.queued, d.record ≤ r) ∧ d.inHand ≠ some d.record ∧ d.record ∉ s.taken) ∧
    (s.dropped.map Drop.call).Nodup ∧
    (∀ r < s.calls, r ∈ s.taken ∨ r ∈ s.queue ∨ r ∈ pending s.producer ∨
      ∃ d ∈ s.dropped, d.record = r) ∧
    ∀ (p q : Party) (between : List Party) (s₁ t t₁ : SampleQueue),
      s.step p = some s₁ → s₁.backlogs ≠ s.backlogs →
      Interleaving.run step s₁ between = some t → t.step q = some t₁ → t₁.backlogs ≠ t.backlogs →
      ∃ pre u, pre <+: between ∧ Interleaving.run step s₁ pre = some u ∧ u.queue.length < 60 := by
  have hinv := inv_start.run hrun
  have htaken : s.taken.Sublist s.line := by
    rw [line, List.append_assoc]
    exact List.sublist_append_left _ _
  refine ⟨⟨?_, ?_⟩, ?_, hinv.drops.once, ?_, ?_⟩
  · exact hinv.lined.increasing.sublist htaken
  · intro r hr
    exact hinv.lined.lt_calls r (htaken.subset hr)
  · intro d hd
    obtain ⟨hfull, holdest, hle, hinHand⟩ := hinv.drops.rightful d hd
    exact ⟨hfull, holdest, hle, hinHand, fun hmem => (hinv.lined.gone d hd).2 (htaken.subset hmem)⟩
  · intro r hr
    rcases hinv.lined.accounted r hr with hmem | hdrop
    · rw [line, List.mem_append, List.mem_append] at hmem
      rcases hmem with (hmem | hmem) | hmem
      · exact .inl hmem
      · exact .inr (.inl hmem)
      · exact .inr (.inr (.inl hmem))
    · exact .inr (.inr (.inr hdrop))
  · intro p q between s₁ t t₁ hp hreport hbetween hq hagain
    obtain ⟨rec, hat, rfl⟩ := (step_cases hp).backlogs hreport
    by_contra hnever
    -- were the queue never low, the flag would stay set
    have hlow : ∀ (pre : List Party) (u : SampleQueue), pre <+: between →
        Interleaving.run step { s with backlogs := s.backlogs + 1, producer := .retrying rec } pre =
          some u → ¬ u.Low := by
      intro pre u hpre hu hlow
      exact hnever ⟨pre, u, hpre, hu, hlow⟩
    have hfirst : ¬ s.Low :=
      hlow [] { s with backlogs := s.backlogs + 1, producer := .retrying rec } List.nil_prefix rfl
    have hquiet := (hinv.flag.quiet_of_report hat hfirst).run hbetween hlow
    obtain ⟨rec', hat', -⟩ := (step_cases hq).backlogs hagain
    exact hquiet.reporting rec' hat'

/-- Calls that fill the queue, one more that takes the oldest record out of it and reports
the backlog, and the writer with the next record in hand. -/
def fullQueue : List Party := List.replicate 126 .producer ++ [.writer]

theorem queue_discipline_sampleQueue :
    ∃ s, Interleaving.run step start fullQueue = some s ∧
      s.dropped.map (fun d => (d.call, d.found, d.record)) = [(120, 120, 0)] ∧
      s.taken = [1] ∧ s.backlogs = 1 ∧
      (∀ d ∈ s.dropped, d.found = 120 ∧ d.queued.head? = some d.record ∧
        (∀ r ∈ d.queued, d.record ≤ r) ∧ d.inHand ≠ some d.record ∧ d.record ∉ s.taken) := by
  have hevents : (Interleaving.run step start fullQueue).map (fun s =>
      (s.dropped.map fun d => (d.call, d.found, d.record), s.taken, s.backlogs)) =
        some ([(120, 120, 0)], [1], 1) := by
    decide +kernel
  rcases Option.map_eq_some_iff.1 hevents with ⟨s, hrun, heq⟩
  obtain ⟨hdropped, hrest⟩ := Prod.mk.inj heq
  obtain ⟨htaken, hbacklogs⟩ := Prod.mk.inj hrest
  exact ⟨s, hrun, hdropped, htaken, hbacklogs, (queue_discipline hrun).2.1⟩

end SampleQueue

end TurboMac.Linux
