import TurboMac.Lib.Interleaving
import TurboMac.Lib.Python
import TurboMac.Linux.LastSamples

/-! # `incidents.py`: the check of the previous boot

`check_previous_boot` and `mark_clean` over three files that outlive a boot: the marker of a
clean stop, the id of the boot that was checked last, and the incidents. What else the check
reads, and which of its writes succeed, is in its `CheckAnswers`. A machine boots, its daemon
starts and is stopped any number of times, and a boot can end at any point.
-/

namespace TurboMac.Linux

variable {ρ : Type}

/-! ## The files -/

/-- What `_read_marker` finds in the file: the `boot_id` of an object, or no object. -/
inductive Marker where
  | damaged
  | written (bootId : Option String)
deriving DecidableEq, Repr

/-- `marker.get("boot_id")`. -/
def Marker.bootId : Marker → Option String
  | .damaged => none
  | .written bootId => bootId

structure Incident (ρ : Type) where
  id : String
  detectedAt : String
  bootId : Option String
  currentBootId : Option String
  reason : String
  markerPresent : Bool
  lastSampleTime : Option String
  samples : List (LogLine ρ)
  journalTail : List String

/-- The files, and the incidents newest first. -/
structure BootFiles (ρ : Type) where
  marker : Option Marker
  lastBootChecked : Option String
  incidents : List (Incident ρ)

/-- `read_text` of a file that can be read. -/
def bootText (text : String) : String := String.ofList (Python.strip text.toList)

/-! ## The check -/

/-- One of `journalctl --list-boots`. -/
structure BootEntry where
  index : Option ℤ
  offset : Option ℤ
  bootId : Option String
deriving DecidableEq, Repr

/-- `previous_boot_id`; none where there is no output, or no list in it. -/
def previousBootId (boots : Option (List BootEntry)) : Option String :=
  (boots.getD []).find? (fun b => (b.index.or b.offset) == some (-1)) |>.bind BootEntry.bootId

/-- `journal_clean`. -/
def journalClean (tail : String) : Bool :=
  let lines := (Python.splitlines (Python.strip tail.toList)).rtake 3
  decide ("Journal stopped".toList <:+: List.intercalate ['\n'] lines)

/-- What `check_previous_boot` comes to. -/
inductive Verdict where
  | skipped
  | cleanMarker
  | unknown
  | cleanJournal
  | abrupt (incidentId : String)
deriving DecidableEq, Repr

namespace Verdict

def verdict : Verdict → String
  | skipped => "skipped"
  | cleanMarker | cleanJournal => "clean"
  | unknown => "unknown"
  | abrupt _ => "abrupt"

def reason : Verdict → String
  | skipped => "previous boot already checked"
  | cleanMarker => "journal unavailable; clean-shutdown marker from the previous boot"
  | unknown => "previous boot journal unavailable"
  | cleanJournal => "previous boot journal ends with 'Journal stopped'"
  | abrupt _ => "previous boot journal does not end in 'Journal stopped'"

end Verdict

/-- What a check meets: which files it can read, remove and write, what `journalctl` says,
the samples, and the time. -/
structure CheckAnswers (ρ : Type) where
  bootIdRead : Bool
  markerRead : Bool
  markerRemoved : Bool
  lastRead : Bool
  tail : Option String
  boots : Option (List BootEntry)
  samples : SampleDir ρ
  /-- `get("time")` of a record -/
  time : LogLine ρ → Option String
  stamp : String
  incidentSaved : Bool
  lastSaved : Bool

namespace BootFiles

variable (f : BootFiles ρ)

/-- `_read_marker`. -/
def readMarker (a : CheckAnswers ρ) : Option Marker := if a.markerRead then f.marker else none

/-- The marker is removed where it was read. -/
def removeMarker (a : CheckAnswers ρ) : BootFiles ρ :=
  if (f.readMarker a).isSome && a.markerRemoved then { f with marker := none } else f

/-- `read_text(paths.last_boot_checked)`. -/
def readLast (a : CheckAnswers ρ) : Option String :=
  if a.lastRead then f.lastBootChecked.map bootText else none

end BootFiles

namespace CheckAnswers

variable (a : CheckAnswers ρ)

/-- `boot_id`, in a boot with this text in its file. -/
def bootId (file : String) : Option String := if a.bootIdRead then some (bootText file) else none

/-- The tail of the journal, if there is anything in it. -/
def journal : Option String :=
  a.tail.filter fun tail => !(Python.strip tail.toList).isEmpty

/-- `prev` of an incident: of which boot it is. -/
def previous (bootId : Option String) : Option String :=
  ((previousBootId a.boots).filter (· != "")).or (lastSamples a.samples 60 bootId).2

def incident (marker : Option Marker) (bootId : Option String) (tail : String) : Incident ρ :=
  let prev := a.previous bootId
  let rows := (lastSamples a.samples 60 bootId).1
  let name := (prev.filter (· != "")).getD "unknown"
  { id := a.stamp ++ "-" ++ String.ofList (name.toList.take 8)
    detectedAt := a.stamp
    bootId := prev
    currentBootId := bootId
    reason := (Verdict.abrupt "").reason
    markerPresent := marker.isSome
    lastSampleTime := rows.getLast?.bind a.time
    samples := rows
    journalTail := ((Python.splitlines (Python.strip tail.toList)).rtake 20).map String.ofList }

/-- Without a journal: the marker has to be of the previous boot. -/
def vouched (marker : Option Marker) : Bool :=
  marker.any fun m => (previousBootId a.boots).any fun prev => prev != "" && m.bootId == some prev

end CheckAnswers

namespace BootFiles

variable (f : BootFiles ρ)

/-- `last_boot_checked` is written, where the boot has an id. -/
def saveChecked (a : CheckAnswers ρ) (bootId : Option String) : BootFiles ρ :=
  match bootId with
  | none => f
  | some id =>
    if id != "" && a.lastSaved then { f with lastBootChecked := some (id ++ "\n") } else f

/-- What follows when the boot has not been checked yet. -/
def judge (a : CheckAnswers ρ) (bootId : Option String) (marker : Option Marker) :
    BootFiles ρ × Option Verdict :=
  match a.journal with
  | none =>
    (f.saveChecked a bootId, some (if a.vouched marker then .cleanMarker else .unknown))
  | some tail =>
    if journalClean tail then (f.saveChecked a bootId, some .cleanJournal)
    else if a.incidentSaved then
      let inc := a.incident marker bootId tail
      ({ f with incidents := inc :: f.incidents }.saveChecked a bootId, some (.abrupt inc.id))
    else (f, none)

/-- `check_previous_boot`, with no verdict where it raises. -/
def checkPreviousBoot (a : CheckAnswers ρ) (bootId : Option String) : BootFiles ρ × Option Verdict :=
  let marker := f.readMarker a
  let f := f.removeMarker a
  if bootId.any (· != "") ∧ f.readLast a = bootId then (f, some .skipped)
  else f.judge a bootId marker

end BootFiles

/-! ## A machine -/

/-- How far `mark_clean` comes. -/
inductive MarkAnswer where
  /-- the file cannot be opened for writing -/
  | unopened
  /-- it has been emptied, and not written whole -/
  | torn
  | written (bootIdRead : Bool)
deriving DecidableEq, Repr

/-- The machine boots, with a text in the file of the boot's id; the daemon starts; it is
stopped, and the marker written. -/
inductive BootStep (ρ : Type) where
  | boot (file : String)
  | start (a : CheckAnswers ρ)
  | mark (a : MarkAnswer)

/-- The files, the text of the boot's id, and the ids of all boots up to this one. -/
structure BootMachine (ρ : Type) where
  files : BootFiles ρ
  bootFile : String
  used : List String

namespace BootMachine

/-- A machine in its first boot with the daemon. -/
def init (file : String) : BootMachine ρ := ⟨⟨none, none, []⟩, file, [bootText file]⟩

variable (m : BootMachine ρ)

/-- `mark_clean`. -/
def markClean : MarkAnswer → BootFiles ρ
  | .unopened => m.files
  | .torn => { m.files with marker := some .damaged }
  | .written bootIdRead =>
    let bootId := if bootIdRead then some (bootText m.bootFile) else none
    { m.files with marker := some (.written bootId) }

/-- The check when the daemon starts. -/
def check (a : CheckAnswers ρ) : BootFiles ρ × Option Verdict :=
  m.files.checkPreviousBoot a (a.bootId m.bootFile)

/-- No two boots have one id. -/
def step (m : BootMachine ρ) : BootStep ρ → Option (BootMachine ρ)
  | .boot file =>
    if bootText file ∈ m.used then none
    else some { m with bootFile := file, used := bootText file :: m.used }
  | .start a => some { m with files := (m.check a).1 }
  | .mark a => some { m with files := m.markClean a }

end BootMachine

/-! ## What one check does -/

section

/-- An id that has been written is read again. -/
theorem bootText_newline (file : String) : bootText (bootText file ++ "\n") = bootText file := by
  unfold bootText
  rw [String.toList_append, String.toList_ofList]
  exact congrArg String.ofList (Python.strip_append_space file.toList (by decide))

namespace BootFiles

variable (f : BootFiles ρ) (a : CheckAnswers ρ) (bootId : Option String)

@[simp] theorem removeMarker_lastBootChecked :
    (f.removeMarker a).lastBootChecked = f.lastBootChecked := by
  unfold removeMarker
  split <;> rfl

@[simp] theorem removeMarker_incidents : (f.removeMarker a).incidents = f.incidents := by
  unfold removeMarker
  split <;> rfl

theorem removeMarker_marker_eq_some {marker : Marker}
    (h : (f.removeMarker a).marker = some marker) : f.marker = some marker := by
  unfold removeMarker at h
  split at h
  · cases h
  · exact h

theorem removeMarker_marker (hread : a.markerRead = true) (hremoved : a.markerRemoved = true) :
    (f.removeMarker a).marker = none := by
  unfold removeMarker readMarker
  rw [if_pos hread, hremoved, Bool.and_true]
  split
  · rfl
  · rename_i hnone
    simpa using hnone

@[simp] theorem saveChecked_marker : (f.saveChecked a bootId).marker = f.marker := by
  unfold saveChecked
  split
  · rfl
  · split <;> rfl

@[simp] theorem saveChecked_incidents : (f.saveChecked a bootId).incidents = f.incidents := by
  unfold saveChecked
  split
  · rfl
  · split <;> rfl

/-- What is then in `last_boot_checked`, if it is not what was there before. -/
theorem saveChecked_lastBootChecked {text : String}
    (h : (f.saveChecked a bootId).lastBootChecked = some text) :
    f.lastBootChecked = some text ∨ ∃ id, bootId = some id ∧ text = id ++ "\n" := by
  unfold saveChecked at h
  split at h
  · exact .inl h
  · split at h
    · exact .inr ⟨_, rfl, (Option.some.inj h).symm⟩
    · exact .inl h

theorem saveChecked_saved {id : String} (hid : id ≠ "") (hsaved : a.lastSaved = true) :
    (f.saveChecked a (some id)).lastBootChecked = some (id ++ "\n") := by
  simp [saveChecked, hid, hsaved]

/-- The marker is as `removeMarker` leaves it. -/
theorem checkPreviousBoot_marker :
    (f.checkPreviousBoot a bootId).1.marker = (f.removeMarker a).marker := by
  unfold checkPreviousBoot judge
  dsimp only
  split
  · rfl
  · split
    · exact saveChecked_marker _ _ _
    · split
      · exact saveChecked_marker _ _ _
      · split
        · exact saveChecked_marker _ _ _
        · rfl

/-- A check either finds the boot checked, or raises, or saves the boot; an incident comes
before the saving. -/
theorem checkPreviousBoot_files :
    ((f.checkPreviousBoot a bootId).1 = f.removeMarker a) ∨
    ((f.checkPreviousBoot a bootId).1 = (f.removeMarker a).saveChecked a bootId) ∨
    (¬ (bootId.any (· != "") ∧ f.readLast a = bootId) ∧ ∃ inc : Incident ρ, inc.currentBootId = bootId ∧
      (f.checkPreviousBoot a bootId).1 =
        { f.removeMarker a with incidents := inc :: f.incidents }.saveChecked a bootId) := by
  have hlast : (f.removeMarker a).readLast a = f.readLast a := by
    simp only [readLast, removeMarker_lastBootChecked]
  unfold checkPreviousBoot judge
  dsimp only
  rw [hlast]
  split
  · exact .inl rfl
  · rename_i hunchecked
    split
    · exact .inr (.inl rfl)
    · rename_i tail _
      split
      · exact .inr (.inl rfl)
      · split
        · refine .inr (.inr ⟨hunchecked, a.incident (f.readMarker a) bootId tail, rfl, ?_⟩)
          rw [removeMarker_incidents]
        · exact .inl rfl

end BootFiles

namespace BootMachine

variable {m m' : BootMachine ρ}

theorem check_marker (a : CheckAnswers ρ) : (m.check a).1.marker = (m.files.removeMarker a).marker :=
  BootFiles.checkPreviousBoot_marker _ _ _

theorem markClean_lastBootChecked (a : MarkAnswer) :
    (m.markClean a).lastBootChecked = m.files.lastBootChecked := by
  cases a <;> rfl

theorem markClean_incidents (a : MarkAnswer) : (m.markClean a).incidents = m.files.incidents := by
  cases a <;> rfl

/-- What a check leaves in `last_boot_checked` was there, or is the id of this boot. -/
theorem check_lastBootChecked {a : CheckAnswers ρ} {text : String}
    (h : (m.check a).1.lastBootChecked = some text) :
    m.files.lastBootChecked = some text ∨ bootText text = bootText m.bootFile := by
  have hsaved : ∀ f : BootFiles ρ, f.lastBootChecked = m.files.lastBootChecked →
      (f.saveChecked a (a.bootId m.bootFile)).lastBootChecked = some text →
      m.files.lastBootChecked = some text ∨ bootText text = bootText m.bootFile := by
    intro f hf hlast
    rcases BootFiles.saveChecked_lastBootChecked f a _ hlast with hold | ⟨id, hid, rfl⟩
    · exact .inl (hf ▸ hold)
    · unfold CheckAnswers.bootId at hid
      split at hid
      · obtain rfl := Option.some.inj hid
        exact .inr (bootText_newline _)
      · cases hid
  unfold check at h
  rcases BootFiles.checkPreviousBoot_files m.files a (a.bootId m.bootFile) with hf | hf | ⟨-, inc, -, hf⟩
  · rw [hf, BootFiles.removeMarker_lastBootChecked] at h
    exact .inl h
  · rw [hf] at h
    exact hsaved _ (BootFiles.removeMarker_lastBootChecked _ _) h
  · rw [hf] at h
    exact hsaved { m.files.removeMarker a with incidents := inc :: m.files.incidents }
      (BootFiles.removeMarker_lastBootChecked _ _) h

end BootMachine

end

namespace BootMachine

/-! ## The ids in the files -/

/-- The ids in the files are of boots there have been. -/
structure Known (m : BootMachine ρ) : Prop where
  current : bootText m.bootFile ∈ m.used
  marker : ∀ id, m.files.marker = some (.written (some id)) → id ∈ m.used
  last : ∀ text, m.files.lastBootChecked = some text → bootText text ∈ m.used

section

variable {m m' : BootMachine ρ} {x : BootStep ρ}

theorem init_known (file : String) : Known (init file : BootMachine ρ) :=
  ⟨List.mem_singleton.2 rfl, nofun, nofun⟩

theorem step_known (h : Known m) (hstep : m.step x = some m') : Known m' := by
  cases x with
  | boot file =>
      rw [step] at hstep
      split at hstep
      · cases hstep
      · obtain rfl := Option.some.inj hstep
        exact ⟨List.mem_cons_self, fun id hid => List.mem_cons_of_mem _ (h.marker id hid),
          fun text htext => List.mem_cons_of_mem _ (h.last text htext)⟩
  | start a =>
      obtain rfl := Option.some.inj hstep
      refine ⟨h.current, fun id hid => ?_, fun text htext => ?_⟩
      · rw [check_marker] at hid
        exact h.marker id (BootFiles.removeMarker_marker_eq_some _ _ hid)
      · rcases check_lastBootChecked htext with hold | hnew
        · exact h.last text hold
        · rw [hnew]
          exact h.current
  | mark a =>
      obtain rfl := Option.some.inj hstep
      refine ⟨h.current, fun id hid => ?_, fun text htext => ?_⟩
      · cases a with
        | unopened => exact h.marker id hid
        | torn => cases hid
        | written bootIdRead =>
            have hid : (if bootIdRead then some (bootText m.bootFile) else none) = some id :=
              Marker.written.inj (Option.some.inj hid)
            split at hid
            · obtain rfl := Option.some.inj hid
              exact h.current
            · cases hid
      · rw [markClean_lastBootChecked] at htext
        exact h.last text htext

/-! ## At most one incident in a boot -/

/-- The current boot has an incident only after it has been checked. -/
structure Single (m : BootMachine ρ) : Prop where
  nodup : (m.files.incidents.map Incident.currentBootId).Nodup
  used : ∀ inc ∈ m.files.incidents, ∃ id ∈ m.used, inc.currentBootId = some id
  checked : ∀ inc ∈ m.files.incidents, inc.currentBootId = some (bootText m.bootFile) →
    m.files.lastBootChecked.map bootText = some (bootText m.bootFile)

/-- A boot with an id, and a check that can read it and `last_boot_checked` and write the
latter. -/
def Works : BootStep ρ → Prop
  | .boot file => bootText file ≠ ""
  | .start a => a.bootIdRead = true ∧ a.lastRead = true ∧ a.lastSaved = true
  | .mark _ => True

theorem start_single {a : CheckAnswers ρ} (h : Known m) (hs : Single m) (hid : bootText m.bootFile ≠ "")
    (hworks : Works (.start a)) : Single { m with files := (m.check a).1 } := by
  rcases hworks with ⟨hread, hlast, hsaved⟩
  have hbootId : a.bootId m.bootFile = some (bootText m.bootFile) := if_pos hread
  have hwritten : ∀ f : BootFiles ρ, (f.saveChecked a (a.bootId m.bootFile)).lastBootChecked.map bootText =
      some (bootText m.bootFile) := by
    intro f
    rw [hbootId, BootFiles.saveChecked_saved f a hid hsaved, Option.map_some, bootText_newline]
  unfold check
  rcases BootFiles.checkPreviousBoot_files m.files a (a.bootId m.bootFile) with
    hf | hf | ⟨hunchecked, inc, hinc, hf⟩
  · rw [hf]
    constructor <;> simp only [BootFiles.removeMarker_incidents, BootFiles.removeMarker_lastBootChecked]
    · exact hs.nodup
    · exact hs.used
    · exact hs.checked
  · rw [hf]
    constructor <;> simp only [BootFiles.saveChecked_incidents, BootFiles.removeMarker_incidents]
    · exact hs.nodup
    · exact hs.used
    · exact fun _ _ _ => hwritten _
  · rw [hf]
    -- none of the incidents is of this boot, since it has not been checked
    have hnew : ∀ old ∈ m.files.incidents, old.currentBootId ≠ some (bootText m.bootFile) := by
      intro old hold heq
      apply hunchecked
      rw [hbootId]
      refine ⟨by simp [hid], ?_⟩
      rw [BootFiles.readLast, if_pos hlast]
      exact hs.checked old hold heq
    constructor <;> simp only [BootFiles.saveChecked_incidents]
    · rw [List.map_cons, List.nodup_cons, hinc, hbootId]
      refine ⟨?_, hs.nodup⟩
      intro hmem
      rcases List.mem_map.1 hmem with ⟨old, hold, heq⟩
      exact hnew old hold heq
    · intro inc' hmem
      rcases List.mem_cons.1 hmem with rfl | hold
      · exact ⟨_, h.current, hinc.trans hbootId⟩
      · exact hs.used inc' hold
    · exact fun _ _ _ => hwritten _

theorem step_single (h : Known m) (hs : Single m) (hid : bootText m.bootFile ≠ "")
    (hworks : Works x) (hstep : m.step x = some m') : Single m' ∧ bootText m'.bootFile ≠ "" := by
  cases x with
  | boot file =>
      rw [step] at hstep
      split at hstep
      · cases hstep
      · rename_i hfresh
        obtain rfl := Option.some.inj hstep
        refine ⟨⟨hs.nodup, fun inc hinc => ?_, fun inc hinc heq => ?_⟩, hworks⟩
        · rcases hs.used inc hinc with ⟨id, hused, heq⟩
          exact ⟨id, List.mem_cons_of_mem _ hused, heq⟩
        · -- an incident of an earlier boot has another id
          rcases hs.used inc hinc with ⟨id, hused, hold⟩
          obtain rfl := Option.some.inj (hold.symm.trans heq)
          exact absurd hused hfresh
  | start a =>
      obtain rfl := Option.some.inj hstep
      exact ⟨start_single h hs hid hworks, hid⟩
  | mark a =>
      obtain rfl := Option.some.inj hstep
      refine ⟨⟨?_, ?_, ?_⟩, hid⟩ <;> simp only [markClean_incidents, markClean_lastBootChecked]
      · exact hs.nodup
      · exact hs.used
      · exact hs.checked

end

/-- However often the daemon is started, stopped and killed, no boot gets two incidents,
where its id can be read and the check of it be noted. -/
theorem one_incident (file : String) (steps : List (BootStep ρ)) (m : BootMachine ρ)
    (hfile : bootText file ≠ "") (hworks : ∀ x ∈ steps, Works x)
    (hrun : Interleaving.run step (init file) steps = some m) :
    (m.files.incidents.map Incident.currentBootId).Nodup := by
  have hinit : Known (init file : BootMachine ρ) ∧ Single (init file : BootMachine ρ) ∧
      bootText (init file : BootMachine ρ).bootFile ≠ "" :=
    ⟨init_known file, ⟨List.nodup_nil, nofun, nofun⟩, hfile⟩
  have hnext : ∀ (s : BootMachine ρ) (x : BootStep ρ) (s' : BootMachine ρ),
      (Known s ∧ Single s ∧ bootText s.bootFile ≠ "") → Works x → s.step x = some s' →
      Known s' ∧ Single s' ∧ bootText s'.bootFile ≠ "" := by
    intro s x s' hs hx hstep
    exact ⟨step_known hs.1 hstep, step_single hs.1 hs.2.1 hs.2.2 hx hstep⟩
  have hinv := Interleaving.run_invariant_of hnext hinit steps hrun fun pre x s₁ hstart _ =>
    hworks x (hstart.subset (List.mem_append_right _ List.mem_cons_self))
  exact hinv.2.1.nodup

/-- A check that finds a journal cut short, or none. -/
def answers (tail : Option String) (previous : String) : CheckAnswers Unit where
  bootIdRead := true
  markerRead := true
  markerRemoved := true
  lastRead := true
  tail := tail
  boots := some [⟨some (-1), none, some previous⟩, ⟨some 0, none, none⟩]
  samples := .empty
  time := fun _ => none
  stamp := "20261005T031200Z"
  incidentSaved := true
  lastSaved := true

/-- The power fails twice, and after the first time the daemon crashes as well. -/
def powerCuts : List (BootStep Unit) :=
  let start := .start (answers (some "kernel: usb 1-1") "a0")
  [start, .mark (.written true), start, .boot "b2\n", start]

theorem one_incident_powerCuts :
    ∃ m, Interleaving.run step (init "b1\n") powerCuts = some m ∧
      m.files.incidents.map Incident.currentBootId = [some "b2", some "b1"] ∧
      (m.files.incidents.map Incident.currentBootId).Nodup := by
  refine ⟨(Interleaving.run step (init "b1\n") powerCuts).get (by decide +kernel),
    (Option.some_get _).symm, by decide +kernel, ?_⟩
  refine one_incident "b1\n" powerCuts _ (by decide +kernel) ?_ (Option.some_get _).symm
  intro x hx
  simp only [powerCuts, List.mem_cons, List.not_mem_nil, or_false] at hx
  rcases hx with rfl | rfl | rfl | rfl | rfl
  · exact ⟨rfl, rfl, rfl⟩
  · trivial
  · exact ⟨rfl, rfl, rfl⟩
  · show bootText "b2\n" ≠ ""
    decide +kernel
  · exact ⟨rfl, rfl, rfl⟩

/-! ## What the marker vouches for -/

/-- Since the last start and the last boot a marker has been written whole, and nothing has
come of writing another. -/
def StoppedCleanly (steps : List (BootStep ρ)) : Prop :=
  ∃ earlier later, steps = earlier ++ .mark (.written true) :: later ∧ ∀ x ∈ later, x = .mark .unopened

section

variable {m m' : BootMachine ρ} {steps : List (BootStep ρ)} {x : BootStep ρ}

theorem stoppedCleanly_concat :
    StoppedCleanly (steps ++ [x]) ↔
      x = .mark (.written true) ∨ x = .mark .unopened ∧ StoppedCleanly steps := by
  constructor
  · rintro ⟨earlier, later, heq, hlater⟩
    rcases List.eq_nil_or_concat' later with rfl | ⟨later, y, rfl⟩
    · exact .inl (List.append_inj_right' heq rfl |> List.singleton_inj.1)
    · have hy : y = .mark .unopened := hlater y (List.mem_append_right _ List.mem_cons_self)
      have hsplit : steps ++ [x] = (earlier ++ .mark (.written true) :: later) ++ [y] := by
        rw [heq, List.append_assoc, List.cons_append]
      have hx : x = y := List.singleton_inj.1 (List.append_inj_right' hsplit rfl)
      exact .inr ⟨hx.trans hy, earlier, later, List.append_inj_left' hsplit rfl,
        fun z hz => hlater z (List.mem_append_left _ hz)⟩
  · rintro (rfl | ⟨rfl, earlier, later, rfl, hlater⟩)
    · exact ⟨steps, [], rfl, nofun⟩
    · refine ⟨earlier, later ++ [.mark .unopened], by simp, ?_⟩
      intro z hz
      rcases List.mem_append.1 hz with hz | hz
      · exact hlater z hz
      · exact List.mem_singleton.1 hz

/-- The marker is of the current boot exactly after a clean stop. -/
theorem run_marker (file : String)
    (hremoved : ∀ a, .start a ∈ steps → a.markerRead = true ∧ a.markerRemoved = true)
    (hrun : Interleaving.run step (init file) steps = some m) :
    Known m ∧ (m.files.marker = some (.written (some (bootText m.bootFile))) ↔ StoppedCleanly steps) := by
  induction steps using List.reverseRecOn generalizing m with
  | nil =>
      cases hrun
      refine ⟨init_known file, nofun, ?_⟩
      rintro ⟨earlier, later, heq, -⟩
      exact absurd heq (by simp)
  | append_singleton steps x ih =>
      rcases Interleaving.run_concat_eq_some hrun with ⟨m₁, hbefore, hstep⟩
      rcases ih (fun a ha => hremoved a (List.mem_append_left _ ha)) hbefore with ⟨hknown, hmarker⟩
      refine ⟨step_known hknown hstep, ?_⟩
      rw [stoppedCleanly_concat]
      cases x with
      | boot file =>
          rw [step] at hstep
          split at hstep
          · cases hstep
          · -- a marker that is there is of an earlier boot
            rename_i hfresh
            obtain rfl := Option.some.inj hstep
            constructor
            · exact fun hid => absurd (hknown.marker _ hid) hfresh
            · rintro (h | ⟨h, -⟩) <;> cases h
      | start a =>
          obtain rfl := Option.some.inj hstep
          rcases hremoved a (List.mem_append_right _ List.mem_cons_self) with ⟨hread, hgone⟩
          have hnone : (m₁.check a).1.marker = none := by
            rw [check_marker]
            exact BootFiles.removeMarker_marker _ _ hread hgone
          constructor
          · intro hid
            rw [hnone] at hid
            cases hid
          · rintro (h | ⟨h, -⟩) <;> cases h
      | mark a =>
          obtain rfl := Option.some.inj hstep
          cases a with
          | unopened =>
              constructor
              · exact fun hid => .inr ⟨rfl, hmarker.1 hid⟩
              · rintro (h | ⟨-, h⟩)
                · cases h
                · exact hmarker.2 h
          | torn =>
              constructor
              · intro hid
                cases hid
              · rintro (h | ⟨h, -⟩) <;> cases h
          | written bootIdRead =>
              cases bootIdRead with
              | true => exact ⟨fun _ => .inl rfl, fun _ => rfl⟩
              | false =>
                  constructor
                  · intro hid
                    cases hid
                  · rintro (h | ⟨h, -⟩) <;> cases h

/-- In a new boot nothing has been checked. -/
theorem readLast_new {file : String} (h : Known m) (hboot : m.step (.boot file) = some m')
    (a : CheckAnswers ρ) : m'.files.readLast a ≠ some (bootText m'.bootFile) := by
  rw [step] at hboot
  split at hboot
  · cases hboot
  · rename_i hfresh
    obtain rfl := Option.some.inj hboot
    intro hlast
    unfold BootFiles.readLast at hlast
    split at hlast
    · rcases Option.map_eq_some_iff.1 hlast with ⟨text, htext, hid⟩
      exact hfresh (hid ▸ h.last text htext)
    · cases hlast

theorem check_unjournalled {a : CheckAnswers ρ}
    (hunchecked : m.files.readLast a ≠ some (bootText m.bootFile)) (hjournal : a.journal = none) :
    (m.check a).2 = some (if a.vouched (m.files.readMarker a) then .cleanMarker else .unknown) := by
  have hguard : ¬ ((a.bootId m.bootFile).any (· != "") ∧
      (m.files.removeMarker a).readLast a = a.bootId m.bootFile) := by
    rintro ⟨hid, hlast⟩
    unfold CheckAnswers.bootId at hid hlast
    split at hlast
    · rw [BootFiles.readLast, BootFiles.removeMarker_lastBootChecked] at hlast
      exact hunchecked hlast
    · rename_i hunread
      rw [if_neg hunread] at hid
      cases hid
  unfold check BootFiles.checkPreviousBoot
  dsimp only
  rw [if_neg hguard, BootFiles.judge, hjournal]

end

/-- When a boot is the first after another, of which `journalctl` has no lines, and every start
could read and remove the marker: if `journalctl` writes that boot's id as its file did, the check
says "clean" exactly if the daemon has been stopped cleanly in that other boot after its last
start there. If it writes no boot's id so (that of systemd leaves out the dashes), the check says
"unknown" after a clean stop as well. -/
theorem clean_boot (file next : String) (steps : List (BootStep ρ)) (m m' : BootMachine ρ)
    (a : CheckAnswers ρ)
    (hremoved : ∀ a, .start a ∈ steps → a.markerRead = true ∧ a.markerRemoved = true)
    (hrun : Interleaving.run step (init file) steps = some m)
    (hboot : m.step (.boot next) = some m') (hread : a.markerRead = true) (hjournal : a.journal = none) :
    (bootText m.bootFile ≠ "" → previousBootId a.boots = some (bootText m.bootFile) →
      ((m'.check a).2 = some .cleanMarker ↔ StoppedCleanly steps) ∧
      ((m'.check a).2 = some .unknown ↔ ¬ StoppedCleanly steps)) ∧
    ((∀ prev ∈ previousBootId a.boots, prev ∉ m.used) → (m'.check a).2 = some .unknown) := by
  rcases run_marker file hremoved hrun with ⟨hknown, hmarker⟩
  have hfiles : m'.files = m.files := by
    rw [step] at hboot
    split at hboot
    · cases hboot
    · obtain rfl := Option.some.inj hboot
      rfl
  have hmarkerRead : m'.files.readMarker a = m.files.marker := by
    rw [BootFiles.readMarker, if_pos hread, hfiles]
  rw [check_unjournalled (readLast_new hknown hboot a) hjournal, hmarkerRead]
  constructor
  · intro hid hprevious
    have hvouched : a.vouched m.files.marker = true ↔ StoppedCleanly steps := by
      rw [← hmarker]
      cases hcase : m.files.marker with
      | none => exact ⟨nofun, nofun⟩
      | some marker =>
          cases marker with
          | damaged => simp [CheckAnswers.vouched, hprevious, Marker.bootId]
          | written bootId => simp [CheckAnswers.vouched, hprevious, Marker.bootId, hid]
    by_cases hclean : StoppedCleanly steps
    · rw [if_pos (hvouched.2 hclean)]
      exact ⟨⟨fun _ => hclean, fun _ => rfl⟩, nofun, fun hnot => absurd hclean hnot⟩
    · rw [if_neg (mt hvouched.1 hclean)]
      exact ⟨⟨nofun, fun h => absurd h hclean⟩, fun _ => hclean, fun _ => rfl⟩
  · intro hforeign
    have hvouched : a.vouched m.files.marker = false := by
      by_contra hvouched
      simp only [CheckAnswers.vouched, Bool.not_eq_false, Option.any_eq_true, Bool.and_eq_true,
        beq_iff_eq] at hvouched
      rcases hvouched with ⟨marker, hcase, prev, hprevious, -, hwritten⟩
      -- a marker has the id of a boot there has been
      cases marker with
      | damaged => cases hwritten
      | written bootId =>
          have hbootId : bootId = some prev := hwritten
          rw [hbootId] at hcase
          exact hforeign prev hprevious (hknown.marker prev hcase)
    rw [hvouched]
    rfl

/-- The daemon starts and is stopped, and the next boot has no journal of it. -/
def stopped : List (BootStep Unit) := [.start (answers none "a0"), .mark (.written true)]

theorem clean_boot_stopped :
    ∃ m m', Interleaving.run step (init "b1\n") stopped = some m ∧ m.step (.boot "b2\n") = some m' ∧
      (m'.check (answers none "b1")).2 = some .cleanMarker ∧ StoppedCleanly stopped := by
  have hclean : (((((Interleaving.run step (init "b1\n") stopped).get (by decide +kernel)).step
      (.boot "b2\n")).get (by decide +kernel)).check (answers none "b1")).2 = some .cleanMarker := by
    decide +kernel
  refine ⟨_, _, (Option.some_get _).symm, (Option.some_get _).symm, hclean, ?_⟩
  refine ((clean_boot "b1\n" "b2\n" stopped _ _ (answers none "b1") ?_ (Option.some_get _).symm
    (Option.some_get _).symm rfl (by decide +kernel)).1 (by decide +kernel) (by decide +kernel)).1.1 hclean
  intro a ha
  simp only [stopped, List.mem_cons, List.not_mem_nil, or_false] at ha
  rcases ha with heq | heq
  · cases heq
    exact ⟨rfl, rfl⟩
  · cases heq

/-- The same with the ids of a machine: `journalctl` leaves out the dashes. -/
example : (((((Interleaving.run step (init "6f0c1d7e-52a1-4c9e-9b60-3d1b8f2a7c55\n") stopped).get
    (by decide +kernel)).step (.boot "0b7d5f7a-9c7e-4c39-8a2f-5c1e6a90d3b4\n")).get
    (by decide +kernel)).check (answers none "6f0c1d7e52a14c9e9b603d1b8f2a7c55")).2 =
      some .unknown := by
  decide +kernel

end BootMachine

end TurboMac.Linux
