import Mathlib.Data.List.Sort
import TurboMac.Lib.Tail
import TurboMac.Linux.SampleLog

/-! # `last_samples`

The files of the log are read from the newest back, of each only as many lines as
records are wanted, until there are enough or the files of another boot begin. The
lines are counted before they are parsed, so a line cut by a power loss takes the
place of a record: the file it is in then gives one record too few, and the one
before that file is taken instead.

A `History` is what loggers leave behind: the boots, oldest first, and the files of
each. The theorem compares what is read with the last records of a boot.
-/

namespace TurboMac.Linux

variable {ρ : Type}

/-! ## Reading -/

/-- Whether `json.loads` can read a line. -/
def LogLine.parses : LogLine ρ → Bool
  | .torn => false
  | _ => true

/-- What is read of a file, the boot of its header and at most `n` lines after the first.
Nothing is read where the first line does not parse. -/
def readFile (n : ℕ) : List (LogLine ρ) → Option (Option String × List (LogLine ρ))
  | [] => some (none, [])  -- `readline()` gives "", and "{}" is no header
  | .torn :: _ => none
  | .header bootId _ :: lines => some (bootId, lines.rtake n)
  | .record _ :: lines => some (none, lines.rtake n)

/-- `exclude_boot and fboot == exclude_boot`. -/
def excludes (excludeBoot fboot : Option String) : Bool :=
  match excludeBoot with
  | none => false
  | some id => id != "" && fboot == some id

/-- The loop over the files: the rows, and the boot they are of. -/
def collectRows (n : ℕ) (excludeBoot : Option String) :
    List (List (LogLine ρ)) → List (LogLine ρ) → Option String → List (LogLine ρ) × Option String
  | [], rows, boot => (rows, boot)
  | f :: files, rows, boot =>
      match readFile n f with
      | none => collectRows n excludeBoot files rows boot
      | some (fboot, tail) =>
          if excludes excludeBoot fboot then collectRows n excludeBoot files rows boot
          else if boot ≠ none ∧ fboot ≠ boot then (rows, boot)
          else
            -- what does not parse is dropped only now
            let rows := tail.filter LogLine.parses ++ rows
            if n ≤ rows.length then (rows, fboot)
            else collectRows n excludeBoot files rows fboot

/-- The names in the directory, without the ending `.gz`. -/
def SampleDir.names (d : SampleDir ρ) : List ℤ :=
  (d.files.filter fun item => item.2.lines.isSome).map Prod.fst

/-- `last_samples`. -/
def lastSamples (d : SampleDir ρ) (n : ℕ) (excludeBoot : Option String) :
    List (LogLine ρ) × Option String :=
  let files := (d.names.insertionSort (· ≥ ·)).map fun name => ((d.get name).lines.getD [])
  let (rows, boot) := collectRows n excludeBoot files [] none
  (rows.rtake n, boot)

/-! ## Histories -/

/-- How a file ends: whole, or cut in a record, in its header or before it. -/
inductive Ending where
  | whole
  | line
  | header
  | empty
deriving DecidableEq, Repr

/-- Which files there are of one name; both after a crash of `compress_file`. -/
inductive Form where
  | plain
  | gz
  | both
deriving DecidableEq, Repr

/-- A file of a boot: its name, the `ts` of its header, its complete records. -/
structure SampleFile (ρ : Type) where
  name : ℤ
  ts : ℚ
  records : List ρ
  ending : Ending
  form : Form
  blank : ending = .header ∨ ending = .empty → records = []

/-- The lines of a file of the boot `id`. -/
def SampleFile.lines (id : String) (f : SampleFile ρ) : List (LogLine ρ) :=
  match f.ending with
  | .whole => .header (some id) f.ts :: f.records.map .record
  | .line => .header (some id) f.ts :: (f.records.map .record ++ [.torn])
  | .header => [.torn]
  | .empty => []

def SampleFile.file (id : String) (f : SampleFile ρ) : LogFile ρ :=
  match f.form with
  | .plain => ⟨some (f.lines id), none⟩
  | .gz => ⟨none, some (f.lines id)⟩
  | .both => ⟨some (f.lines id), some (f.lines id)⟩

/-- The log of one boot: only its last file can be cut short. -/
structure Boot (ρ : Type) where
  id : String
  earlier : List (SampleFile ρ)
  last : SampleFile ρ
  named : id ≠ ""
  finished : ∀ f ∈ earlier, f.ending = .whole

namespace Boot

def files (b : Boot ρ) : List (SampleFile ρ) := b.earlier ++ [b.last]

def records (b : Boot ρ) : List ρ := b.files.flatMap SampleFile.records

def entries (b : Boot ρ) : List (ℤ × LogFile ρ) := b.files.map fun f => (f.name, f.file b.id)

/-- Some header of the boot was written. -/
def Headed (b : Boot ρ) : Prop :=
  b.earlier ≠ [] ∨ b.last.ending = .whole ∨ b.last.ending = .line

instance (b : Boot ρ) : Decidable b.Headed := inferInstanceAs (Decidable (_ ∨ _))

end Boot

/-- The boots, oldest first; the names of the files increase. -/
structure History (ρ : Type) where
  boots : List (Boot ρ)
  ids : (boots.map Boot.id).Nodup
  ordered : ((boots.flatMap Boot.entries).map Prod.fst).Pairwise (· < ·)

namespace History

/-- The newest boot other than `excludeBoot`. -/
def newest (h : History ρ) (excludeBoot : Option String) : Option (Boot ρ) :=
  h.boots.reverse.find? fun b => some b.id ≠ excludeBoot

/-- The last `n` records of the newest boot other than `excludeBoot`, and its id. -/
def lastRecords (h : History ρ) (n : ℕ) (excludeBoot : Option String) :
    List (LogLine ρ) × Option String :=
  match h.newest excludeBoot with
  | none => ([], none)
  | some b => ((b.records.rtake n).map .record, some b.id)

/-- A directory that holds just the files of the history. -/
def Fills (h : History ρ) (d : SampleDir ρ) : Prop :=
  d.files.Perm (h.boots.flatMap Boot.entries)

end History

/-- When the last `n` records of a boot can be read back: a header tells its id, and its
last file is not cut in a line that takes the place of one of them. -/
def Boot.Readable (b : Boot ρ) (n : ℕ) : Prop :=
  b.Headed ∧
    (b.last.ending ≠ .line ∨ b.last.records.length < n ∨
      (b.earlier.flatMap SampleFile.records).getLast? = (b.last.records.rtake n).head?)

/-! ## One file -/

theorem excludes_some {id : String} (hid : id ≠ "") (excludeBoot : Option String) :
    excludes excludeBoot (some id) = true ↔ some id = excludeBoot := by
  cases excludeBoot with
  | none => simp [excludes]
  | some boot =>
      simp only [excludes, Bool.and_eq_true, bne_iff_ne, beq_iff_eq, Option.some.injEq]
      constructor
      · exact And.right
      · rintro rfl
        exact ⟨hid, rfl⟩

theorem excludes_none (excludeBoot : Option String) : excludes excludeBoot none = false := by
  cases excludeBoot with
  | none => rfl
  | some boot => simp [excludes]

theorem filter_parses (records : List ρ) :
    (records.map LogLine.record).filter LogLine.parses = records.map .record := by
  apply List.filter_eq_self.2
  intro line hline
  rcases List.mem_map.1 hline with ⟨r, -, rfl⟩
  rfl

/-- A file names its own boot or none. -/
theorem readFile_boot {n : ℕ} {id : String} {f : SampleFile ρ} {fboot : Option String}
    {tail : List (LogLine ρ)} (h : readFile n (f.lines id) = some (fboot, tail)) :
    fboot = some id ∨ fboot = none := by
  unfold SampleFile.lines at h
  cases hending : f.ending with
  | whole =>
      rw [hending] at h
      left
      exact (congrArg Prod.fst (Option.some.inj h)).symm
  | line =>
      rw [hending] at h
      left
      exact (congrArg Prod.fst (Option.some.inj h)).symm
  | header =>
      rw [hending] at h
      cases h
  | empty =>
      rw [hending] at h
      right
      exact (congrArg Prod.fst (Option.some.inj h)).symm

/-- The records that reading `n` lines gives: a line cut short is one of them. -/
def SampleFile.kept (n : ℕ) (f : SampleFile ρ) : List ρ :=
  if f.ending = .line then f.records.rtake (n - 1) else f.records.rtake n

theorem readFile_headed {n : ℕ} (hn : 1 ≤ n) (id : String) {f : SampleFile ρ}
    (h : f.ending = .whole ∨ f.ending = .line) :
    ∃ tail, readFile n (f.lines id) = some (some id, tail) ∧
      tail.filter LogLine.parses = (f.kept n).map .record := by
  unfold SampleFile.lines SampleFile.kept
  rcases h with h | h
  · rw [h]
    refine ⟨_, rfl, ?_⟩
    rw [List.rtake_map, filter_parses]
    rfl
  · rw [h]
    refine ⟨_, rfl, ?_⟩
    obtain ⟨m, rfl⟩ : ∃ m, n = m + 1 := ⟨n - 1, by omega⟩
    rw [List.rtake_concat_succ, List.filter_append, List.rtake_map, filter_parses, if_pos rfl]
    exact List.append_nil _

theorem readFile_headless {f : SampleFile ρ} (h : ¬ (f.ending = .whole ∨ f.ending = .line))
    (n : ℕ) (id : String) :
    readFile n (f.lines id) = none ∨ readFile n (f.lines id) = some (none, []) := by
  unfold SampleFile.lines
  cases hending : f.ending with
  | whole => exact absurd (.inl hending) h
  | line => exact absurd (.inr hending) h
  | header => exact .inl rfl
  | empty => exact .inr rfl

/-! ## The loop -/

/-- Once a boot is found, the files of others add nothing. -/
theorem collectRows_others {n : ℕ} (excludeBoot : Option String) {id : String}
    {files : List (List (LogLine ρ))} (rows : List (LogLine ρ))
    (h : ∀ f ∈ files, ∀ fboot tail, readFile n f = some (fboot, tail) → fboot ≠ some id) :
    collectRows n excludeBoot files rows (some id) = (rows, some id) := by
  induction files with
  | nil => rfl
  | cons f files ih =>
      have hrest := ih fun f' hf' => h f' (List.mem_cons_of_mem _ hf')
      unfold collectRows
      cases hread : readFile n f with
      | none => exact hrest
      | some out =>
          rcases out with ⟨fboot, tail⟩
          have hne := h f List.mem_cons_self fboot tail hread
          simp only
          split_ifs with hex hboot
          · exact hrest
          · rfl
          · simp [hne] at hboot
          · simp [hne] at hboot

/-- The boot of the result is that of some file read. -/
theorem collectRows_boot (n : ℕ) (excludeBoot : Option String) (files : List (List (LogLine ρ)))
    (rows : List (LogLine ρ)) (boot : Option String) :
    (collectRows n excludeBoot files rows boot).2 = boot ∨
      ∃ f ∈ files, ∃ tail,
        readFile n f = some ((collectRows n excludeBoot files rows boot).2, tail) := by
  induction files generalizing rows boot with
  | nil => exact .inl rfl
  | cons f files ih =>
      have hlift {out : List (LogLine ρ) × Option String} {boot' : Option String}
          (h : out.2 = boot' ∨ ∃ f' ∈ files, ∃ tail, readFile n f' = some (out.2, tail)) :
          out.2 = boot' ∨ ∃ f' ∈ f :: files, ∃ tail, readFile n f' = some (out.2, tail) := by
        rcases h with h | ⟨f', hf', htail⟩
        · exact .inl h
        · exact .inr ⟨f', List.mem_cons_of_mem _ hf', htail⟩
      unfold collectRows
      cases hread : readFile n f with
      | none => exact hlift (ih rows boot)
      | some out =>
          rcases out with ⟨fboot, tail⟩
          simp only
          split_ifs with hex hboot hfull
          · exact hlift (ih rows boot)
          · exact .inl rfl
          · exact .inr ⟨f, List.mem_cons_self, tail, hread⟩
          · rcases hlift (ih (tail.filter LogLine.parses ++ rows) fboot) with h | h
            · right
              exact ⟨f, List.mem_cons_self, tail, by rw [hread, h]⟩
            · exact .inr h

/-- The files of the boot that is read, the newest first, before files of others. -/
theorem collectRows_walk {n : ℕ} (hn : 1 ≤ n) {excludeBoot : Option String} {id : String}
    (hex : excludes excludeBoot (some id) = false) {others : List (List (LogLine ρ))}
    (hothers : ∀ f ∈ others, ∀ fboot tail, readFile n f = some (fboot, tail) → fboot ≠ some id)
    (files : List (SampleFile ρ)) (hwhole : ∀ f ∈ files, f.ending = .whole)
    (rows : List (LogLine ρ)) {boot : Option String}
    (hboot : boot = some id ∨ boot = none ∧ files ≠ []) :
    ∃ rows', collectRows n excludeBoot (files.map (SampleFile.lines id) ++ others) rows boot =
        (rows', some id) ∧
      rows'.rtake n =
        ((files.reverse.flatMap SampleFile.records).map LogLine.record ++ rows).rtake n := by
  -- the newest file first; its records come after those of the files still to be read
  induction files generalizing rows boot with
  | nil =>
      rcases hboot with rfl | ⟨-, hne⟩
      · exact ⟨rows, collectRows_others excludeBoot rows hothers, rfl⟩
      · exact absurd rfl hne
  | cons f files ih =>
      have hf : f.ending = .whole := hwhole f List.mem_cons_self
      rcases readFile_headed hn id (.inl hf) with ⟨tail, hread, htail⟩
      have hsame : ¬ (boot ≠ none ∧ some id ≠ boot) := by
        rcases hboot with rfl | ⟨rfl, -⟩
        · simp
        · simp
      have hkept : f.kept n = f.records.rtake n := by
        rw [SampleFile.kept, hf, if_neg (by decide)]
      have hfront (before : List (LogLine ρ)) :
          (before ++ ((f.kept n).map LogLine.record ++ rows)).rtake n =
            (before ++ (f.records.map LogLine.record ++ rows)).rtake n := by
        rw [hkept, ← List.rtake_map, List.rtake_append_rtake_append le_rfl]
      rw [List.map_cons, List.cons_append]
      unfold collectRows
      simp only [hread, hex, Bool.false_eq_true, if_false, hsame, htail]
      have hrecords : ((f :: files).reverse.flatMap SampleFile.records).map LogLine.record ++ rows =
          (files.reverse.flatMap SampleFile.records).map LogLine.record ++
            (f.records.map LogLine.record ++ rows) := by
        simp
      rw [hrecords, ← hfront]
      split_ifs with hfull
      · exact ⟨_, rfl, (List.rtake_append_of_le hfull _).symm⟩
      · exact ih (fun f' hf' => hwhole f' (List.mem_cons_of_mem _ hf')) _ (.inl rfl)

/-- A file without a header is passed over while no boot is found. -/
theorem collectRows_headless {n : ℕ} (hn : 1 ≤ n) (excludeBoot : Option String) (id : String)
    {f : SampleFile ρ} (hheadless : ¬ (f.ending = .whole ∨ f.ending = .line))
    (others : List (List (LogLine ρ))) :
    collectRows n excludeBoot (f.lines id :: others) [] none =
      collectRows n excludeBoot others [] none := by
  rw [collectRows]
  rcases readFile_headless hheadless n id with hread | hread
  · rw [hread]
  · -- an empty file is read, without rows
    have hfew : ¬ n ≤ ([] : List (LogLine ρ)).length := by
      intro hle
      rw [List.length_nil] at hle
      omega
    rw [hread]
    simp only [excludes_none, ne_eq, not_true_eq_false, false_and, Bool.false_eq_true, if_false,
      List.filter_nil, List.append_nil, hfew]

/-- The files of the excluded boot are passed over. -/
theorem collectRows_excluded {n : ℕ} (hn : 1 ≤ n) {excludeBoot : Option String} {id : String}
    (hex : excludes excludeBoot (some id) = true) (files : List (SampleFile ρ))
    (others : List (List (LogLine ρ))) :
    collectRows n excludeBoot (files.map (SampleFile.lines id) ++ others) [] none =
      collectRows n excludeBoot others [] none := by
  induction files with
  | nil => rfl
  | cons f files ih =>
      rw [List.map_cons, List.cons_append]
      by_cases hheaded : f.ending = .whole ∨ f.ending = .line
      · rcases readFile_headed hn id hheaded with ⟨tail, hread, -⟩
        rw [collectRows, hread]
        simp only [hex, if_true]
        exact ih
      · rw [collectRows_headless hn excludeBoot id hheaded]
        exact ih

namespace Boot

/-- The files as they are read, the newest first. -/
def texts (b : Boot ρ) : List (List (LogLine ρ)) :=
  b.files.reverse.map (SampleFile.lines b.id)

theorem texts_eq (b : Boot ρ) :
    b.texts = b.last.lines b.id :: b.earlier.reverse.map (SampleFile.lines b.id) := by
  simp [texts, files]

/-- The records of which the last ones are read back. -/
def kept (n : ℕ) (b : Boot ρ) : List ρ :=
  b.earlier.flatMap SampleFile.records ++ b.last.kept n

theorem kept_headless {n : ℕ} {b : Boot ρ}
    (h : ¬ (b.last.ending = .whole ∨ b.last.ending = .line)) : b.last.kept n = [] := by
  have hrecords : b.last.records = [] := by
    apply b.last.blank
    cases hending : b.last.ending with
    | whole => exact absurd (.inl hending) h
    | line => exact absurd (.inr hending) h
    | header => exact .inl rfl
    | empty => exact .inr rfl
  rw [SampleFile.kept, hrecords, List.rtake_nil, List.rtake_nil, ite_self]

/-- The boot that is read: its rows end in the last records that could be read back. -/
theorem collectRows_texts {n : ℕ} (hn : 1 ≤ n) {excludeBoot : Option String} {b : Boot ρ}
    (hheaded : b.Headed) (hex : excludes excludeBoot (some b.id) = false)
    {others : List (List (LogLine ρ))}
    (hothers : ∀ f ∈ others, ∀ fboot tail, readFile n f = some (fboot, tail) → fboot ≠ some b.id) :
    ∃ rows, collectRows n excludeBoot (b.texts ++ others) [] none = (rows, some b.id) ∧
      rows.rtake n = ((b.kept n).rtake n).map .record := by
  have hwhole : ∀ f ∈ b.earlier.reverse, f.ending = .whole := by
    intro f hf
    exact b.finished f (List.mem_reverse.1 hf)
  rw [texts_eq, List.cons_append, ← List.rtake_map]
  by_cases hlast : b.last.ending = .whole ∨ b.last.ending = .line
  · rcases readFile_headed hn b.id hlast with ⟨tail, hread, htail⟩
    rw [collectRows, hread]
    simp only [hex, Bool.false_eq_true, if_false, ne_eq, not_true_eq_false, false_and, htail,
      List.append_nil]
    rw [kept, List.map_append]
    split_ifs with hfull
    · exact ⟨_, rfl, (List.rtake_append_of_le hfull _).symm⟩
    · rcases collectRows_walk hn hex hothers b.earlier.reverse hwhole
        ((b.last.kept n).map .record) (.inl rfl) with ⟨rows, hrun, hrows⟩
      rw [List.reverse_reverse] at hrows
      exact ⟨rows, hrun, hrows⟩
  · have hearlier : b.earlier.reverse ≠ [] := by
      intro hnil
      rcases hheaded with hne | hheaded
      · exact hne (List.reverse_eq_nil_iff.1 hnil)
      · exact hlast hheaded
    rw [collectRows_headless hn excludeBoot b.id hlast]
    rcases collectRows_walk hn hex hothers b.earlier.reverse hwhole [] (.inr ⟨rfl, hearlier⟩)
      with ⟨rows, hrun, hrows⟩
    rw [List.reverse_reverse, List.append_nil] at hrows
    rw [kept, kept_headless hlast, List.append_nil]
    exact ⟨rows, hrun, hrows⟩

/-- A boot without a header is not found. -/
theorem collectRows_texts_headless {n : ℕ} (hn : 1 ≤ n) (excludeBoot : Option String) {b : Boot ρ}
    (hheaded : ¬ b.Headed) (others : List (List (LogLine ρ))) :
    collectRows n excludeBoot (b.texts ++ others) [] none =
      collectRows n excludeBoot others [] none := by
  have hearlier : b.earlier = [] := by
    by_contra hne
    exact hheaded (.inl hne)
  have hlast : ¬ (b.last.ending = .whole ∨ b.last.ending = .line) := by
    intro h
    exact hheaded (.inr h)
  rw [texts_eq, hearlier, List.cons_append]
  exact collectRows_headless hn excludeBoot b.id hlast others

theorem readFile_texts {n : ℕ} {b : Boot ρ} {f : List (LogLine ρ)} (hf : f ∈ b.texts)
    {fboot : Option String} {tail : List (LogLine ρ)} (h : readFile n f = some (fboot, tail)) :
    fboot = some b.id ∨ fboot = none := by
  rcases List.mem_map.1 hf with ⟨file, -, rfl⟩
  exact readFile_boot h

end Boot

/-! ## All boots -/

/-- What is read, given the boots from the newest back. -/
theorem collectRows_boots {n : ℕ} (hn : 1 ≤ n) (excludeBoot : Option String) {boots : List (Boot ρ)}
    (hids : (boots.map Boot.id).Nodup) :
    match boots.find? fun b => some b.id ≠ excludeBoot with
    | none => collectRows n excludeBoot (boots.flatMap Boot.texts) [] none = ([], none)
    | some b =>
        if b.Headed then
          ∃ rows, collectRows n excludeBoot (boots.flatMap Boot.texts) [] none =
              (rows, some b.id) ∧
            rows.rtake n = ((b.kept n).rtake n).map .record
        else (collectRows n excludeBoot (boots.flatMap Boot.texts) [] none).2 ≠ some b.id := by
  -- from the newest boot back
  induction boots with
  | nil => rfl
  | cons b boots ih =>
      rw [List.map_cons, List.nodup_cons] at hids
      rw [List.flatMap_cons]
      by_cases hex : some b.id = excludeBoot
      · -- the excluded boot
        have hskip := collectRows_excluded hn ((excludes_some b.named excludeBoot).2 hex)
          b.files.reverse (boots.flatMap Boot.texts)
        rw [List.find?_cons_of_neg (by simpa using hex), Boot.texts, hskip]
        exact ih hids.2
      · -- no other file has this boot in its header
        have hothers : ∀ f ∈ boots.flatMap Boot.texts, ∀ fboot tail,
            readFile n f = some (fboot, tail) → fboot ≠ some b.id := by
          intro f hf fboot tail hread
          rcases List.mem_flatMap.1 hf with ⟨b', hb', hf⟩
          rcases Boot.readFile_texts hf hread with rfl | rfl
          · intro heq
            apply hids.1
            rw [← Option.some.inj heq]
            exact List.mem_map_of_mem hb'
          · simp
        have hnot : excludes excludeBoot (some b.id) = false := by
          rw [← Bool.not_eq_true, excludes_some b.named]
          exact hex
        rw [List.find?_cons_of_pos (by simpa using hex)]
        simp only
        split_ifs with hheaded
        · exact Boot.collectRows_texts hn hheaded hnot hothers
        · rw [Boot.collectRows_texts_headless hn excludeBoot hheaded]
          rcases collectRows_boot n excludeBoot (boots.flatMap Boot.texts) [] none with
            hnone | ⟨f, hf, tail, hread⟩
          · rw [hnone]
            simp
          · exact hothers f hf _ tail hread

/-! ## The directory -/

theorem SampleFile.lines_file (id : String) (f : SampleFile ρ) :
    (f.file id).lines = some (f.lines id) := by
  unfold SampleFile.file
  split
  · rfl
  · rfl
  · rfl

/-- The files are read in the order of the history, the newest first. -/
theorem History.Fills.texts {h : History ρ} {d : SampleDir ρ} (hd : h.Fills d) :
    ((d.names.insertionSort (· ≥ ·)).map fun name => (d.get name).lines.getD []) =
      h.boots.reverse.flatMap Boot.texts := by
  have hentry : ∀ item ∈ h.boots.flatMap Boot.entries, item.2.lines.isSome = true := by
    intro item hitem
    rcases List.mem_flatMap.1 hitem with ⟨b, -, hitem⟩
    rcases List.mem_map.1 hitem with ⟨f, -, rfl⟩
    rw [SampleFile.lines_file]
    rfl
  have hnames : d.names.Perm ((h.boots.flatMap Boot.entries).map Prod.fst) := by
    have hall : (d.files.filter fun item => item.2.lines.isSome) = d.files := by
      apply List.filter_eq_self.2
      intro item hitem
      exact hentry item (hd.mem_iff.1 hitem)
    rw [SampleDir.names, hall]
    exact hd.map Prod.fst
  -- names increase in a history, so sorting them backwards reverses it
  have hsorted : d.names.insertionSort (· ≥ ·) =
      ((h.boots.flatMap Boot.entries).map Prod.fst).reverse := by
    apply List.Perm.eq_of_sortedGE
    · exact List.sortedGE_insertionSort
    · exact h.ordered.sortedLT.sortedLE.reverse
    · exact (List.perm_insertionSort _ _).trans (hnames.trans (List.reverse_perm _).symm)
  have hread : ((h.boots.flatMap Boot.entries).map Prod.fst).map
      (fun name => (d.get name).lines.getD []) =
        (h.boots.flatMap Boot.entries).map fun item => item.2.lines.getD [] := by
    rw [List.map_map]
    apply List.map_congr_left
    intro item hitem
    show (Table.get d.files item.1).lines.getD [] = item.2.lines.getD []
    rw [Table.get_of_mem d.nodup (hd.mem_iff.2 hitem)]
  have htexts (b : Boot ρ) : (b.entries.map fun item => item.2.lines.getD []).reverse = b.texts := by
    rw [Boot.entries, Boot.texts, List.map_map, List.map_reverse]
    congr 2
    funext f
    rw [Function.comp_apply, SampleFile.lines_file]
    rfl
  rw [hsorted, List.map_reverse, hread, List.map_flatMap, List.reverse_flatMap]
  congr 1
  funext b
  exact htexts b

/-! ## The last samples -/

theorem Boot.kept_rtake_iff {n : ℕ} (hn : 1 ≤ n) (b : Boot ρ) :
    (b.kept n).rtake n = b.records.rtake n ↔
      b.last.ending ≠ .line ∨ b.last.records.length < n ∨
        (b.earlier.flatMap SampleFile.records).getLast? = (b.last.records.rtake n).head? := by
  obtain ⟨m, rfl⟩ : ∃ m, n = m + 1 := ⟨n - 1, by omega⟩
  have hrecords : b.records = b.earlier.flatMap SampleFile.records ++ b.last.records := by
    simp [Boot.records, Boot.files]
  rw [hrecords, Boot.kept, SampleFile.kept]
  by_cases hline : b.last.ending = .line
  · rw [if_pos hline, Nat.add_sub_cancel]
    by_cases hfew : b.last.records.length < m + 1
    · -- the records of the last file are fewer, so none is lost
      rw [List.rtake_of_length_le (show b.last.records.length ≤ m by omega)]
      simp [hfew]
    · rw [List.rtake_append_rtake_iff (by omega)]
      simp [hline, hfew]
  · rw [if_neg hline]
    have hcut := List.rtake_append_rtake_append (le_refl (m + 1))
      (b.earlier.flatMap SampleFile.records) b.last.records []
    rw [List.append_nil, List.append_nil] at hcut
    simp [hcut, hline]

/-- Exactly the last records of the newest boot but the excluded one are read back, with
its id, if and only if they are readable there. -/
theorem last_samples_exact_iff {h : History ρ} {d : SampleDir ρ} (hd : h.Fills d) {n : ℕ}
    (hn : 1 ≤ n) (excludeBoot : Option String) :
    lastSamples d n excludeBoot = h.lastRecords n excludeBoot ↔
      ∀ b ∈ h.newest excludeBoot, b.Readable n := by
  have hids : (h.boots.reverse.map Boot.id).Nodup := by
    rw [List.map_reverse]
    exact List.nodup_reverse.2 h.ids
  have hboots := collectRows_boots hn excludeBoot hids
  rw [lastSamples, hd.texts, History.lastRecords, History.newest]
  cases hnewest : h.boots.reverse.find? fun b => some b.id ≠ excludeBoot with
  | none =>
      rw [hnewest] at hboots
      simp only at hboots
      simp [hboots]
  | some b =>
      rw [hnewest] at hboots
      simp only at hboots
      have hforall : (∀ b' ∈ some b, b'.Readable n) ↔ b.Readable n := by simp
      rw [hforall, Boot.Readable, ← b.kept_rtake_iff hn]
      split_ifs at hboots with hheaded
      · rcases hboots with ⟨rows, hrun, hrows⟩
        have hinj : Function.Injective (LogLine.record : ρ → LogLine ρ) := by
          intro r r' heq
          injection heq
        simp only [hrun, hrows, Prod.mk.injEq, and_true, hheaded, true_and]
        exact (List.map_injective_iff.2 hinj).eq_iff
      · -- the id cannot be found
        simp only [Prod.ext_iff, hheaded, false_and, iff_false]
        intro hout
        exact hboots hout.2

/-- The boot `a` with one record in its first file and two in its second, and a third
that a power loss cut short. -/
def tornHistory : History ℕ where
  boots := [{
    id := "a"
    earlier := [⟨0, 0, [1], .whole, .gz, by decide⟩]
    last := ⟨3600, 3600, [2, 3], .line, .plain, by decide⟩
    named := by decide
    finished := by decide }]
  ids := by decide
  ordered := by decide

def tornDir : SampleDir ℕ := ⟨tornHistory.boots.flatMap Boot.entries, by decide⟩

theorem tornHistory_fills : tornHistory.Fills tornDir := List.Perm.refl _

/-- Of its last two records one is left out, and an older one is returned. -/
theorem last_samples_gap :
    tornHistory.Fills tornDir ∧
      lastSamples tornDir 2 none = ([.record 1, .record 3], some "a") ∧
      lastSamples tornDir 2 none ≠ tornHistory.lastRecords 2 none := by
  refine ⟨tornHistory_fills, ?_, ?_⟩
  · decide +kernel
  · decide +kernel

/-- Its last three are returned, as the file that is cut short has fewer. -/
theorem last_samples_exact_three :
    lastSamples tornDir 3 none = tornHistory.lastRecords 3 none := by
  apply (last_samples_exact_iff tornHistory_fills (by decide) none).2
  intro b hb
  obtain rfl := Option.some.inj hb
  exact ⟨.inl (by decide), .inr (.inl (by decide))⟩

end TurboMac.Linux
