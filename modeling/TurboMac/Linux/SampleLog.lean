import Mathlib.Algebra.BigOperators.Group.Multiset.Basic
import Mathlib.Algebra.Order.Floor.Ring
import TurboMac.Lib.Decimal
import TurboMac.Lib.Table

/-! # `logger.py`: the sample log

A sample file is named by the UTC second in which it was opened. At every opening
all other files are compressed, and a compressed file takes the place of an older
one of the same name. Readers prefer the uncompressed file, so a file opened a
second time hides what is compressed under its name and then overwrites it.

Only `background=False` is modelled, where a write is done when it returns, and
`prune` is left out: nothing is removed. A name stands for its second, an integer;
the hour of a file is the second divided by 3600.
-/

namespace TurboMac.Linux

open Table

variable {ρ : Type}

/-! ## Files -/

/-- A line of a sample file. A power loss leaves a torn one. -/
inductive LogLine (ρ : Type) where
  | header (bootId : Option String) (ts : ℚ)
  | record (r : ρ)
  | torn
deriving DecidableEq, Repr

/-- The record of a line, if it has one. -/
def LogLine.record? : LogLine ρ → Option ρ
  | .record r => some r
  | _ => none

/-- The two files of one name, `.jsonl` and `.jsonl.gz`, each with its lines. -/
structure LogFile (ρ : Type) where
  plain : Option (List (LogLine ρ))
  gz : Option (List (LogLine ρ))
deriving DecidableEq, Repr

instance : Inhabited (LogFile ρ) := ⟨⟨none, none⟩⟩

/-- What `last_samples` reads under a name: the uncompressed file wins. -/
def LogFile.lines (f : LogFile ρ) : Option (List (LogLine ρ)) := f.plain <|> f.gz

/-- The records that can be read under a name. -/
def LogFile.records (f : LogFile ρ) : List ρ := (f.lines.getD []).filterMap LogLine.record?

/-- `compress_file`, which does nothing where there is no uncompressed file. -/
def LogFile.compress (f : LogFile ρ) : LogFile ρ :=
  match f.plain with
  | none => f
  | some lines => { plain := none, gz := some lines }

/-- `open(path, "a")`. -/
def LogFile.touch (f : LogFile ρ) : LogFile ρ := { f with plain := some (f.plain.getD []) }

/-- One more line in the uncompressed file. -/
def LogFile.append (f : LogFile ρ) (line : LogLine ρ) : LogFile ρ :=
  { f with plain := f.plain.map (· ++ [line]) }

/-- The directory of the samples. -/
structure SampleDir (ρ : Type) where
  files : List (ℤ × LogFile ρ)
  nodup : (files.map Prod.fst).Nodup

namespace SampleDir

def empty : SampleDir ρ := ⟨[], List.nodup_nil⟩

/-- What is there under a name. -/
def get (d : SampleDir ρ) (name : ℤ) : LogFile ρ := Table.get d.files name

def modify (d : SampleDir ρ) (name : ℤ) (f : LogFile ρ → LogFile ρ) : SampleDir ρ :=
  ⟨Table.modify d.files name f, nodup_modify d.nodup name f⟩

/-- `_housekeep_now`: compress every file but the one at `path`. -/
def housekeep (d : SampleDir ρ) (path : Option ℤ) : SampleDir ρ :=
  ⟨mapAll d.files fun name f => if some name = path then f else f.compress, by
    rw [keys_mapAll]
    exact d.nodup⟩

/-- Every record that can be read, as often as it is there. -/
def records (d : SampleDir ρ) : Multiset ρ := total (fun f => (f.records : Multiset ρ)) d.files

end SampleDir

/-! ## The logger -/

/-- `gmtime` keeps the second. -/
def utcSecond (wall : ℚ) : ℤ := ⌊wall⌋

/-- `%Y%m%d%H`. -/
def utcHour (wall : ℚ) : ℤ := utcSecond wall / 3600

/-- A call of `write`, with the clock at that moment. -/
structure Write (ρ : Type) where
  record : ρ
  wall : Option ℚ
  now : ℚ

/-- The time a record is filed under: the caller's, else its own `ts`, else the clock. -/
def Write.time (ts : ρ → Option ℚ) (w : Write ρ) : ℚ := w.wall.getD ((ts w.record).getD w.now)

/-- `SampleLogger`: `fh` is the file that is open. -/
structure SampleLogger (ρ : Type) where
  dir : SampleDir ρ
  bootId : Option String
  fh : Option ℤ
  path : Option ℤ
  hour : Option ℤ

namespace SampleLogger

/-- `SampleLogger.__init__`. -/
def new (dir : SampleDir ρ) (bootId : Option String) : SampleLogger ρ where
  dir := dir.housekeep none
  bootId := bootId
  fh := none
  path := none
  hour := none

/-- `_line`. -/
def line (l : SampleLogger ρ) (rec : LogLine ρ) : SampleLogger ρ :=
  match l.fh with
  | none => l
  | some name => { l with dir := l.dir.modify name (·.append rec) }

/-- `_open`. -/
def openFile (l : SampleLogger ρ) (wall : ℚ) : SampleLogger ρ :=
  let name := utcSecond wall
  let l := { l with
    dir := l.dir.modify name LogFile.touch
    fh := some name
    path := some name
    hour := some (utcHour wall) }
  let l := l.line (.header l.bootId (Decimal.roundHalfEven (wall * 1000) / 1000))
  { l with dir := l.dir.housekeep l.path }

/-- `_write_now`. -/
def writeNow (ts : ρ → Option ℚ) (l : SampleLogger ρ) (w : Write ρ) : SampleLogger ρ :=
  let wall := w.time ts
  let l := if l.fh = none ∨ some (utcHour wall) ≠ l.hour then l.openFile wall else l
  l.line (.record w.record)

/-- A sequence of writes. -/
def writeAll (ts : ρ → Option ℚ) (l : SampleLogger ρ) (writes : List (Write ρ)) : SampleLogger ρ :=
  writes.foldl (writeNow ts) l

end SampleLogger

/-- The names under which writes at these times open a file, `hour` being the hour of
the one before: the seconds of those whose hour is not that of the one before. -/
def opened : Option ℤ → List ℚ → List ℤ
  | _, [] => []
  | hour, wall :: walls =>
      if some (utcHour wall) = hour then opened hour walls
      else utcSecond wall :: opened (some (utcHour wall)) walls

/-! ## One file -/

namespace LogFile

@[simp] theorem records_default : (default : LogFile ρ).records = [] := rfl

@[simp] theorem compress_default : (default : LogFile ρ).compress = default := rfl

@[simp] theorem records_compress (f : LogFile ρ) : f.compress.records = f.records := by
  rcases f with ⟨plain, gz⟩
  cases plain with
  | none => rfl
  | some text => rfl

@[simp] theorem plain_compress (f : LogFile ρ) : f.compress.plain = none := by
  rcases f with ⟨plain, gz⟩
  cases plain with
  | none => rfl
  | some text => rfl

theorem compress_compress (f : LogFile ρ) : f.compress.compress = f.compress := by
  conv_lhs => rw [compress, plain_compress]

/-- A line goes to the end of what a reader sees. -/
theorem records_append {f : LogFile ρ} (h : f.plain ≠ none) (line : LogLine ρ) :
    (f.append line).records = f.records ++ line.record?.toList := by
  rcases f with ⟨plain, gz⟩
  cases plain with
  | none => exact absurd rfl h
  | some text =>
      show (text ++ [line]).filterMap LogLine.record? =
        text.filterMap LogLine.record? ++ line.record?.toList
      rw [List.filterMap_append]
      cases line with
      | header bootId ts => rfl
      | record r => rfl
      | torn => rfl

theorem plain_append {f : LogFile ρ} (line : LogLine ρ) :
    (f.append line).plain = none ↔ f.plain = none := by
  simp [append]

/-- A new file hides what is compressed under its name. -/
theorem records_touch {f : LogFile ρ} (h : f.plain = none) : f.touch.records = [] := by
  simp [records, touch, lines, h]

end LogFile

/-! ## The directory -/

namespace SampleDir

theorem get_modify (d : SampleDir ρ) (name : ℤ) (f : LogFile ρ → LogFile ρ) (name' : ℤ) :
    (d.modify name f).get name' = if name' = name then f (d.get name) else d.get name' :=
  Table.get_modify d.files name f name'

theorem get_housekeep (d : SampleDir ρ) (path : Option ℤ) (name : ℤ) :
    (d.housekeep path).get name = if some name = path then d.get name else (d.get name).compress :=
  get_mapAll d.files
    (f := fun name f => if some name = path then f else f.compress)
    (fun name => by split_ifs <;> rfl) name

theorem records_get_housekeep (d : SampleDir ρ) (path : Option ℤ) (name : ℤ) :
    ((d.housekeep path).get name).records = (d.get name).records := by
  rw [get_housekeep]
  split_ifs
  · rfl
  · exact LogFile.records_compress _

/-- Compressing loses nothing. -/
@[simp] theorem records_housekeep (d : SampleDir ρ) (path : Option ℤ) :
    (d.housekeep path).records = d.records := by
  refine total_mapAll (g := fun f : LogFile ρ => (f.records : Multiset ρ))
    (f := fun name f => if some name = path then f else f.compress) ?_ d.files
  intro name f
  split_ifs
  · rfl
  · rw [LogFile.records_compress]

/-- A change to one file changes the records by those of that file. -/
theorem records_modify (d : SampleDir ρ) (name : ℤ) (f : LogFile ρ → LogFile ρ) :
    (d.modify name f).records + ((d.get name).records : Multiset ρ) =
      d.records + ((f (d.get name)).records : Multiset ρ) :=
  total_modify rfl d.files name f

end SampleDir

/-! ## One write -/

namespace SampleLogger

/-- Between writes only the open file is uncompressed; it has a record, and its name
is of the hour of the last write. -/
structure Tidy (l : SampleLogger ρ) : Prop where
  closed : l.fh = none → l.hour = none
  hour {name : ℤ} : l.fh = some name → l.hour = some (name / 3600)
  plain {name : ℤ} : l.fh = some name → (l.dir.get name).plain ≠ none
  written {name : ℤ} : l.fh = some name → (l.dir.get name).records ≠ []
  others {name : ℤ} : l.fh ≠ some name → (l.dir.get name).plain = none

theorem tidy_new (d : SampleDir ρ) (bootId : Option String) : (new d bootId).Tidy where
  closed _ := rfl
  hour h := by cases h
  plain h := by cases h
  written h := by cases h
  others {name} _ := by
    show ((d.housekeep none).get name).plain = none
    rw [SampleDir.get_housekeep, if_neg (by simp), LogFile.plain_compress]

/-- A line more in the open file. -/
theorem line_spec {l : SampleLogger ρ} {path : ℤ} (hfh : l.fh = some path)
    (hplain : (l.dir.get path).plain ≠ none) (rec : LogLine ρ) :
    (l.line rec).dir.records = l.dir.records + (rec.record?.toList : Multiset ρ) ∧
      ∀ name, (((l.line rec).dir.get name).plain = none ↔ (l.dir.get name).plain = none) ∧
        ((l.line rec).dir.get name).records =
          if name = path then (l.dir.get name).records ++ rec.record?.toList
          else (l.dir.get name).records := by
  have hrun : (l.line rec).dir = l.dir.modify path (·.append rec) := by
    simp [line, hfh]
  have happend := LogFile.records_append hplain rec
  rw [hrun]
  constructor
  · have hmodify := l.dir.records_modify path (·.append rec)
    rw [happend, ← Multiset.coe_add, ← add_assoc, add_right_comm] at hmodify
    exact add_right_cancel hmodify
  · intro name
    rw [SampleDir.get_modify]
    by_cases hname : name = path
    · subst hname
      rw [if_pos rfl, if_pos rfl]
      exact ⟨LogFile.plain_append rec, happend⟩
    · rw [if_neg hname, if_neg hname]
      exact ⟨Iff.rfl, rfl⟩

@[simp] theorem line_fh (l : SampleLogger ρ) (rec : LogLine ρ) : (l.line rec).fh = l.fh := by
  unfold line
  split <;> rfl

@[simp] theorem line_hour (l : SampleLogger ρ) (rec : LogLine ρ) : (l.line rec).hour = l.hour := by
  unfold line
  split <;> rfl

@[simp] theorem line_bootId (l : SampleLogger ρ) (rec : LogLine ρ) :
    (l.line rec).bootId = l.bootId := by
  unfold line
  split <;> rfl

/-- What is left open after a record: the state is tidy if all other files are compressed. -/
theorem tidy_line {l : SampleLogger ρ} {path : ℤ} (hfh : l.fh = some path)
    (hhour : l.hour = some (path / 3600)) (hplain : (l.dir.get path).plain ≠ none)
    (hothers : ∀ name, name ≠ path → (l.dir.get name).plain = none) (r : ρ) :
    (l.line (.record r)).Tidy := by
  have hget := (line_spec hfh hplain (.record r)).2
  constructor
  · intro hclosed
    rw [line_fh, hfh] at hclosed
    cases hclosed
  · intro name hname
    rw [line_fh, hfh] at hname
    rw [line_hour, hhour, Option.some.inj hname]
  · intro name hname
    rw [line_fh, hfh] at hname
    rw [← Option.some.inj hname, Ne, (hget path).1]
    exact hplain
  · intro name hname
    rw [line_fh, hfh] at hname
    rw [← Option.some.inj hname, (hget path).2, if_pos rfl]
    simp [LogLine.record?]
  · intro name hname
    rw [line_fh, hfh] at hname
    rw [(hget name).1]
    apply hothers
    rintro rfl
    exact hname rfl

/-- A file opened under a name that has no uncompressed file hides what is compressed
there; nothing else becomes unreadable. -/
theorem openFile_spec {l : SampleLogger ρ} {wall : ℚ}
    (hfresh : (l.dir.get (utcSecond wall)).plain = none) :
    (l.openFile wall).dir.records + ((l.dir.get (utcSecond wall)).records : Multiset ρ) =
        l.dir.records ∧
      ((l.openFile wall).dir.get (utcSecond wall)).plain ≠ none ∧
      (∀ name, name ≠ utcSecond wall → ((l.openFile wall).dir.get name).plain = none) ∧
      ∀ name, ((l.openFile wall).dir.get name).records =
        if name = utcSecond wall then [] else (l.dir.get name).records := by
  -- the open file while it is still empty
  let touched : SampleLogger ρ := { l with
    dir := l.dir.modify (utcSecond wall) LogFile.touch
    fh := some (utcSecond wall)
    path := some (utcSecond wall)
    hour := some (utcHour wall) }
  let head : LogLine ρ := .header l.bootId (Decimal.roundHalfEven (wall * 1000) / 1000)
  have hrun : (l.openFile wall).dir = (touched.line head).dir.housekeep (some (utcSecond wall)) := by
    rfl
  have htouched (name : ℤ) : touched.dir.get name =
      if name = utcSecond wall then (l.dir.get (utcSecond wall)).touch else l.dir.get name :=
    SampleDir.get_modify _ _ _ _
  have hplain : (touched.dir.get (utcSecond wall)).plain ≠ none := by
    rw [htouched, if_pos rfl]
    simp [LogFile.touch]
  rcases line_spec (l := touched) rfl hplain head with ⟨hrecords, hget⟩
  rw [hrun]
  refine ⟨?_, ?_, ?_, ?_⟩
  · rw [SampleDir.records_housekeep, hrecords]
    have hmodify := l.dir.records_modify (utcSecond wall) LogFile.touch
    rw [LogFile.records_touch hfresh] at hmodify
    simpa [head, LogLine.record?, touched] using hmodify
  · rw [SampleDir.get_housekeep, if_pos rfl, Ne, (hget _).1]
    exact hplain
  · intro name hname
    rw [SampleDir.get_housekeep, if_neg (by simpa using hname), LogFile.plain_compress]
  · intro name
    rw [SampleDir.records_get_housekeep, (hget name).2, htouched]
    split_ifs with hname
    · rw [LogFile.records_touch hfresh]
      rfl
    · rfl

/-- What a write does without opening a file: the record is added to the open file. -/
theorem writeNow_same {l : SampleLogger ρ} (ht : l.Tidy) {ts : ρ → Option ℚ} {w : Write ρ}
    (hhour : some (utcHour (w.time ts)) = l.hour) :
    (l.writeNow ts w).Tidy ∧ (l.writeNow ts w).hour = l.hour ∧
      (l.writeNow ts w).dir.records = l.dir.records + {w.record} ∧
      ∀ name, ((l.writeNow ts w).dir.get name).records = [] ↔ (l.dir.get name).records = [] := by
  obtain ⟨path, hfh⟩ : ∃ path, l.fh = some path := by
    apply Option.ne_none_iff_exists'.1
    intro hnone
    rw [ht.closed hnone] at hhour
    cases hhour
  have hrun : l.writeNow ts w = l.line (.record w.record) := by
    simp [writeNow, hfh, hhour]
  have hothers (name : ℤ) (hname : name ≠ path) : (l.dir.get name).plain = none := by
    apply ht.others
    rw [hfh]
    intro heq
    exact hname (Option.some.inj heq).symm
  rcases line_spec hfh (ht.plain hfh) (.record w.record) with ⟨hrecords, hget⟩
  rw [hrun]
  refine ⟨tidy_line hfh (ht.hour hfh) (ht.plain hfh) hothers w.record, line_hour _ _, hrecords, ?_⟩
  intro name
  rw [(hget name).2]
  split_ifs with hname
  · subst hname
    simp [ht.written hfh]
  · rfl

/-- What a write does that opens a file: what was under the name is hidden, and the
record is the only one there. -/
theorem writeNow_open {l : SampleLogger ρ} (ht : l.Tidy) {ts : ρ → Option ℚ} {w : Write ρ}
    (hhour : some (utcHour (w.time ts)) ≠ l.hour) :
    (l.writeNow ts w).Tidy ∧ (l.writeNow ts w).hour = some (utcHour (w.time ts)) ∧
      (l.writeNow ts w).dir.records + ((l.dir.get (utcSecond (w.time ts))).records : Multiset ρ) =
        l.dir.records + {w.record} ∧
      ∀ name, ((l.writeNow ts w).dir.get name).records =
        if name = utcSecond (w.time ts) then [w.record] else (l.dir.get name).records := by
  have hrun : l.writeNow ts w = (l.openFile (w.time ts)).line (.record w.record) := by
    simp [writeNow, hhour]
  -- the open file is of another hour, so this name is not the open file's
  have hfresh : (l.dir.get (utcSecond (w.time ts))).plain = none := by
    apply ht.others
    intro hfh
    exact hhour (ht.hour hfh).symm
  have hfh : (l.openFile (w.time ts)).fh = some (utcSecond (w.time ts)) := line_fh _ _
  have hopen : (l.openFile (w.time ts)).hour = some (utcHour (w.time ts)) := line_hour _ _
  rcases openFile_spec hfresh with ⟨hhidden, hplain, hothers, hopened⟩
  rcases line_spec hfh hplain (.record w.record) with ⟨hrecords, hget⟩
  rw [hrun]
  refine ⟨tidy_line hfh hopen hplain hothers w.record, ?_, ?_, ?_⟩
  · rw [line_hour, hopen]
  · rw [hrecords, ← hhidden, add_right_comm]
    rfl
  · intro name
    rw [(hget name).2, hopened]
    split_ifs
    · rfl
    · rfl

/-! ## A run -/

/-- A name opened by a write has its record from then on. -/
theorem forall_opened_iff (names : List ℤ) (k : ℤ) (r : ρ) (records : ℤ → List ρ) :
    (∀ name ∈ names, (if name = k then [r] else records name) = []) ↔
      k ∉ names ∧ ∀ name ∈ names, records name = [] := by
  constructor
  · intro h
    have hnew : k ∉ names := by
      intro hmem
      simpa using h k hmem
    refine ⟨hnew, ?_⟩
    intro name hmem
    have hne : name ≠ k := by
      rintro rfl
      exact hnew hmem
    simpa [hne] using h name hmem
  · rintro ⟨hnew, h⟩ name hmem
    have hne : name ≠ k := by
      rintro rfl
      exact hnew hmem
    rw [if_neg hne]
    exact h name hmem

/-- Over a run what is missing afterwards is what was hidden, which is nothing if and
only if no name is opened twice and none that has records. -/
theorem writeAll_lost (ts : ρ → Option ℚ) (writes : List (Write ρ)) {l : SampleLogger ρ}
    (ht : l.Tidy) :
    ∃ lost : Multiset ρ,
      (l.writeAll ts writes).dir.records + lost =
        l.dir.records + (writes.map Write.record : Multiset ρ) ∧
      (lost = 0 ↔ (opened l.hour (writes.map (Write.time ts))).Nodup ∧
        ∀ name ∈ opened l.hour (writes.map (Write.time ts)), (l.dir.get name).records = []) := by
  -- what is opened later depends on the hour only, and on which names have records
  induction writes generalizing l with
  | nil => exact ⟨0, by simp [writeAll], by simp [opened]⟩
  | cons w writes ih =>
      have hcons : ((w :: writes).map Write.record : Multiset ρ) =
          {w.record} + (writes.map Write.record : Multiset ρ) := rfl
      rw [hcons, List.map_cons, opened]
      by_cases hhour : some (utcHour (w.time ts)) = l.hour
      · rcases writeNow_same ht hhour with ⟨htidy, hhour', hrecords, hget⟩
        rcases ih htidy with ⟨lost, htotal, hlost⟩
        refine ⟨lost, ?_, ?_⟩
        · rw [← add_assoc, ← hrecords]
          exact htotal
        · rw [hlost, if_pos hhour, hhour']
          simp only [hget]
      · rcases writeNow_open ht hhour with ⟨htidy, hhour', hrecords, hget⟩
        rcases ih htidy with ⟨lost, htotal, hlost⟩
        refine ⟨lost + (l.dir.get (utcSecond (w.time ts))).records, ?_, ?_⟩
        · rw [← add_assoc, ← add_assoc, ← hrecords, add_right_comm _ _ (writes.map Write.record : Multiset ρ),
            ← htotal]
          rfl
        · rw [if_neg hhour, List.nodup_cons, List.forall_mem_cons, add_eq_zero, hlost, hhour',
            Multiset.coe_eq_zero]
          simp only [hget]
          rw [forall_opened_iff]
          tauto

theorem writeAll_keeps_iff (ts : ρ → Option ℚ) (writes : List (Write ρ)) {l : SampleLogger ρ}
    (ht : l.Tidy) :
    (l.writeAll ts writes).dir.records =
        l.dir.records + (writes.map Write.record : Multiset ρ) ↔
      (opened l.hour (writes.map (Write.time ts))).Nodup ∧
        ∀ name ∈ opened l.hour (writes.map (Write.time ts)), (l.dir.get name).records = [] := by
  rcases writeAll_lost ts writes ht with ⟨lost, htotal, hlost⟩
  rw [← hlost, ← htotal]
  exact left_eq_add

/-- Everything that could be read and everything written can be read afterwards, each
as often as it was there, if and only if no name is opened twice and no file opened
hides records from before. -/
theorem sample_log_keeps_iff (d : SampleDir ρ) (bootId : Option String) (ts : ρ → Option ℚ)
    (writes : List (Write ρ)) :
    ((new d bootId).writeAll ts writes).dir.records =
        d.records + (writes.map Write.record : Multiset ρ) ↔
      (opened none (writes.map (Write.time ts))).Nodup ∧
        ∀ name ∈ opened none (writes.map (Write.time ts)), (d.get name).records = [] := by
  have hkeeps := writeAll_keeps_iff ts writes (tidy_new d bootId)
  simpa only [new, SampleDir.records_housekeep, SampleDir.records_get_housekeep] using hkeeps

/-- The clock is set back by a second just after the hour: the second file of the same
name takes the place of the first, and its record is gone. -/
theorem sample_log_loses :
    let writes : List (Write ℕ) := [⟨1, some 3599, 0⟩, ⟨2, some 3600, 0⟩, ⟨3, some 3599, 0⟩]
    let l := (new SampleDir.empty (some "a")).writeAll (fun _ => none) writes
    1 ∉ l.dir.records ∧
      l.dir.records ≠ SampleDir.empty.records + (writes.map Write.record : Multiset ℕ) := by
  decide +kernel

end SampleLogger

/-! ## A clock that is not set back -/

theorem utcHour_mono {wall wall' : ℚ} (h : wall ≤ wall') : utcHour wall ≤ utcHour wall' :=
  Int.ediv_le_ediv (by decide) (Int.floor_mono h)

/-- Files opened later are of later hours. -/
theorem hour_lt_of_mem_opened {walls : List ℚ} {hour : ℤ} (h : walls.Pairwise (· ≤ ·))
    (hle : ∀ wall ∈ walls, hour ≤ utcHour wall) {name : ℤ} (hmem : name ∈ opened (some hour) walls) :
    hour < name / 3600 := by
  induction walls generalizing hour with
  | nil => simp [opened] at hmem
  | cons wall walls ih =>
      rw [List.pairwise_cons] at h
      rw [opened] at hmem
      have hwall : hour ≤ utcHour wall := hle wall List.mem_cons_self
      have hlater : ∀ wall' ∈ walls, utcHour wall ≤ utcHour wall' := by
        intro wall' hwall'
        exact utcHour_mono (h.1 wall' hwall')
      split_ifs at hmem with hsame
      · apply ih h.2 _ hmem
        intro wall' hwall'
        exact hle wall' (List.mem_cons_of_mem _ hwall')
      · rcases List.mem_cons.1 hmem with rfl | hmem
        · have hne : utcHour wall ≠ hour := by
            intro heq
            exact hsame (congrArg some heq)
          exact lt_of_le_of_ne hwall hne.symm
        · exact lt_of_le_of_lt hwall (ih h.2 hlater hmem)

/-- While the clock is not set back, the names opened increase, so none is opened twice. -/
theorem opened_increasing {walls : List ℚ} (h : walls.Pairwise (· ≤ ·)) (hour : Option ℤ) :
    (opened hour walls).Pairwise (· < ·) := by
  induction walls generalizing hour with
  | nil => exact List.Pairwise.nil
  | cons wall walls ih =>
      rw [List.pairwise_cons] at h
      rw [opened]
      split_ifs
      · exact ih h.2 hour
      · rw [List.pairwise_cons]
        refine ⟨?_, ih h.2 _⟩
        intro name hmem
        have hhour : utcHour wall < name / 3600 := by
          apply hour_lt_of_mem_opened h.2 _ hmem
          intro wall' hwall'
          exact utcHour_mono (h.1 wall' hwall')
        unfold utcHour at hhour
        omega

/-- From an empty directory and with such a clock nothing is lost. -/
theorem SampleLogger.new_empty_keeps (bootId : Option String) (ts : ρ → Option ℚ)
    {writes : List (Write ρ)} (h : (writes.map (Write.time ts)).Pairwise (· ≤ ·)) :
    ((new SampleDir.empty bootId).writeAll ts writes).dir.records =
      (writes.map Write.record : Multiset ρ) := by
  have hkeeps := (writeAll_keeps_iff ts writes (tidy_new SampleDir.empty bootId)).2
    ⟨(opened_increasing h none).imp ne_of_lt, fun _ _ => rfl⟩
  exact hkeeps.trans (zero_add _)

end TurboMac.Linux
