import TurboMac.Linux.LastSamples

/-! # The histories that loggers leave

A directory that holds a history holds a longer one after another boot has written to
it, if its clock goes on from where the log ends: the new boot's records in files of an
hour each, all but the last one compressed. A power loss in a line leaves the same
history with a torn line at its end.
-/

namespace TurboMac.Linux

variable {ρ : Type}

/-! ## Compressed files -/

def SampleFile.gzipped (f : SampleFile ρ) : SampleFile ρ := { f with form := .gz }

@[simp] theorem SampleFile.name_gzipped (f : SampleFile ρ) : f.gzipped.name = f.name := rfl

@[simp] theorem SampleFile.records_gzipped (f : SampleFile ρ) : f.gzipped.records = f.records := rfl

@[simp] theorem SampleFile.file_gzipped (id : String) (f : SampleFile ρ) :
    f.gzipped.file id = (f.file id).compress := by
  unfold SampleFile.file
  cases f.form with
  | plain => rfl
  | gz => rfl
  | both => rfl

theorem SampleFile.file_plain {f : SampleFile ρ} (hform : f.form = .plain)
    (hending : f.ending = .whole) {id : String} :
    f.file id = ⟨some (.header (some id) f.ts :: f.records.map .record), none⟩ := by
  rw [SampleFile.file, hform, SampleFile.lines, hending]

/-- Every value of a directory's list compressed. -/
def compressAll (files : List (ℤ × LogFile ρ)) : List (ℤ × LogFile ρ) :=
  files.map fun item => (item.1, item.2.compress)

theorem keys_compressAll (files : List (ℤ × LogFile ρ)) :
    (compressAll files).map Prod.fst = files.map Prod.fst := by
  simp [compressAll, Function.comp_def]

namespace Boot

/-- The boot after all its files were compressed. -/
def gzipped (b : Boot ρ) : Boot ρ where
  id := b.id
  earlier := b.earlier.map SampleFile.gzipped
  last := b.last.gzipped
  named := b.named
  finished := by
    intro f hf
    rcases List.mem_map.1 hf with ⟨f', hf', rfl⟩
    exact b.finished f' hf'

theorem entries_gzipped (b : Boot ρ) : b.gzipped.entries = compressAll b.entries := by
  simp [entries, compressAll, files, gzipped, Function.comp_def]

theorem records_gzipped (b : Boot ρ) : b.gzipped.records = b.records := by
  simp [records, files, gzipped, List.flatMap_map]

theorem entries_eq (b : Boot ρ) :
    b.entries = (b.earlier.map fun f => (f.name, f.file b.id)) ++
      [(b.last.name, b.last.file b.id)] := by
  simp [entries, files]

end Boot

namespace History

theorem entries_gzipped (boots : List (Boot ρ)) :
    (boots.map Boot.gzipped).flatMap Boot.entries = compressAll (boots.flatMap Boot.entries) := by
  rw [List.flatMap_map, compressAll, List.map_flatMap]
  congr 1
  funext b
  exact b.entries_gzipped

/-- The history after all its files were compressed. -/
def gzipped (h : History ρ) : History ρ where
  boots := h.boots.map Boot.gzipped
  ids := by
    rw [List.map_map]
    exact h.ids
  ordered := by
    rw [entries_gzipped, keys_compressAll]
    exact h.ordered

/-- The boots and their records, oldest first. -/
def contents (h : History ρ) : List (String × List ρ) := h.boots.map fun b => (b.id, b.records)

theorem contents_gzipped (h : History ρ) : h.gzipped.contents = h.contents := by
  unfold contents gzipped
  rw [List.map_map]
  congr 1
  funext b
  rw [Function.comp_apply, b.records_gzipped]
  rfl

/-- What a new logger does first. -/
theorem Fills.housekeep {h : History ρ} {d : SampleDir ρ} (hd : h.Fills d) :
    h.gzipped.Fills (d.housekeep none) := by
  have hall : (d.housekeep none).files = compressAll d.files := by
    simp [SampleDir.housekeep, Table.mapAll, compressAll]
  unfold Fills gzipped
  rw [hall, entries_gzipped]
  exact hd.map _

end History

/-! ## The boot that is being written -/

namespace Boot

theorem records_eq (b : Boot ρ) :
    b.records = b.earlier.flatMap SampleFile.records ++ b.last.records := by
  simp [records, files]

/-- A new file, which is the boot's last. -/
def freshFile (name : ℤ) (ts : ℚ) (r : ρ) : SampleFile ρ where
  name := name
  ts := ts
  records := [r]
  ending := .whole
  form := .plain
  blank := by simp

/-- The first record of a boot. -/
def started (id : String) (hid : id ≠ "") (name : ℤ) (ts : ℚ) (r : ρ) : Boot ρ where
  id := id
  earlier := []
  last := freshFile name ts r
  named := hid
  finished := by simp

/-- One more record in the last file. -/
def written (b : Boot ρ) (hwhole : b.last.ending = .whole) (r : ρ) : Boot ρ :=
  { b with last := { b.last with
      records := b.last.records ++ [r]
      blank := by simp [hwhole] } }

/-- One more record, in a new file. -/
def rotated (b : Boot ρ) (hwhole : b.last.ending = .whole) (name : ℤ) (ts : ℚ) (r : ρ) : Boot ρ :=
  { b with
    earlier := b.earlier ++ [b.last.gzipped]
    last := freshFile name ts r
    finished := by
      intro f hf
      rcases List.mem_append.1 hf with hf | hf
      · exact b.finished f hf
      · rw [List.mem_singleton.1 hf]
        exact hwhole }

/-- The last line cut short by a power loss. -/
def torn (b : Boot ρ) : Boot ρ :=
  { b with last := { b.last with
      ending := .line
      blank := by simp } }

end Boot

namespace SampleLogger

/-- A logger that writes the boot `b` beside the files `old`: its last file is open, and
all others are compressed. -/
structure Logs (l : SampleLogger ρ) (old : List (ℤ × LogFile ρ)) (b : Boot ρ) : Prop where
  files : l.dir.files.Perm (old ++ b.entries)
  fh : l.fh = some b.last.name
  hour : l.hour = some (b.last.name / 3600)
  bootId : l.bootId = some b.id
  whole : b.last.ending = .whole
  plain : b.last.form = .plain
  compressed : ∀ item ∈ old, item.2.compress = item.2
  earlier : ∀ f ∈ b.earlier, f.form = .gz
  ordered : ((old ++ b.entries).map Prod.fst).Pairwise (· < ·)

/-- A line in the open file, the others left as they are. -/
theorem files_line {l : SampleLogger ρ} {name : ℤ} (hfh : l.fh = some name)
    {before : List (ℤ × LogFile ρ)} {f : LogFile ρ} (hfiles : l.dir.files.Perm (before ++ [(name, f)]))
    (rec : LogLine ρ) : (l.line rec).dir.files.Perm (before ++ [(name, f.append rec)]) := by
  have hrun : (l.line rec).dir = l.dir.modify name (·.append rec) := by
    simp [line, hfh]
  rw [hrun]
  exact Table.modify_perm l.dir.nodup hfiles _

/-- A new file with its header, all others compressed. -/
theorem files_openFile {l : SampleLogger ρ} {wall : ℚ} {before : List (ℤ × LogFile ρ)}
    (hfiles : l.dir.files.Perm before) (hnew : utcSecond wall ∉ before.map Prod.fst) :
    (l.openFile wall).dir.files.Perm (compressAll before ++ [(utcSecond wall,
      ⟨some [.header l.bootId (Decimal.roundHalfEven (wall * 1000) / 1000)], none⟩)]) := by
  let touched : SampleLogger ρ := { l with
    dir := l.dir.modify (utcSecond wall) LogFile.touch
    fh := some (utcSecond wall)
    path := some (utcSecond wall)
    hour := some (utcHour wall) }
  let head : LogLine ρ := .header l.bootId (Decimal.roundHalfEven (wall * 1000) / 1000)
  -- the empty file, its header, and then all others compressed
  have htouched : touched.dir.files.Perm (before ++ [(utcSecond wall, ⟨some [], none⟩)]) := by
    have hnew' : utcSecond wall ∉ l.dir.files.map Prod.fst := by
      rw [(hfiles.map Prod.fst).mem_iff]
      exact hnew
    show (Table.modify l.dir.files (utcSecond wall) LogFile.touch).Perm _
    rw [Table.modify_new hnew']
    exact hfiles.append_right _
  have hhead := files_line (l := touched) rfl htouched head
  have hall (item : ℤ × LogFile ρ) (hitem : item ∈ before) :
      ¬ some item.1 = some (utcSecond wall) := by
    intro heq
    apply hnew
    rw [← Option.some.inj heq]
    exact List.mem_map_of_mem hitem
  have hrun : (l.openFile wall).dir.files = ((touched.line head).dir.files.map fun item =>
      (item.1, if some item.1 = some (utcSecond wall) then item.2 else item.2.compress)) := rfl
  rw [hrun]
  refine (hhead.map _).trans (List.Perm.of_eq ?_)
  rw [List.map_append, compressAll]
  congr 1
  · apply List.map_congr_left
    intro item hitem
    rw [if_neg (hall item hitem)]
  · simp [LogFile.append, head]

/-! ### Steps -/

theorem compressAll_of_compressed {files : List (ℤ × LogFile ρ)}
    (h : ∀ item ∈ files, item.2.compress = item.2) : compressAll files = files := by
  unfold compressAll
  nth_rewrite 2 [← List.map_id files]
  apply List.map_congr_left
  intro item hitem
  rw [h item hitem]
  rfl

/-- The first record of a boot. -/
theorem logs_started {l : SampleLogger ρ} {old : List (ℤ × LogFile ρ)} {id : String}
    (hid : id ≠ "") {ts : ρ → Option ℚ} {w : Write ρ} (hfiles : l.dir.files.Perm old)
    (hcompressed : ∀ item ∈ old, item.2.compress = item.2)
    (hordered : (old.map Prod.fst).Pairwise (· < ·))
    (hlater : ∀ name ∈ old.map Prod.fst, name < utcSecond (w.time ts))
    (hfh : l.fh = none) (hbootId : l.bootId = some id) :
    (l.writeNow ts w).Logs old (Boot.started id hid (utcSecond (w.time ts))
      (Decimal.roundHalfEven (w.time ts * 1000) / 1000) w.record) := by
  have hnew : utcSecond (w.time ts) ∉ old.map Prod.fst := by
    intro hmem
    exact lt_irrefl _ (hlater _ hmem)
  have hrun : l.writeNow ts w = (l.openFile (w.time ts)).line (.record w.record) := by
    simp [writeNow, hfh]
  have hopen := files_openFile hfiles hnew
  rw [compressAll_of_compressed hcompressed] at hopen
  have hfh' : (l.openFile (w.time ts)).fh = some (utcSecond (w.time ts)) := line_fh _ _
  have hbootId' : (l.openFile (w.time ts)).bootId = l.bootId := line_bootId _ _
  rw [hrun]
  constructor
  · have hline := files_line hfh' hopen (.record w.record)
    rw [hbootId] at hline
    exact hline
  · rw [line_fh, hfh']
    rfl
  · rw [line_hour]
    exact line_hour _ _
  · rw [line_bootId, hbootId', hbootId]
    rfl
  · rfl
  · rfl
  · exact hcompressed
  · intro f hf
    cases hf
  · show ((old ++ [(utcSecond (w.time ts), _)]).map Prod.fst).Pairwise (· < ·)
    rw [List.map_append, List.pairwise_append]
    refine ⟨hordered, List.pairwise_singleton _ _, ?_⟩
    intro name hname name' hname'
    rw [List.mem_singleton.1 hname']
    exact hlater name hname

/-- A record in the file that is open. -/
theorem Logs.written {l : SampleLogger ρ} {old : List (ℤ × LogFile ρ)} {b : Boot ρ}
    (hl : l.Logs old b) {ts : ρ → Option ℚ} {w : Write ρ}
    (hhour : some (utcHour (w.time ts)) = l.hour) :
    (l.writeNow ts w).Logs old (b.written hl.whole w.record) := by
  have hrun : l.writeNow ts w = l.line (.record w.record) := by
    simp [writeNow, hl.fh, hhour]
  have hfiles := hl.files
  rw [b.entries_eq, ← List.append_assoc] at hfiles
  have hline := files_line hl.fh hfiles (.record w.record)
  have hfile : (b.last.file b.id).append (.record w.record) =
      (b.written hl.whole w.record).last.file b.id := by
    rw [SampleFile.file_plain hl.plain hl.whole,
      SampleFile.file_plain (f := (b.written hl.whole w.record).last) hl.plain hl.whole]
    simp [LogFile.append, Boot.written]
  have hentries : (old ++ (b.written hl.whole w.record).entries).map Prod.fst =
      (old ++ b.entries).map Prod.fst := by
    rw [Boot.entries_eq, Boot.entries_eq]
    simp [Boot.written]
  rw [hrun]
  constructor
  · rw [Boot.entries_eq, ← List.append_assoc]
    rw [hfile] at hline
    exact hline
  · rw [line_fh]
    exact hl.fh
  · rw [line_hour]
    exact hl.hour
  · rw [line_bootId]
    exact hl.bootId
  · exact hl.whole
  · exact hl.plain
  · exact hl.compressed
  · exact hl.earlier
  · rw [hentries]
    exact hl.ordered

/-- A record in a new file: what was open is compressed. -/
theorem Logs.rotated {l : SampleLogger ρ} {old : List (ℤ × LogFile ρ)} {b : Boot ρ}
    (hl : l.Logs old b) {ts : ρ → Option ℚ} {w : Write ρ}
    (hhour : some (utcHour (w.time ts)) ≠ l.hour)
    (hlater : ∀ name ∈ (old ++ b.entries).map Prod.fst, name < utcSecond (w.time ts)) :
    (l.writeNow ts w).Logs old (b.rotated hl.whole (utcSecond (w.time ts))
      (Decimal.roundHalfEven (w.time ts * 1000) / 1000) w.record) := by
  have hnew : utcSecond (w.time ts) ∉ (old ++ b.entries).map Prod.fst := by
    intro hmem
    exact lt_irrefl _ (hlater _ hmem)
  have hrun : l.writeNow ts w = (l.openFile (w.time ts)).line (.record w.record) := by
    simp [writeNow, hhour]
  have hopen := files_openFile hl.files hnew
  have hfh' : (l.openFile (w.time ts)).fh = some (utcSecond (w.time ts)) := line_fh _ _
  have hbootId' : (l.openFile (w.time ts)).bootId = l.bootId := line_bootId _ _
  have hline := files_line hfh' hopen (.record w.record)
  have hgz : ∀ f ∈ b.earlier, (f.file b.id).compress = f.file b.id := by
    intro f hf
    rw [SampleFile.file, hl.earlier f hf]
    rfl
  -- the files that are there already, all compressed now
  have hbefore : compressAll (old ++ b.entries) = old ++
      ((b.earlier ++ [b.last.gzipped]).map fun f => (f.name, f.file b.id)) := by
    rw [compressAll, List.map_append, ← compressAll, ← compressAll,
      compressAll_of_compressed hl.compressed, Boot.entries_eq, List.map_append, compressAll,
      List.map_append]
    congr 2
    · rw [← compressAll]
      apply compressAll_of_compressed
      intro item hitem
      rcases List.mem_map.1 hitem with ⟨f, hf, rfl⟩
      exact hgz f hf
    · simp
  rw [hrun]
  constructor
  · rw [hbefore, hl.bootId, List.append_assoc] at hline
    rw [Boot.entries_eq]
    exact hline
  · rw [line_fh, hfh']
    rfl
  · rw [line_hour]
    exact line_hour _ _
  · rw [line_bootId, hbootId', hl.bootId]
    rfl
  · rfl
  · rfl
  · exact hl.compressed
  · intro f hf
    rcases List.mem_append.1 hf with hf | hf
    · exact hl.earlier f hf
    · rw [List.mem_singleton.1 hf]
      rfl
  · have hkeys : (old ++ (b.rotated hl.whole (utcSecond (w.time ts))
        (Decimal.roundHalfEven (w.time ts * 1000) / 1000) w.record).entries).map Prod.fst =
          (old ++ b.entries).map Prod.fst ++ [utcSecond (w.time ts)] := by
      rw [Boot.entries_eq, Boot.entries_eq]
      simp [Boot.rotated, Boot.freshFile]
    rw [hkeys, List.pairwise_append]
    refine ⟨hl.ordered, List.pairwise_singleton _ _, ?_⟩
    intro name hname name' hname'
    rw [List.mem_singleton.1 hname']
    exact hlater name hname

/-! ### Runs -/

/-- A later hour is after everything that was written. -/
theorem Logs.lt_of_hour {l : SampleLogger ρ} {old : List (ℤ × LogFile ρ)} {b : Boot ρ}
    (hl : l.Logs old b) {wall : ℚ} (hhour : b.last.name / 3600 < utcHour wall) :
    ∀ name ∈ (old ++ b.entries).map Prod.fst, name < utcSecond wall := by
  have hlast : b.last.name < utcSecond wall := by
    unfold utcHour at hhour
    omega
  have hordered := hl.ordered
  rw [Boot.entries_eq, ← List.append_assoc, List.map_append] at hordered ⊢
  intro name hname
  rcases List.mem_append.1 hname with hname | hname
  · exact lt_trans ((List.pairwise_append.1 hordered).2.2 name hname _ List.mem_cons_self) hlast
  · rw [List.mem_singleton.1 hname]
    exact hlast

/-- A run with a clock that is not set back: the records, in the order they were written. -/
theorem Logs.writeAll {ts : ρ → Option ℚ} {writes : List (Write ρ)} {l : SampleLogger ρ}
    {old : List (ℤ × LogFile ρ)} {b : Boot ρ} (hl : l.Logs old b)
    (hsorted : (writes.map (Write.time ts)).Pairwise (· ≤ ·))
    (hle : ∀ w ∈ writes, b.last.name / 3600 ≤ utcHour (w.time ts)) :
    ∃ b', (l.writeAll ts writes).Logs old b' ∧ b'.id = b.id ∧
      b'.records = b.records ++ writes.map Write.record := by
  induction writes generalizing l b with
  | nil => exact ⟨b, hl, rfl, by simp⟩
  | cons w writes ih =>
      rw [List.map_cons, List.pairwise_cons] at hsorted
      have hlater (w' : Write ρ) (hw' : w' ∈ writes) : utcHour (w.time ts) ≤ utcHour (w'.time ts) :=
        utcHour_mono (hsorted.1 _ (List.mem_map_of_mem hw'))
      by_cases hhour : some (utcHour (w.time ts)) = l.hour
      · rcases ih (hl.written hhour) hsorted.2 (fun w' hw' => hle w' (List.mem_cons_of_mem _ hw'))
          with ⟨b', hl', hid, hrecords⟩
        refine ⟨b', hl', hid, ?_⟩
        rw [hrecords, Boot.records_eq, Boot.records_eq]
        simp [Boot.written]
      · have hlt : b.last.name / 3600 < utcHour (w.time ts) := by
          apply lt_of_le_of_ne (hle w List.mem_cons_self)
          intro heq
          rw [hl.hour, heq] at hhour
          exact hhour rfl
        rcases ih (hl.rotated hhour (hl.lt_of_hour hlt)) hsorted.2 hlater
          with ⟨b', hl', hid, hrecords⟩
        refine ⟨b', hl', hid, ?_⟩
        rw [hrecords, Boot.records_eq, Boot.records_eq]
        simp [Boot.rotated, Boot.freshFile]

/-- The last line cut short: what is left is the same boot, torn. -/
theorem Logs.files_torn {l : SampleLogger ρ} {old : List (ℤ × LogFile ρ)} {b : Boot ρ}
    (hl : l.Logs old b) : (l.line .torn).dir.files.Perm (old ++ b.torn.entries) := by
  have hfiles := hl.files
  rw [b.entries_eq, ← List.append_assoc] at hfiles
  have hline := files_line hl.fh hfiles .torn
  have hfile : (b.last.file b.id).append .torn = b.torn.last.file b.id := by
    rw [SampleFile.file_plain hl.plain hl.whole, SampleFile.file]
    simp [Boot.torn, hl.plain, SampleFile.lines, LogFile.append]
  rw [hfile] at hline
  rw [Boot.entries_eq, ← List.append_assoc]
  exact hline

end SampleLogger

/-! ## Histories -/

/-- A history goes on with another boot. -/
theorem History.exists_append (h : History ρ) {b : Boot ρ} (hnew : b.id ∉ h.boots.map Boot.id)
    (hordered : ((h.boots.flatMap Boot.entries ++ b.entries).map Prod.fst).Pairwise (· < ·))
    {d : SampleDir ρ} (hfiles : d.files.Perm (h.boots.flatMap Boot.entries ++ b.entries)) :
    ∃ h' : History ρ, h'.boots = h.boots ++ [b] ∧ h'.Fills d := by
  have hentries : (h.boots ++ [b]).flatMap Boot.entries =
      h.boots.flatMap Boot.entries ++ b.entries := by
    simp
  refine ⟨⟨h.boots ++ [b], ?_, ?_⟩, rfl, ?_⟩
  · rw [List.map_append, List.nodup_append]
    refine ⟨h.ids, List.nodup_singleton _, ?_⟩
    rintro id hid id' hid' rfl
    apply hnew
    rw [List.map_singleton, List.mem_singleton] at hid'
    rw [← hid']
    exact hid
  · rw [hentries]
    exact hordered
  · rw [History.Fills, hentries]
    exact hfiles

namespace SampleLogger

/-- A boot whose clock goes on from where the log ends adds its records, and the directory
holds a history again; also if the power is lost in a line, which is torn then. -/
theorem leaves_history {h : History ρ} {d : SampleDir ρ} (hd : h.Fills d) {id : String}
    (hid : id ≠ "") (hnew : id ∉ h.boots.map Boot.id) {ts : ρ → Option ℚ} {w : Write ρ}
    {writes : List (Write ρ)} (hsorted : ((w :: writes).map (Write.time ts)).Pairwise (· ≤ ·))
    (hlater : ∀ item ∈ d.files, item.1 < utcSecond (w.time ts)) :
    let l := (new d (some id)).writeAll ts (w :: writes)
    let contents := h.contents ++ [(id, (w :: writes).map Write.record)]
    (∃ h' : History ρ, h'.Fills l.dir ∧ h'.contents = contents) ∧
      ∃ h' : History ρ, h'.Fills (l.line .torn).dir ∧ h'.contents = contents ∧
        ∃ b ∈ h'.boots.getLast?, b.last.ending = .line := by
  intro l contents
  have hold := hd.housekeep
  have hnew' : id ∉ h.gzipped.boots.map Boot.id := by
    rw [History.gzipped, List.map_map]
    exact hnew
  have hcompressed : ∀ item ∈ h.gzipped.boots.flatMap Boot.entries, item.2.compress = item.2 := by
    intro item hitem
    rw [History.gzipped, History.entries_gzipped] at hitem
    rcases List.mem_map.1 hitem with ⟨item', -, rfl⟩
    exact LogFile.compress_compress item'.2
  have hafter : ∀ name ∈ (h.gzipped.boots.flatMap Boot.entries).map Prod.fst,
      name < utcSecond (w.time ts) := by
    intro name hname
    rw [History.gzipped, History.entries_gzipped, keys_compressAll, ← (hd.map Prod.fst).mem_iff]
      at hname
    rcases List.mem_map.1 hname with ⟨item, hitem, rfl⟩
    exact hlater item hitem
  rw [List.map_cons, List.pairwise_cons] at hsorted
  -- the first write opens a file; the others go on from there
  have hstarted := logs_started (l := new d (some id)) hid hold hcompressed h.gzipped.ordered
    hafter rfl rfl
  rcases hstarted.writeAll hsorted.2 (fun w' hw' =>
    utcHour_mono (hsorted.1 _ (List.mem_map_of_mem hw'))) with ⟨b, hl, hbid, hrecords⟩
  have hbid' : b.id = id := hbid
  have hcontents (b' : Boot ρ) (hid' : b'.id = b.id) (hrecords' : b'.records = b.records)
      {h' : History ρ} (hboots : h'.boots = h.gzipped.boots ++ [b']) : h'.contents = contents := by
    have hall : b.records = (w :: writes).map Write.record := by
      rw [hrecords, Boot.records_eq]
      rfl
    rw [History.contents, hboots, List.map_append, ← History.contents, History.contents_gzipped,
      List.map_singleton, hid', hrecords', hbid', hall]
  constructor
  · rcases h.gzipped.exists_append (hbid' ▸ hnew') hl.ordered hl.files with ⟨h', hboots, hfills⟩
    exact ⟨h', hfills, hcontents b rfl rfl hboots⟩
  · have hkeys : b.torn.entries.map Prod.fst = b.entries.map Prod.fst := by
      rw [Boot.entries_eq, Boot.entries_eq]
      simp [Boot.torn]
    have hordered : ((h.gzipped.boots.flatMap Boot.entries ++ b.torn.entries).map
        Prod.fst).Pairwise (· < ·) := by
      rw [List.map_append, hkeys, ← List.map_append]
      exact hl.ordered
    have hnew'' : b.torn.id ∉ h.gzipped.boots.map Boot.id := by
      show b.id ∉ _
      rw [hbid']
      exact hnew'
    rcases h.gzipped.exists_append hnew'' hordered hl.files_torn with ⟨h', hboots, hfills⟩
    refine ⟨h', hfills, hcontents b.torn rfl ?_ hboots, b.torn, ?_, rfl⟩
    · rw [Boot.records_eq, Boot.records_eq]
      rfl
    · rw [hboots, List.getLast?_concat]
      rfl

end SampleLogger

end TurboMac.Linux
