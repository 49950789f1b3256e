import Mathlib.Algebra.Order.Floor.Ring
import Mathlib.Data.Rat.Floor
import TurboMac.Lib.Crash
import TurboMac.Linux.SampleLog

/-! # `logger.py`: compressing a sample file

`compress_file` as the steps it takes on the three files of one name. Each may fail,
and after each the power may go. Whatever has happened, one whole copy can be read,
and the next call that is left alone finishes the work. The access time that is set with
the modification time is left out.
-/

namespace TurboMac.Linux

variable {β : Type}

/-! ## Files -/

/-- A file with its bytes and `st_mtime`. -/
structure StoredFile (β : Type) where
  bytes : List β
  mtime : ℚ
deriving DecidableEq, Repr

/-- The `gzip` module: the stream for the time of the header and a content, and what is
read of a stream that is whole. -/
structure Gzip (β : Type) where
  compress : ℤ → List β → List β
  decompress : List β → Option (List β)
  decompress_compress : ∀ mtime content, decompress (compress mtime content) = some content

/-- The files `path`, `path.gz` and `path.gz.tmp`. -/
structure CompressFiles (β : Type) where
  plain : Option (StoredFile β)
  gz : Option (StoredFile β)
  tmp : Option (StoredFile β)
deriving DecidableEq, Repr

/-- What `last_samples` can read under the name: the uncompressed file wins. -/
def CompressFiles.readable (gzip : Gzip β) (fs : CompressFiles β) : Option (List β) :=
  match fs.plain with
  | some f => some f.bytes
  | none => fs.gz.bind fun f => gzip.decompress f.bytes

/-! ## Steps -/

/-- What `compress_file` asks of the file system. -/
inductive FileStep (β : Type) where
  | stat
  | openSource
  | createTmp (now : ℚ)
  | extendTmp (piece : List β)
  | fsyncTmp
  | utimeTmp (mtime : ℚ)
  | replace
  | openDir
  | fsyncDir
  | unlinkPlain
deriving DecidableEq, Repr

/-- The files after a step, or none where the file it needs is not there. -/
def CompressFiles.step (fs : CompressFiles β) : FileStep β → Option (CompressFiles β)
  | .stat | .openSource => fs.plain.map fun _ => fs
  | .createTmp now => some { fs with tmp := some ⟨[], now⟩ }
  | .extendTmp piece => fs.tmp.map fun f => { fs with tmp := some { f with bytes := f.bytes ++ piece } }
  | .fsyncTmp | .openDir | .fsyncDir => some fs
  | .utimeTmp mtime => fs.tmp.map fun f => { fs with tmp := some { f with mtime := mtime } }
  | .replace => fs.tmp.map fun f => { fs with gz := some f, tmp := none }
  | .unlinkPlain => fs.plain.map fun _ => { fs with plain := none }

/-- How the stream comes in pieces, which steps fail, what leaving the `with` still
writes after a failure, and whether the temporary file can be removed then. -/
structure CompressAnswers (β : Type) where
  cuts : List ℕ
  now : ℚ
  fails : ℕ → Bool
  spill : List β
  unlinkTmp : Bool

/-- Nothing fails. -/
def CompressAnswers.Clean (answers : CompressAnswers β) : Prop :=
  (∀ i, answers.fails i = false) ∧ answers.unlinkTmp = true

/-- A stream in pieces of these lengths, the last one being the rest. -/
def pieces : List ℕ → List β → List (List β)
  | [], stream => [stream]
  | n :: cuts, stream => stream.take n :: pieces cuts (stream.drop n)

/-- `int(st.st_mtime)`. -/
def intMtime (mtime : ℚ) : ℤ := if 0 ≤ mtime then ⌊mtime⌋ else ⌈mtime⌉

/-- The `try` block of `compress_file`, with what `stat` has found. -/
def compressSteps (gzip : Gzip β) (answers : CompressAnswers β) (plain : Option (StoredFile β)) :
    List (FileStep β) :=
  match plain with
  | none => [.stat]
  | some st =>
    [.stat, .openSource, .createTmp answers.now] ++
      (pieces answers.cuts (gzip.compress (intMtime st.mtime) st.bytes)).map .extendTmp ++
      [.fsyncTmp, .utimeTmp st.mtime, .replace, .openDir, .fsyncDir, .unlinkPlain]

namespace CompressFiles

/-- Leaving the `with` after a failed step: what is buffered is written. -/
def spilled (answers : CompressAnswers β) (fs : CompressFiles β) : FileStep β → CompressFiles β
  | .extendTmp _ | .fsyncTmp => (fs.step (.extendTmp answers.spill)).getD fs
  | _ => fs

/-- `os.unlink(tmp)` of the `except`, which may fail too. -/
def unlinkTmp (answers : CompressAnswers β) (fs : CompressFiles β) : CompressFiles β :=
  if answers.unlinkTmp then { fs with tmp := none } else fs

/-- `compress_file`: the files after each of its steps, and whether it returns a path. -/
def compressFile (gzip : Gzip β) (answers : CompressAnswers β) (fs : CompressFiles β) :
    List (CompressFiles β) × Bool :=
  let (moments, failed) := Crash.attempt step answers.fails 0 (compressSteps gzip answers fs.plain) fs
  match failed with
  | none => (moments, true)
  | some x =>
    let left := (Crash.final fs moments).spilled answers x
    (moments ++ [left, left.unlinkTmp answers], false)

/-- The files that some calls can leave, each call as far as it came. A call starts with
the content in the uncompressed file, beside whatever earlier ones have left. -/
inductive Reachable (gzip : Gzip β) (content : List β) : CompressFiles β → Prop where
  | start (mtime : ℚ) (gz tmp : Option (StoredFile β)) :
      Reachable gzip content ⟨some ⟨content, mtime⟩, gz, tmp⟩
  | call {fs moment : CompressFiles β} (answers : CompressAnswers β)
      (hfs : Reachable gzip content fs) (hmoment : moment ∈ (fs.compressFile gzip answers).1) :
      Reachable gzip content moment

end CompressFiles

/-! ## What a step may do -/

namespace CompressFiles

/-- The compressed file is whole. -/
def GzWhole (gzip : Gzip β) (content : List β) (fs : CompressFiles β) : Prop :=
  ∃ f, fs.gz = some f ∧ gzip.decompress f.bytes = some content

/-- The content is in the uncompressed file, or that is gone and the compressed one is whole. -/
def Holds (gzip : Gzip β) (content : List β) (fs : CompressFiles β) : Prop :=
  (∃ f, fs.plain = some f ∧ f.bytes = content) ∨ (fs.plain = none ∧ fs.GzWhole gzip content)

/-- The uncompressed file stays as it is, or is removed while the compressed one is whole;
without it the compressed one stays as it is. -/
def Keeps (gzip : Gzip β) (content : List β) (fs fs' : CompressFiles β) : Prop :=
  (fs'.plain = fs.plain ∧ (fs.plain = none → fs'.gz = fs.gz)) ∨
    (fs'.plain = none ∧ fs'.gz = fs.gz ∧ fs.GzWhole gzip content)

variable {gzip : Gzip β} {content : List β} {fs fs' : CompressFiles β}

theorem Holds.keeps (h : fs.Holds gzip content) (hkeeps : fs.Keeps gzip content fs') :
    fs'.Holds gzip content := by
  rcases hkeeps with ⟨hplain, hgz⟩ | ⟨hplain, hgz, f, hwhole⟩
  · rcases h with ⟨f, hf, hcontent⟩ | ⟨hnone, f, hwhole⟩
    · exact .inl ⟨f, hplain.trans hf, hcontent⟩
    · exact .inr ⟨hplain.trans hnone, f, (hgz hnone).trans hwhole.1, hwhole.2⟩
  · exact .inr ⟨hplain, f, hgz.trans hwhole.1, hwhole.2⟩

theorem Holds.readable (h : fs.Holds gzip content) : fs.readable gzip = some content := by
  unfold CompressFiles.readable
  rcases h with ⟨f, hf, hcontent⟩ | ⟨hnone, f, hgz, hwhole⟩
  · rw [hf, ← hcontent]
  · rw [hnone, hgz, Option.bind_some, hwhole]

/-- A step on the temporary file and the directory leaves the other two. -/
theorem Keeps.of_tmp (hplain : fs'.plain = fs.plain) (hgz : fs'.gz = fs.gz) :
    fs.Keeps gzip content fs' := .inl ⟨hplain, fun _ => hgz⟩

/-! ## The steps of a call -/

theorem flatten_pieces (cuts : List ℕ) (stream : List β) : (pieces cuts stream).flatten = stream := by
  induction cuts generalizing stream with
  | nil => exact List.append_nil stream
  | cons n cuts ih => rw [pieces, List.flatten_cons, ih, List.take_append_drop]

/-- The steps after the stream has been written. -/
def lastSteps (mtime : ℚ) : List (FileStep β) :=
  [.fsyncTmp, .utimeTmp mtime, .replace, .openDir, .fsyncDir, .unlinkPlain]

/-- With a whole stream in the temporary file. -/
theorem along_lastSteps (mtime : ℚ) {f : StoredFile β} (htmp : fs.tmp = some f)
    (hplain : fs.plain ≠ none) (hwhole : gzip.decompress f.bytes = some content) :
    Crash.Along step (Keeps gzip content) (lastSteps mtime) fs := by
  intro fs₁ h₁
  cases h₁
  refine ⟨Keeps.of_tmp rfl rfl, ?_⟩
  intro fs₂ h₂
  rw [step, htmp] at h₂
  cases h₂
  refine ⟨Keeps.of_tmp rfl rfl, ?_⟩
  intro fs₃ h₃
  cases h₃
  refine ⟨.inl ⟨rfl, fun hnone => absurd hnone hplain⟩, ?_⟩
  intro fs₄ h₄
  cases h₄
  refine ⟨Keeps.of_tmp rfl rfl, ?_⟩
  intro fs₅ h₅
  cases h₅
  refine ⟨Keeps.of_tmp rfl rfl, ?_⟩
  intro fs₆ h₆
  obtain ⟨_, -, rfl⟩ := Option.map_eq_some_iff.1 h₆
  exact ⟨.inr ⟨rfl, rfl, _, rfl, hwhole⟩, trivial⟩

/-- With a part of the stream in the temporary file and the rest still to come. -/
theorem along_extend (mtime : ℚ) {f : StoredFile β} (rest : List (List β)) (htmp : fs.tmp = some f)
    (hplain : fs.plain ≠ none)
    (hwhole : gzip.decompress (f.bytes ++ rest.flatten) = some content) :
    Crash.Along step (Keeps gzip content) (rest.map .extendTmp ++ lastSteps mtime) fs := by
  induction rest generalizing fs f with
  | nil =>
      rw [List.flatten_nil, List.append_nil] at hwhole
      exact along_lastSteps mtime htmp hplain hwhole
  | cons piece rest ih =>
      intro fs₁ h₁
      rw [step, htmp] at h₁
      cases h₁
      refine ⟨Keeps.of_tmp rfl rfl, ih rfl hplain ?_⟩
      rw [List.append_assoc]
      exact hwhole

theorem along_compressSteps (answers : CompressAnswers β) (h : fs.Holds gzip content) :
    Crash.Along step (Keeps gzip content) (compressSteps gzip answers fs.plain) fs := by
  rcases h with ⟨st, hst, hcontent⟩ | ⟨hnone, -⟩
  · have hplain : fs.plain ≠ none := by
      rw [hst]
      exact Option.some_ne_none st
    rw [hst]
    intro fs₁ h₁
    obtain ⟨_, -, rfl⟩ := Option.map_eq_some_iff.1 h₁
    refine ⟨Keeps.of_tmp rfl rfl, ?_⟩
    intro fs₂ h₂
    obtain ⟨_, -, rfl⟩ := Option.map_eq_some_iff.1 h₂
    refine ⟨Keeps.of_tmp rfl rfl, ?_⟩
    intro fs₃ h₃
    cases h₃
    refine ⟨Keeps.of_tmp rfl rfl, ?_⟩
    show Crash.Along step (Keeps gzip content)
      ((pieces answers.cuts (gzip.compress (intMtime st.mtime) st.bytes)).map .extendTmp ++
        lastSteps st.mtime) { fs with tmp := some ⟨[], answers.now⟩ }
    refine along_extend st.mtime _ rfl (fun h => hplain h) ?_
    rw [flatten_pieces, ← hcontent]
    exact gzip.decompress_compress _ _
  · rw [hnone]
    intro fs₁ h₁
    rw [step, hnone] at h₁
    cases h₁

theorem keeps_spilled (answers : CompressAnswers β) (fs : CompressFiles β) (x : FileStep β) :
    fs.Keeps gzip content (fs.spilled answers x) := by
  have hextend : fs.Keeps gzip content ((fs.step (.extendTmp answers.spill)).getD fs) := by
    rw [step]
    cases fs.tmp with
    | none => exact Keeps.of_tmp rfl rfl
    | some f => exact Keeps.of_tmp rfl rfl
  unfold spilled
  split
  · exact hextend
  · exact hextend
  · exact Keeps.of_tmp rfl rfl

theorem keeps_unlinkTmp (answers : CompressAnswers β) (fs : CompressFiles β) :
    fs.Keeps gzip content (fs.unlinkTmp answers) := by
  unfold unlinkTmp
  split_ifs
  · exact Keeps.of_tmp rfl rfl
  · exact Keeps.of_tmp rfl rfl

/-- From moment to moment a call keeps the content, whatever fails. -/
theorem isChain_compressFile (answers : CompressAnswers β) (h : fs.Holds gzip content) :
    (fs :: (fs.compressFile gzip answers).1).IsChain (Keeps gzip content) := by
  have hchain := Crash.isChain_attempt answers.fails (along_compressSteps answers h) 0
  rcases hattempt : Crash.attempt step answers.fails 0 (compressSteps gzip answers fs.plain) fs
    with ⟨moments, failed⟩
  rw [hattempt] at hchain
  simp only [compressFile, hattempt]
  cases failed with
  | none => exact hchain
  | some x =>
      refine Crash.isChain_append hchain ?_
      rw [List.isChain_cons_cons, List.isChain_pair]
      exact ⟨keeps_spilled answers _ x, keeps_unlinkTmp answers _⟩

/-- After every moment of every call the content is there. -/
theorem Reachable.holds (h : Reachable gzip content fs) : fs.Holds gzip content := by
  induction h with
  | start mtime gz tmp => exact .inl ⟨_, rfl, rfl⟩
  | call answers _ hmoment ih =>
      exact Crash.forall_of_isChain (fun _ _ hP hR => Holds.keeps hP hR)
        (isChain_compressFile answers ih) ih _ hmoment

/-! ## A call that is left alone -/

theorem run_extend {f : StoredFile β} (rest : List (List β)) (xs : List (FileStep β))
    (htmp : fs.tmp = some f) :
    Interleaving.run step fs (rest.map .extendTmp ++ xs) =
      Interleaving.run step { fs with tmp := some { f with bytes := f.bytes ++ rest.flatten } } xs := by
  induction rest generalizing fs f with
  | nil =>
      rw [List.flatten_nil, List.append_nil, ← htmp]
      rfl
  | cons piece rest ih =>
      have hstep : fs.step (.extendTmp piece) =
          some { fs with tmp := some { f with bytes := f.bytes ++ piece } } := by
        rw [step, htmp]
        rfl
      rw [List.map_cons, List.cons_append, Interleaving.run, List.foldlM_cons, hstep]
      refine (ih rfl).trans ?_
      rw [List.flatten_cons, List.append_assoc]

/-- All steps, one after the other. -/
theorem run_compressSteps (gzip : Gzip β) (answers : CompressAnswers β) {st : StoredFile β}
    (hst : fs.plain = some st) :
    Interleaving.run step fs (compressSteps gzip answers (some st)) =
      some ⟨none, some ⟨gzip.compress (intMtime st.mtime) st.bytes, st.mtime⟩, none⟩ := by
  have hstat : fs.step .stat = some fs := by
    rw [step, hst]
    rfl
  have hopen : fs.step .openSource = some fs := by
    rw [step, hst]
    rfl
  let created : CompressFiles β := { fs with tmp := some ⟨[], answers.now⟩ }
  have hcreated : created.tmp = some ⟨[], answers.now⟩ := rfl
  have hwritten := run_extend (pieces answers.cuts (gzip.compress (intMtime st.mtime) st.bytes))
    (lastSteps st.mtime) hcreated
  rw [flatten_pieces] at hwritten
  have hfirst : Interleaving.run step fs (compressSteps gzip answers (some st)) =
      Interleaving.run step { fs with tmp := some ⟨[], answers.now⟩ }
        ((pieces answers.cuts (gzip.compress (intMtime st.mtime) st.bytes)).map .extendTmp ++
          lastSteps st.mtime) := by
    show List.foldlM step fs (.stat :: .openSource :: .createTmp answers.now :: _) = _
    rw [List.foldlM_cons, hstat, Option.bind_eq_bind, Option.bind_some, List.foldlM_cons, hopen,
      Option.bind_eq_bind, Option.bind_some]
    rfl
  rw [hfirst, hwritten]
  simp [Interleaving.run, lastSteps, step, created, hst]

/-- Where there is no uncompressed file, only the temporary one goes. -/
theorem compressFile_none {answers : CompressAnswers β} (hclean : answers.Clean)
    (hnone : fs.plain = none) :
    Crash.final fs (fs.compressFile gzip answers).1 = { fs with tmp := none } := by
  have hstat : fs.step .stat = none := by
    rw [step, hnone]
    rfl
  have hattempt : Crash.attempt step answers.fails 0 [.stat] fs = ([], some .stat) := by
    rw [Crash.attempt, hclean.1 0, hstat]
    rfl
  have hcall : (fs.compressFile gzip answers).1 = [fs, fs.unlinkTmp answers] := by
    simp only [compressFile, hnone, compressSteps, hattempt]
    rfl
  rw [hcall]
  show fs.unlinkTmp answers = _
  rw [unlinkTmp, if_pos hclean.2]

theorem compressFile_some {answers : CompressAnswers β} (hclean : answers.Clean) {st : StoredFile β}
    (hst : fs.plain = some st) :
    Crash.final fs (fs.compressFile gzip answers).1 =
      ⟨none, some ⟨gzip.compress (intMtime st.mtime) st.bytes, st.mtime⟩, none⟩ := by
  obtain ⟨hok, hfinal⟩ := Crash.attempt_of_run hclean.1 (run_compressSteps gzip answers hst) 0
  rw [← hfinal]
  simp only [compressFile, hst, hok]

/-- The two files as the lines in them. -/
def logFile {ρ : Type} (gzip : Gzip β) (decode : List β → List (LogLine ρ)) (fs : CompressFiles β) :
    LogFile ρ where
  plain := fs.plain.map fun f => decode f.bytes
  gz := fs.gz.bind fun f => (gzip.decompress f.bytes).map decode

/-- A call that is left alone does what `LogFile.compress` does at once. -/
theorem logFile_compressFile {ρ : Type} (decode : List β → List (LogLine ρ))
    {answers : CompressAnswers β} (hclean : answers.Clean) (fs : CompressFiles β) :
    (Crash.final fs (fs.compressFile gzip answers).1).logFile gzip decode =
      (fs.logFile gzip decode).compress := by
  cases hplain : fs.plain with
  | none =>
      rw [compressFile_none hclean hplain]
      simp [logFile, LogFile.compress, hplain]
  | some st =>
      rw [compressFile_some hclean hplain]
      simp [logFile, LogFile.compress, hplain, gzip.decompress_compress]

/-- After any moment of any calls the content can be read. The uncompressed file is only
removed while the compressed one is whole, and the next call that is left alone leaves
that one and nothing else. -/
theorem compress_crash_safe {gzip : Gzip β} {content : List β} {fs : CompressFiles β}
    (h : Reachable gzip content fs) :
    fs.readable gzip = some content ∧
    (∀ answers, (fs :: (fs.compressFile gzip answers).1).IsChain fun a b =>
      a.plain ≠ none → b.plain = none → a.GzWhole gzip content) ∧
    ∀ answers : CompressAnswers β, answers.Clean →
      ∃ f, Crash.final fs (fs.compressFile gzip answers).1 = ⟨none, some f, none⟩ ∧
        gzip.decompress f.bytes = some content := by
  have hholds := h.holds
  refine ⟨hholds.readable, ?_, ?_⟩
  · intro answers
    refine (isChain_compressFile answers hholds).imp ?_
    rintro a b (⟨hplain, -⟩ | ⟨-, -, hwhole⟩) hsome hnone
    · exact absurd (hplain.symm.trans hnone) hsome
    · exact hwhole
  · intro answers hclean
    rcases hholds with ⟨st, hst, hcontent⟩ | ⟨hnone, f, hgz, hwhole⟩
    · refine ⟨_, compressFile_some hclean hst, ?_⟩
      rw [← hcontent]
      exact gzip.decompress_compress _ _
    · refine ⟨f, ?_, hwhole⟩
      rw [compressFile_none hclean hnone, hnone, hgz]

/-- A stream that is the time and the content. -/
def timed : Gzip ℤ where
  compress mtime content := mtime :: content
  decompress
    | [] => none
    | _ :: content => some content
  decompress_compress _ _ := rfl

/-- Beside the leftovers of an earlier call. -/
theorem compress_crash_safe_leftovers :
    let fs : CompressFiles ℤ := ⟨some ⟨[1, 2, 3], 0⟩, some ⟨[0, 1, 2, 3], 0⟩, some ⟨[0, 1], 5⟩⟩
    fs.readable timed = some [1, 2, 3] ∧
    (∀ answers, (fs :: (fs.compressFile timed answers).1).IsChain fun a b =>
      a.plain ≠ none → b.plain = none → a.GzWhole timed [1, 2, 3]) ∧
    ∀ answers : CompressAnswers ℤ, answers.Clean →
      ∃ f, Crash.final fs (fs.compressFile timed answers).1 = ⟨none, some f, none⟩ ∧
        timed.decompress f.bytes = some [1, 2, 3] :=
  compress_crash_safe (.start 0 _ _)

end CompressFiles

end TurboMac.Linux
