import Mathlib.Algebra.Order.Ring.Rat
import Mathlib.Data.List.AList
import TurboMac.Lib.Bytes
import TurboMac.Lib.Program
import Mathlib.Tactic.Linarith

/-! # The key table of `smc.SMC`

A read selects the index that the table has for the key, checks the name that
applesmc then gives, and takes the data. The table is that of the last scan, or
of the cache file; it may be out of date in any way. A name that is not the
key's leads to a scan, at most once a minute.

`SysfsSmcIO` raises an `OSError` for a selector that cannot be written and for
data that cannot be read. For the other files it returns a default, which a scan
takes for what is there.
-/

namespace TurboMac.Linux.SmcTable

open Bytes Program

abbrev Text := List Char

/-! ## `SysfsSmcIO` -/

/-- A key, with the texts as `read_text` gives them: stripped, so that names that differ
only in white space are left out. -/
structure Key where
  name : Text
  type : Text
  length : ℕ
  data : List Byte

/-- The keys that applesmc lists. `kinds` is the type and the length of each name
that exists: a name keeps them where it is moved. -/
structure KeyList (kinds : Text → Option (Text × ℕ)) where
  keys : List Key
  distinct : (keys.map Key.name).Nodup
  named : ∀ key ∈ keys, key.name ≠ []
  kind : ∀ key ∈ keys, kinds key.name = some (key.type, key.length)
  positive : ∀ key ∈ keys, 0 < key.length

inductive File where
  | keyCount | keyAtIndex | keyAtIndexName | keyAtIndexType | keyAtIndexDataLength | keyAtIndexData
  | cache
  deriving DecidableEq

structure Entry where
  index : ℤ
  type : Text
  length : ℤ

abbrev Table := AList fun _ : Text => Entry

/-- What the cache file holds. -/
structure Cached where
  keyCount : ℤ
  keys : Table

/-- What a call finds. A driver that refuses an index fails the write of the selector;
where it takes one that no key has, the reads fail. -/
structure Files (kinds : Text → Option (Text × ℕ)) where
  keys : KeyList kinds
  selector : ℤ
  /-- none where it is missing or malformed -/
  cacheFile : Option Cached
  /-- whether an `OSError` meets the operation of this number, by its file -/
  fails : ℕ → File → Bool
  operations : ℕ

variable {kinds : Text → Option (Text × ℕ)}

namespace Files

/-- One operation further. -/
def next (s : Files kinds) : Files kinds := { s with operations := s.operations + 1 }

/-- The key that the selector stands at. -/
def selected (s : Files kinds) : Option Key :=
  if 0 ≤ s.selector then s.keys.keys[s.selector.toNat]? else none

end Files

/-- One operation on a file: whether it succeeds. -/
def attempt (file : File) : StateM (Files kinds) Bool :=
  fun s => (!s.fails s.operations file, s.next)

/-- Read a file of the selected key, none for an `OSError`. -/
def readSelected {α : Type} (file : File) (field : Key → α) : StateM (Files kinds) (Option α) := do
  let ok ← attempt file
  let s ← get
  pure (if ok then s.selected.map field else none)

def keyCount : StateM (Files kinds) ℕ := do
  let ok ← attempt .keyCount
  let s ← get
  pure (if ok then s.keys.keys.length else 0)

/-- False for an `OSError`. -/
def select (index : ℤ) : StateM (Files kinds) Bool := do
  let ok ← attempt .keyAtIndex
  if ok then do
    modify fun s => { s with selector := index }
    pure true
  else pure false

def name : StateM (Files kinds) Text := do
  let text ← readSelected .keyAtIndexName Key.name
  pure (text.getD [])

def type : StateM (Files kinds) Text := do
  let text ← readSelected .keyAtIndexType Key.type
  pure (text.getD [])

def length : StateM (Files kinds) ℕ := do
  let text ← readSelected .keyAtIndexDataLength Key.length
  pure (text.getD 0)

/-- None for an `OSError`. -/
def data : StateM (Files kinds) (Option (List Byte)) := readSelected .keyAtIndexData Key.data

/-! ## `SMC` -/

/-- `RESCAN_MIN_INTERVAL_S`. -/
def rescanMinInterval : ℚ := 60

/-- An `SMC` object, without the selector that `restore` puts back. -/
structure SMC where
  /-- whether there is a cache path -/
  cachePath : Bool
  lastScan : Option ℚ
  table : Table
  ok : Bool
  /-- when each scan was started, the last first -/
  scans : List ℚ

/-- `__init__`. -/
def SMC.new (cachePath : Bool) : SMC where
  cachePath := cachePath
  lastScan := none
  table := ∅
  ok := false
  scans := []

/-- The keys of a cache file, none where they are for another count or there are none. -/
def Cached.tableFor (raw : Cached) (count : ℕ) : Option Table :=
  if raw.keyCount = count ∧ raw.keys.entries ≠ [] then some raw.keys else none

/-- `_load_cache`, none for `False`. -/
def loadCache (cachePath : Bool) (count : ℕ) : StateM (Files kinds) (Option Table) :=
  if cachePath then do
    let ok ← attempt .cache
    let s ← get
    pure (if ok then s.cacheFile.bind fun raw => raw.tableFor count else none)
  else pure none

/-- The loop of `_scan` from index `i`, none for an `OSError`. -/
def scanFrom : ℕ → ℕ → Table → StateM (Files kinds) (Option Table)
  | 0, _, table => pure (some table)
  | remaining + 1, i, table => do
    let ok ← select i
    if ok then do
      let found ← name
      if found = [] then scanFrom remaining (i + 1) table
      else do
        let typ ← type
        let len ← length
        scanFrom remaining (i + 1) (table.insert found { index := i, type := typ, length := len })
    else pure none

/-- Write the cache file: an `OSError` leaves it as it is. -/
def saveCache (cachePath : Bool) (count : ℕ) (table : Table) : StateM (Files kinds) PUnit :=
  if cachePath ∧ table.entries ≠ [] then do
    let ok ← attempt .cache
    if ok then modify fun s => { s with cacheFile := some { keyCount := count, keys := table } }
    else pure ()
  else pure ()

/-- `_scan`, false for an `OSError`; `started` is what the clock gives. -/
def scan (started : ℚ) (count : ℕ) (smc : SMC) : StateM (Files kinds) (Bool × SMC) := do
  let smc := { smc with lastScan := some started, scans := started :: smc.scans }
  let scanned ← scanFrom count 0 ∅
  match scanned with
  | none => pure (false, smc)
  | some table => do
    saveCache smc.cachePath count table
    pure (true, { smc with table := table })

/-- `open`. -/
def openTable (started : ℚ) (smc : SMC) : StateM (Files kinds) SMC := do
  let count ← keyCount
  let cached ← loadCache smc.cachePath count
  match cached with
  | some table => pure { smc with table := table, ok := !table.entries.isEmpty }
  | none => do
    let scanned ← scan started count smc
    pure { scanned.2 with ok := scanned.1 && !scanned.2.table.entries.isEmpty }

/-- `data[:length] if length else data`. -/
def truncate (data : List Byte) (length : ℤ) : List Byte :=
  if length = 0 then data
  else if 0 < length then data.take length.toNat
  else data.take (data.length - length.natAbs)

/-- What `_raw_locked` comes to. -/
inductive Found where
  | error
  | none
  | value (typ : Text) (data : List Byte)
  deriving DecidableEq

/-- `_raw_locked`. -/
def rawLocked (table : Table) (key : Text) : StateM (Files kinds) Found :=
  match table.lookup key with
  | none => pure .none
  | some entry => do
    let ok ← select entry.index
    if ok then do
      let found ← name
      if found ≠ key then pure .none
      else do
        let bytes ← data
        pure (bytes.elim .error fun bytes => .value entry.type (truncate bytes entry.length))
    else pure .error

/-- What `raw` returns: an `OSError` is None. -/
def Found.result : Found → Option (Text × List Byte)
  | .value typ data => some (typ, data)
  | _ => Option.none

/-- The part of `raw` that follows the warning: scan, and read again. -/
def rescan (started : ℚ) (key : Text) (smc : SMC) :
    StateM (Files kinds) (Option (Text × List Byte) × SMC) := do
  let count ← keyCount
  let scanned ← scan started count smc
  if scanned.1 then do
    let got ← rawLocked scanned.2.table key
    pure (got.result, scanned.2)
  else pure (none, scanned.2)

/-- `raw`; `checked` and `started` are what the clock gives, one after the other. -/
def raw (checked started : ℚ) (key : Text) (smc : SMC) :
    StateM (Files kinds) (Option (Text × List Byte) × SMC) := do
  let got ← rawLocked smc.table key
  if got = .none ∧ key ∈ smc.table then
    if smc.lastScan.any (fun last => checked - last < rescanMinInterval) then pure (none, smc)
    else rescan started key smc
  else pure (got.result, smc)

/-! ## One operation -/

section Operations

variable {s : Files kinds} {file : File}

@[simp] theorem selected_next (s : Files kinds) : s.next.selected = s.selected := rfl
@[simp] theorem keys_next (s : Files kinds) : s.next.keys = s.keys := rfl
@[simp] theorem fails_next (s : Files kinds) : s.next.fails = s.fails := rfl

theorem exec_attempt (file : File) (s : Files kinds) :
    exec (attempt file) s = (!s.fails s.operations file, s.next) := rfl

theorem exec_readSelected {α : Type} (file : File) (field : Key → α) (s : Files kinds) :
    exec (readSelected file field) s =
      (if s.fails s.operations file then none else s.selected.map field, s.next) := by
  rw [readSelected, exec_bind, exec_attempt]
  cases s.fails s.operations file <;> rfl

theorem exec_keyCount (s : Files kinds) :
    exec keyCount s = (if s.fails s.operations .keyCount then 0 else s.keys.keys.length, s.next) := by
  rw [keyCount, exec_bind, exec_attempt]
  cases s.fails s.operations .keyCount <;> rfl

theorem exec_select (index : ℤ) (s : Files kinds) :
    exec (select index) s = if s.fails s.operations .keyAtIndex then (false, s.next)
      else (true, { s.next with selector := index }) := by
  rw [select, exec_bind, exec_attempt]
  cases s.fails s.operations .keyAtIndex <;> rfl

theorem exec_name (s : Files kinds) : exec name s =
    ((if s.fails s.operations .keyAtIndexName then none else s.selected.map Key.name).getD [], s.next) := by
  rw [name, exec_bind, exec_readSelected]
  rfl

theorem exec_type (s : Files kinds) : exec type s =
    ((if s.fails s.operations .keyAtIndexType then none else s.selected.map Key.type).getD [], s.next) := by
  rw [type, exec_bind, exec_readSelected]
  rfl

theorem exec_length (s : Files kinds) : exec length s =
    ((if s.fails s.operations .keyAtIndexDataLength then none else s.selected.map Key.length).getD 0,
      s.next) := by
  rw [length, exec_bind, exec_readSelected]
  rfl

/-- A name that is not empty is that of the selected key. -/
theorem selected_of_name {s : Files kinds} (h : (exec name s).1 ≠ []) :
    ∃ key, s.selected = some key ∧ (exec name s).1 = key.name := by
  rw [exec_name] at h ⊢
  split_ifs at h ⊢ with hfails
  · simp at h
  · cases hselected : s.selected with
    | none => simp [hselected] at h
    | some key => exact ⟨key, rfl, rfl⟩

/-! ### What operations leave alone -/

/-- `s'` has the keys and the failures of `s`. -/
def SameKeys (s s' : Files kinds) : Prop := s'.keys = s.keys ∧ s'.fails = s.fails

instance : IsPreorder (Files kinds) SameKeys where
  refl _ := ⟨rfl, rfl⟩
  trans _ _ _ h h' := ⟨h'.1.trans h.1, h'.2.trans h.2⟩

theorem keeps_readSelected {α : Type} (file : File) (field : Key → α) :
    Keeps SameKeys (readSelected file field : StateM (Files kinds) (Option α)) := by
  intro s
  rw [exec_readSelected]
  exact ⟨rfl, rfl⟩

theorem keeps_keyCount : Keeps SameKeys (keyCount : StateM (Files kinds) ℕ) := by
  intro s
  rw [exec_keyCount]
  exact ⟨rfl, rfl⟩

theorem keeps_select (index : ℤ) : Keeps SameKeys (select index : StateM (Files kinds) Bool) := by
  intro s
  rw [exec_select]
  split
  · exact ⟨rfl, rfl⟩
  · exact ⟨rfl, rfl⟩

theorem keeps_name : Keeps SameKeys (name : StateM (Files kinds) Text) :=
  (keeps_readSelected _ _).bind fun _ => keeps_pure _

theorem keeps_type : Keeps SameKeys (type : StateM (Files kinds) Text) :=
  (keeps_readSelected _ _).bind fun _ => keeps_pure _

theorem keeps_length : Keeps SameKeys (length : StateM (Files kinds) ℕ) :=
  (keeps_readSelected _ _).bind fun _ => keeps_pure _

theorem keeps_scanFrom (remaining i : ℕ) (table : Table) :
    Keeps SameKeys (scanFrom remaining i table : StateM (Files kinds) (Option Table)) := by
  induction remaining generalizing i table with
  | zero => exact keeps_pure _
  | succ remaining ih =>
      refine (keeps_select _).bind fun ok => Keeps.ite (keeps_name.bind fun found => ?_) (keeps_pure _)
      refine Keeps.ite (ih _ _) (keeps_type.bind fun typ => keeps_length.bind fun len => ?_)
      exact ih _ _

theorem keeps_saveCache (cachePath : Bool) (count : ℕ) (table : Table) :
    Keeps SameKeys (saveCache cachePath count table : StateM (Files kinds) PUnit) := by
  refine Keeps.ite (Keeps.bind (fun s => ⟨rfl, rfl⟩) fun ok => Keeps.ite ?_ (keeps_pure _)) (keeps_pure _)
  exact keeps_modify fun s => ⟨rfl, rfl⟩

theorem keeps_scan (started : ℚ) (count : ℕ) (smc : SMC) :
    Keeps SameKeys (scan started count smc : StateM (Files kinds) (Bool × SMC)) := by
  refine (keeps_scanFrom _ _ _).bind fun scanned => ?_
  cases scanned with
  | none => exact keeps_pure _
  | some table => exact (keeps_saveCache _ _ _).bind fun _ => keeps_pure _

end Operations

/-! ## Right tables -/

/-- The type and the length of every name that exists. -/
def Right (kinds : Text → Option (Text × ℕ)) (table : Table) : Prop :=
  ∀ name entry, table.lookup name = some entry → ∀ typ len, kinds name = some (typ, len) →
    entry.type = typ ∧ entry.length = len

/-- No `OSError` meets a read of a type or of a length. -/
def Files.ReadsKinds (s : Files kinds) : Prop :=
  ∀ n, s.fails n .keyAtIndexType = false ∧ s.fails n .keyAtIndexDataLength = false

theorem Files.ReadsKinds.of_same {s s' : Files kinds} (h : s.ReadsKinds) (hsame : SameKeys s s') :
    s'.ReadsKinds := by
  unfold Files.ReadsKinds
  rw [hsame.2]
  exact h

/-- The selected key is one of the list. -/
theorem mem_of_selected {s : Files kinds} {key : Key} (h : s.selected = some key) :
    key ∈ s.keys.keys := by
  unfold Files.selected at h
  split_ifs at h with hpos
  exact List.mem_of_getElem? h

theorem right_empty : Right kinds ∅ := by
  intro name entry h
  simp at h

theorem right_insert {table : Table} (h : Right kinds table) (key : Key) (index : ℤ)
    (hkind : kinds key.name = some (key.type, key.length)) :
    Right kinds (table.insert key.name { index := index, type := key.type, length := key.length }) := by
  intro name entry hlookup typ len hname
  by_cases heq : name = key.name
  · subst heq
    rw [AList.lookup_insert] at hlookup
    rw [hkind] at hname
    cases hlookup
    cases hname
    exact ⟨rfl, rfl⟩
  · rw [AList.lookup_insert_ne heq] at hlookup
    exact h name entry hlookup typ len hname

/-- One index of a scan. -/
theorem exec_scanFrom_succ (remaining i : ℕ) (table : Table) (s : Files kinds) :
    exec (scanFrom (remaining + 1) i table) s =
      if (exec (select i) s).1 then
        if (exec name (exec (select i) s).2).1 = [] then
          exec (scanFrom remaining (i + 1) table) (exec name (exec (select i) s).2).2
        else
          exec (scanFrom remaining (i + 1) (table.insert (exec name (exec (select i) s).2).1
            { index := i
              type := (exec type (exec name (exec (select i) s).2).2).1
              length := (exec length (exec type (exec name (exec (select i) s).2).2).2).1 }))
            (exec length (exec type (exec name (exec (select i) s).2).2).2).2
      else (none, (exec (select i) s).2) := by
  rw [scanFrom, exec_bind, exec_ite, exec_bind, exec_ite, exec_bind, exec_bind, exec_pure]

theorem exec_type_of_reads {s : Files kinds} (h : s.ReadsKinds) {key : Key}
    (hkey : s.selected = some key) : exec type s = (key.type, s.next) := by
  rw [exec_type, (h s.operations).1, hkey]
  rfl

theorem exec_length_of_reads {s : Files kinds} (h : s.ReadsKinds) {key : Key}
    (hkey : s.selected = some key) : exec length s = (key.length, s.next) := by
  rw [exec_length, (h s.operations).2, hkey]
  rfl

/-- What a scan reads of a key with a name is right. -/
theorem scanned_entry {s : Files kinds} (hreads : s.ReadsKinds) (hfound : (exec name s).1 ≠ []) :
    ∃ key ∈ s.keys.keys, s.selected = some key ∧ (exec name s).1 = key.name ∧
      (exec type (exec name s).2).1 = key.type ∧
      (exec length (exec type (exec name s).2).2).1 = key.length := by
  obtain ⟨key, hselected, hkey⟩ := selected_of_name hfound
  refine ⟨key, mem_of_selected hselected, hselected, hkey, ?_⟩
  have hstate : (exec name s).2 = s.next := by rw [exec_name]
  have hnext : s.next.ReadsKinds := hreads
  rw [hstate, exec_type_of_reads hnext hselected]
  refine ⟨rfl, ?_⟩
  have hnext' : s.next.next.ReadsKinds := hreads
  rw [exec_length_of_reads hnext' hselected]

theorem scanFrom_right {s : Files kinds} (hreads : s.ReadsKinds) {remaining i : ℕ} {table table' : Table}
    (htable : Right kinds table) (h : (exec (scanFrom remaining i table) s).1 = some table') :
    Right kinds table' := by
  induction remaining generalizing i table s with
  | zero =>
      cases h
      exact htable
  | succ remaining ih =>
      rw [exec_scanFrom_succ] at h
      have hselect := keeps_select i s
      have hname := keeps_name (exec (select i) s).2
      have htype := keeps_type (exec name (exec (select i) s).2).2
      have hlength := keeps_length (exec type (exec name (exec (select i) s).2).2).2
      split_ifs at h with hok hfound
      · exact ih (hreads.of_same (trans_of SameKeys hselect hname)) htable h
      · obtain ⟨key, hmem, -, hkey, htyp, hlen⟩ := scanned_entry (hreads.of_same hselect) hfound
        rw [hkey, htyp, hlen] at h
        -- the reads have changed neither the keys nor what fails
        have hsame := trans_of SameKeys (trans_of SameKeys hselect hname) (trans_of SameKeys htype hlength)
        exact ih (hreads.of_same hsame) (right_insert htable key i (KeyList.kind _ key hmem)) h

theorem scan_right {s : Files kinds} (hreads : s.ReadsKinds) {started : ℚ} {count : ℕ} {smc : SMC}
    (htable : Right kinds smc.table) : Right kinds (exec (scan started count smc) s).1.2.table := by
  unfold scan
  rw [exec_bind]
  split
  · exact htable
  · rename_i table hscanned
    exact scanFrom_right hreads right_empty hscanned

/-- A scan that an `OSError` ends leaves the table. -/
theorem scan_interrupted {s : Files kinds} {started : ℚ} {count : ℕ} {smc : SMC}
    (h : (exec (scan started count smc) s).1.1 = false) :
    (exec (scan started count smc) s).1.2.table = smc.table := by
  unfold scan at h ⊢
  rw [exec_bind] at h ⊢
  split at h
  · rfl
  · cases h

theorem scan_scans (s : Files kinds) (started : ℚ) (count : ℕ) (smc : SMC) :
    (exec (scan started count smc) s).1.2.scans = started :: smc.scans ∧
    (exec (scan started count smc) s).1.2.lastScan = some started := by
  unfold scan
  rw [exec_bind]
  split
  · exact ⟨rfl, rfl⟩
  · exact ⟨rfl, rfl⟩

/-! ## A read -/

theorem truncate_of_pos (data : List Byte) {length : ℕ} (h : 0 < length) :
    truncate data length = data.take length := by
  rw [truncate, if_neg (by omega), if_pos (by omega), Int.toNat_natCast]

theorem exec_rawLocked {table : Table} {key : Text} {entry : Entry} (h : table.lookup key = some entry)
    (s : Files kinds) :
    (exec (rawLocked table key) s).1 =
      if (exec (select entry.index) s).1 then
        if (exec name (exec (select entry.index) s).2).1 ≠ key then .none
        else (exec data (exec name (exec (select entry.index) s).2).2).1.elim .error
          fun bytes => .value entry.type (truncate bytes entry.length)
      else .error := by
  unfold rawLocked
  rw [h]
  dsimp only
  rw [exec_bind, exec_ite, exec_bind, exec_ite, exec_bind]
  split_ifs <;> rfl

theorem data_cases {s : Files kinds} {key : Key} (h : s.selected = some key) :
    (exec data s).1 = none ∨ (exec data s).1 = some key.data := by
  rw [data, exec_readSelected, h]
  cases s.fails s.operations .keyAtIndexData with
  | true => exact .inl rfl
  | false => exact .inr rfl

/-- What `_raw_locked` returns is the value of the key. -/
theorem rawLocked_value {s : Files kinds} {table : Table} (htable : Right kinds table) {key : Text}
    (hkey : key ≠ []) {typ : Text} {bytes : List Byte}
    (h : (exec (rawLocked table key) s).1 = .value typ bytes) :
    ∃ k ∈ s.keys.keys, k.name = key ∧ typ = k.type ∧ bytes = k.data.take k.length := by
  cases hlookup : table.lookup key with
  | none =>
      unfold rawLocked at h
      rw [hlookup] at h
      cases h
  | some entry =>
      rw [exec_rawLocked hlookup] at h
      have hkeys := (keeps_select entry.index s).1
      set s₁ := (exec (select entry.index) s).2
      split_ifs at h with hok hname
      -- the name that was read is the key's
      rw [not_not] at hname
      obtain ⟨k, hselected, hk⟩ := selected_of_name (s := s₁) (by rwa [hname])
      have hmem := mem_of_selected hselected
      have hselected' : (exec name s₁).2.selected = some k := by rw [exec_name, selected_next, hselected]
      rcases data_cases hselected' with hdata | hdata
      · rw [hdata] at h
        cases h
      · rw [hdata] at h
        obtain ⟨rfl, rfl⟩ : entry.type = typ ∧ truncate k.data entry.length = bytes := by
          simpa using h
        have hname : k.name = key := hk.symm.trans hname
        obtain ⟨htype, hlength⟩ := htable key entry hlookup k.type k.length
          (hname ▸ s₁.keys.kind k hmem)
        rw [htype, hlength, truncate_of_pos _ (s₁.keys.positive k hmem)]
        exact ⟨k, hkeys ▸ hmem, hname, rfl, rfl⟩

/-! ## Calls without an `OSError` -/

/-- No operation fails. -/
def Files.Quiet (s : Files kinds) : Prop := ∀ n file, s.fails n file = false

theorem Files.Quiet.of_same {s s' : Files kinds} (h : s.Quiet) (hsame : SameKeys s s') : s'.Quiet := by
  unfold Files.Quiet
  rw [hsame.2]
  exact h

theorem Files.Quiet.readsKinds {s : Files kinds} (h : s.Quiet) : s.ReadsKinds :=
  fun n => ⟨h n _, h n _⟩

theorem exec_select_quiet {s : Files kinds} (h : s.Quiet) (index : ℤ) :
    exec (select index) s = (true, { s.next with selector := index }) := by
  rw [exec_select, h s.operations]
  rfl

theorem exec_name_quiet {s : Files kinds} (h : s.Quiet) {key : Key} (hkey : s.selected = some key) :
    exec name s = (key.name, s.next) := by
  rw [exec_name, h s.operations, hkey]
  rfl

theorem exec_data_quiet {s : Files kinds} (h : s.Quiet) {key : Key} (hkey : s.selected = some key) :
    exec data s = (some key.data, s.next) := by
  rw [data, exec_readSelected, h s.operations, hkey]
  rfl

/-- The selector at an index that has a key. -/
theorem selected_of_index {s : Files kinds} {i : ℕ} {key : Key} (hselector : s.selector = i)
    (h : s.keys.keys[i]? = some key) : s.selected = some key := by
  rw [Files.selected, hselector, if_pos (by omega), Int.toNat_natCast, h]

/-- The first `i` keys are in the table, as they are. -/
def Indexed (keys : List Key) (i : ℕ) (table : Table) : Prop :=
  ∀ j < i, ∀ key, keys[j]? = some key →
    table.lookup key.name = some { index := j, type := key.type, length := key.length }

theorem indexed_insert {keys : List Key} (hdistinct : (keys.map Key.name).Nodup) {i : ℕ} {table : Table}
    (h : Indexed keys i table) {key : Key} (hkey : keys[i]? = some key) :
    Indexed keys (i + 1)
      (table.insert key.name { index := i, type := key.type, length := key.length }) := by
  intro j hj other hother
  rcases Nat.lt_succ_iff_lt_or_eq.mp hj with hlt | rfl
  · have hne : other.name ≠ key.name := by
      intro heq
      have hnames : (keys.map Key.name)[j]? = (keys.map Key.name)[i]? := by
        rw [List.getElem?_map, List.getElem?_map, hother, hkey, Option.map_some, Option.map_some, heq]
      have hlength : j < (keys.map Key.name).length := by
        rw [List.length_map]
        exact (List.getElem?_eq_some_iff.mp hother).1
      have hji := (List.getElem?_inj hlength hdistinct).mp hnames
      omega
    rw [AList.lookup_insert_ne hne]
    exact h j hlt other hother
  · rw [hkey] at hother
    cases hother
    exact AList.lookup_insert table

/-- A scan of the keys from index `i` on. -/
theorem scanFrom_quiet {s : Files kinds} (hquiet : s.Quiet) {remaining i : ℕ}
    (hcount : i + remaining = s.keys.keys.length) {table : Table}
    (htable : Indexed s.keys.keys i table) :
    ∃ table', (exec (scanFrom remaining i table) s).1 = some table' ∧
      Indexed s.keys.keys s.keys.keys.length table' := by
  induction remaining generalizing i table s with
  | zero =>
      obtain rfl : i = s.keys.keys.length := hcount
      exact ⟨table, rfl, htable⟩
  | succ remaining ih =>
      have hlt : i < s.keys.keys.length := by omega
      set key := s.keys.keys[i]
      have hkey : s.keys.keys[i]? = some key := List.getElem?_eq_getElem hlt
      have hnamed : key.name ≠ [] := s.keys.named key (List.getElem_mem hlt)
      have hselected : ({ s.next with selector := i } : Files kinds).selected = some key :=
        selected_of_index rfl hkey
      have hcount' : i + 1 + remaining = s.keys.keys.length := by omega
      have hsome := indexed_insert s.keys.distinct htable hkey
      rw [exec_scanFrom_succ, exec_select_quiet hquiet, if_pos rfl,
        exec_name_quiet (s := { s.next with selector := i }) hquiet hselected, if_neg hnamed,
        exec_type_of_reads (s := Files.next { s.next with selector := i }) hquiet.readsKinds hselected,
        exec_length_of_reads (s := Files.next (Files.next { s.next with selector := i }))
          hquiet.readsKinds hselected]
      exact @ih (Files.next (Files.next (Files.next { s.next with selector := i }))) hquiet (i + 1)
        hcount' _ hsome

theorem scan_quiet {s : Files kinds} (hquiet : s.Quiet) (started : ℚ) (smc : SMC) :
    (exec (scan started s.keys.keys.length smc) s).1.1 = true ∧
    Indexed s.keys.keys s.keys.keys.length
      (exec (scan started s.keys.keys.length smc) s).1.2.table := by
  have hempty : Indexed s.keys.keys 0 ∅ := by
    intro j hj
    omega
  obtain ⟨table, hscanned, htable⟩ := scanFrom_quiet hquiet (Nat.zero_add _) hempty
  unfold scan
  rw [exec_bind, hscanned]
  exact ⟨rfl, htable⟩

/-- A read of a key that is where the table has it. -/
theorem rawLocked_indexed {s : Files kinds} (hquiet : s.Quiet) {table : Table}
    (htable : Indexed s.keys.keys s.keys.keys.length table) {key : Key} (hkey : key ∈ s.keys.keys) :
    (exec (rawLocked table key.name) s).1 = .value key.type (key.data.take key.length) := by
  obtain ⟨i, hlt, hi⟩ := List.mem_iff_getElem.mp hkey
  have hkey' : s.keys.keys[i]? = some key := by rw [List.getElem?_eq_getElem hlt, hi]
  have hselected : ({ s.next with selector := i } : Files kinds).selected = some key :=
    selected_of_index rfl hkey'
  rw [exec_rawLocked (htable i hlt key hkey'), exec_select_quiet hquiet, if_pos rfl,
    exec_name_quiet (s := { s.next with selector := i }) hquiet hselected,
    exec_data_quiet (s := Files.next { s.next with selector := i }) hquiet hselected]
  rw [if_neg (not_not.mpr rfl), Option.elim_some, truncate_of_pos _ (s.keys.positive key hkey)]

/-- Without an `OSError` a read gives the name's value or no value. -/
theorem rawLocked_quiet {s : Files kinds} (hquiet : s.Quiet) {table : Table} {key : Text}
    (hkey : key ≠ []) : (exec (rawLocked table key) s).1 ≠ .error := by
  intro h
  cases hlookup : table.lookup key with
  | none =>
      unfold rawLocked at h
      rw [hlookup] at h
      cases h
  | some entry =>
      rw [exec_rawLocked hlookup, exec_select_quiet hquiet, if_pos rfl] at h
      set s₁ : Files kinds := { s.next with selector := entry.index }
      have hquiet₁ : s₁.Quiet := hquiet
      split_ifs at h with hname
      rw [not_not] at hname
      obtain ⟨k, hselected, hk⟩ := selected_of_name (s := s₁) (by rwa [hname])
      rw [exec_name_quiet hquiet₁ hselected, exec_data_quiet (s := s₁.next) hquiet₁ hselected] at h
      cases h

/-! ## `raw` -/

theorem keeps_rawLocked (table : Table) (key : Text) :
    Keeps SameKeys (rawLocked table key : StateM (Files kinds) Found) := by
  unfold rawLocked
  split
  · exact keeps_pure _
  · refine (keeps_select _).bind fun ok => Keeps.ite (keeps_name.bind fun found => ?_) (keeps_pure _)
    exact Keeps.ite (keeps_pure _) ((keeps_readSelected _ _).bind fun bytes => keeps_pure _)

theorem exec_rescan (started : ℚ) (key : Text) (smc : SMC) (s : Files kinds) :
    (exec (rescan started key smc) s).1 =
      if (exec (scan started (exec keyCount s).1 smc) (exec keyCount s).2).1.1 then
        ((exec (rawLocked (exec (scan started (exec keyCount s).1 smc) (exec keyCount s).2).1.2.table key)
          (exec (scan started (exec keyCount s).1 smc) (exec keyCount s).2).2).1.result,
          (exec (scan started (exec keyCount s).1 smc) (exec keyCount s).2).1.2)
      else (none, (exec (scan started (exec keyCount s).1 smc) (exec keyCount s).2).1.2) := by
  rw [rescan, exec_bind, exec_bind, exec_ite, exec_bind]
  split_ifs <;> rfl

theorem exec_raw (checked started : ℚ) (key : Text) (smc : SMC) (s : Files kinds) :
    (exec (raw checked started key smc) s).1 =
      if (exec (rawLocked smc.table key) s).1 = .none ∧ key ∈ smc.table then
        if smc.lastScan.any (fun last => checked - last < rescanMinInterval) then (none, smc)
        else (exec (rescan started key smc) (exec (rawLocked smc.table key) s).2).1
      else ((exec (rawLocked smc.table key) s).1.result, smc) := by
  rw [raw, exec_bind, exec_ite, exec_ite]
  split_ifs <;> rfl

section Raw

variable {s : Files kinds} {smc : SMC} {checked started : ℚ} {key : Text}

theorem result_eq_some {found : Found} {typ : Text} {bytes : List Byte}
    (h : found.result = some (typ, bytes)) : found = .value typ bytes := by
  cases found with
  | error => cases h
  | none => cases h
  | value typ' bytes' =>
      cases h
      rfl

theorem rescan_value (hreads : s.ReadsKinds) (htable : Right kinds smc.table) (hkey : key ≠ [])
    {typ : Text} {bytes : List Byte} (h : (exec (rescan started key smc) s).1.1 = some (typ, bytes)) :
    ∃ k ∈ s.keys.keys, k.name = key ∧ typ = k.type ∧ bytes = k.data.take k.length := by
  have hcount := keeps_keyCount s
  have hscan := trans_of SameKeys hcount
    (keeps_scan started (exec keyCount s).1 smc (exec keyCount s).2)
  rw [exec_rescan] at h
  split_ifs at h with hok
  · obtain ⟨k, hmem, hk⟩ := rawLocked_value (scan_right (hreads.of_same hcount) htable) hkey
      (result_eq_some h)
    rw [hscan.1] at hmem
    exact ⟨k, hmem, hk⟩

/-- None, or the value of the key. -/
theorem raw_value (hreads : s.ReadsKinds) (htable : Right kinds smc.table) (hkey : key ≠ [])
    {typ : Text} {bytes : List Byte}
    (h : (exec (raw checked started key smc) s).1.1 = some (typ, bytes)) :
    ∃ k ∈ s.keys.keys, k.name = key ∧ typ = k.type ∧ bytes = k.data.take k.length := by
  have hlocked := keeps_rawLocked smc.table key s
  rw [exec_raw] at h
  split_ifs at h with hmoved hrecent
  · obtain ⟨k, hmem, hk⟩ := rescan_value (hreads.of_same hlocked) htable hkey h
    rw [hlocked.1] at hmem
    exact ⟨k, hmem, hk⟩
  · exact rawLocked_value htable hkey (result_eq_some h)

/-- What `raw` leaves is the object as it was, or as a scan leaves it. -/
theorem raw_smc_cases (s : Files kinds) (smc : SMC) (checked started : ℚ) (key : Text) :
    (exec (raw checked started key smc) s).1.2 = smc ∨
    ((∀ last, smc.lastScan = some last → last + rescanMinInterval ≤ checked) ∧
      ∃ s' count, SameKeys s s' ∧
        (exec (raw checked started key smc) s).1.2 = (exec (scan started count smc) s').1.2) := by
  rw [exec_raw]
  split_ifs with hmoved hrecent
  · exact .inl rfl
  · right
    constructor
    · intro last h
      rw [h] at hrecent
      simp only [Option.any_some, decide_eq_true_eq, not_lt] at hrecent
      linarith
    · have hsame := trans_of SameKeys (keeps_rawLocked smc.table key s) (keeps_keyCount _)
      refine ⟨_, (exec keyCount (exec (rawLocked smc.table key) s).2).1, hsame, ?_⟩
      rw [exec_rescan]
      split_ifs <;> rfl
  · exact .inl rfl

theorem raw_right (hreads : s.ReadsKinds) (htable : Right kinds smc.table) :
    Right kinds (exec (raw checked started key smc) s).1.2.table := by
  obtain h | ⟨-, s', count, hsame, h⟩ := raw_smc_cases s smc checked started key
  · rwa [h]
  · rw [h]
    exact scan_right (hreads.of_same hsame) htable

/-- A scan finds every key that exists. -/
theorem rescan_quiet (hquiet : s.Quiet) {k : Key} (hk : k ∈ s.keys.keys) :
    (exec (rescan started k.name smc) s).1.1 = some (k.type, k.data.take k.length) := by
  have hcount : exec keyCount s = (s.keys.keys.length, s.next) := by
    rw [exec_keyCount, hquiet s.operations]
    rfl
  have hsame : SameKeys s.next (exec (scan started s.keys.keys.length smc) s.next).2 :=
    keeps_scan started s.keys.keys.length smc s.next
  obtain ⟨hok, htable⟩ := scan_quiet (s := s.next) hquiet started smc
  rw [keys_next] at hok htable
  rw [exec_rescan, hcount, if_pos hok]
  -- the keys have not changed since the scan
  have hkeys : (exec (scan started s.keys.keys.length smc) s.next).2.keys = s.keys := hsame.1
  have hread := rawLocked_indexed (Files.Quiet.of_same (s := s.next) hquiet hsame)
    (by rw [hkeys]; exact htable) (by rw [hkeys]; exact hk)
  rw [hread]
  rfl

/-- Without an `OSError`, and with no scan in the last minute, a key that exists is read. -/
theorem raw_quiet (hquiet : s.Quiet) (htable : Right kinds smc.table)
    (hlast : ∀ last, smc.lastScan = some last → rescanMinInterval ≤ checked - last) {k : Key}
    (hk : k ∈ s.keys.keys) (hmem : k.name ∈ smc.table) :
    (exec (raw checked started k.name smc) s).1.1 = some (k.type, k.data.take k.length) := by
  have hnamed := s.keys.named k hk
  have hlocked := keeps_rawLocked smc.table k.name s
  rw [exec_raw]
  split_ifs with hmoved hrecent
  · -- the last scan is a minute old
    rw [Option.any_eq_true] at hrecent
    obtain ⟨last, hsome, hlt⟩ := hrecent
    have hle := hlast last hsome
    simp only [decide_eq_true_eq] at hlt
    linarith
  · have hk' : k ∈ (exec (rawLocked smc.table k.name) s).2.keys.keys := by rwa [hlocked.1]
    exact rescan_quiet (hquiet.of_same hlocked) hk'
  · rw [not_and'] at hmoved
    cases hgot : (exec (rawLocked smc.table k.name) s).1 with
    | error => exact absurd hgot (rawLocked_quiet hquiet hnamed)
    | none => exact absurd hgot (hmoved hmem)
    | value typ bytes =>
        obtain ⟨k', hk', hname, rfl, rfl⟩ := rawLocked_value htable hnamed hgot
        obtain rfl := List.inj_on_of_nodup_map s.keys.distinct hk' hk hname
        rfl

/-- A key that is not in the table is not read. -/
theorem raw_absent (h : key ∉ smc.table) : (exec (raw checked started key smc) s).1.1 = none := by
  have hlookup : smc.table.lookup key = none := AList.lookup_eq_none.mpr h
  have hgot : (exec (rawLocked smc.table key) s).1 = .none := by
    unfold rawLocked
    rw [hlookup]
    rfl
  rw [exec_raw, if_neg (fun hmoved => h hmoved.2), hgot]
  rfl

/-! ## `open` -/

/-- The cache file gives a right table. -/
def Files.RightCache (s : Files kinds) : Prop := ∀ raw, s.cacheFile = some raw → Right kinds raw.keys

theorem exec_loadCache (cachePath : Bool) (count : ℕ) (s : Files kinds) :
    (exec (loadCache cachePath count) s).1 =
      if cachePath then
        if !s.fails s.operations .cache then s.cacheFile.bind fun raw => raw.tableFor count else none
      else none := by
  rw [loadCache, exec_ite]
  split_ifs with hpath hok
  · rw [exec_bind, exec_attempt, hok]
    rfl
  · rw [Bool.not_eq_true] at hok
    rw [exec_bind, exec_attempt, hok]
    rfl
  · rfl

theorem loadCache_right (hcache : s.RightCache) {cachePath : Bool} {count : ℕ} {table : Table}
    (h : (exec (loadCache cachePath count) s).1 = some table) : Right kinds table := by
  rw [exec_loadCache] at h
  split_ifs at h with hpath hok
  obtain ⟨raw, hraw, htable⟩ := Option.bind_eq_some_iff.mp h
  unfold Cached.tableFor at htable
  split_ifs at htable
  cases htable
  exact hcache raw hraw

theorem keeps_loadCache (cachePath : Bool) (count : ℕ) :
    Keeps SameKeys (loadCache cachePath count : StateM (Files kinds) (Option Table)) := by
  refine Keeps.ite (Keeps.bind (fun s => ⟨rfl, rfl⟩) fun ok => ?_) (keeps_pure _)
  exact keeps_get.bind fun s => keeps_pure _

theorem openTable_right (hreads : s.ReadsKinds) (hcache : s.RightCache) (cachePath : Bool) :
    Right kinds (exec (openTable started (SMC.new cachePath)) s).1.table := by
  have hcount := keeps_keyCount s
  have hcache' : (exec keyCount s).2.RightCache := by
    rw [exec_keyCount]
    exact hcache
  have hload := keeps_loadCache cachePath (exec keyCount s).1 (exec keyCount s).2
  unfold openTable
  rw [exec_bind, exec_bind]
  split
  · rename_i table htable
    exact loadCache_right hcache' htable
  · rw [exec_bind]
    exact scan_right (hreads.of_same (trans_of SameKeys hcount hload)) right_empty

/-- `open` takes the table of the cache, or scans. -/
theorem openTable_scans (s : Files kinds) (started : ℚ) (cachePath : Bool) :
    ((exec (openTable started (SMC.new cachePath)) s).1.scans = [] ∧
      (exec (openTable started (SMC.new cachePath)) s).1.lastScan = none) ∨
    ((exec (openTable started (SMC.new cachePath)) s).1.scans = [started] ∧
      (exec (openTable started (SMC.new cachePath)) s).1.lastScan = some started) := by
  unfold openTable
  rw [exec_bind, exec_bind]
  split
  · exact .inl ⟨rfl, rfl⟩
  · rw [exec_bind]
    exact .inr (scan_scans _ started _ _)

end Raw

end TurboMac.Linux.SmcTable
