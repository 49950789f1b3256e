import TurboMac.Linux.SmcTable

/-! # Runs of the SMC reader

`open`, then reads, while keys are moved, appear and vanish between the calls.
The table is right about every name that exists, and scans are a minute apart, as
long as no read of a type or of a length fails: the default that stands for it goes
into the table.
-/

namespace TurboMac.Linux.SmcTable

open Program

variable {kinds : Text → Option (Text × ℕ)}

/-- A run of `open` and `raw`, with the last time that the clock has given. Between
calls the files change in any way. -/
inductive Reachable (kinds : Text → Option (Text × ℕ)) : SMC → ℚ → Prop
  | openTable (s : Files kinds) (cachePath : Bool) (started : ℚ) (hcache : s.RightCache)
      (hreads : s.ReadsKinds) :
      Reachable kinds (exec (openTable started (SMC.new cachePath)) s).1 started
  | raw {smc : SMC} {now : ℚ} (h : Reachable kinds smc now) (s : Files kinds) (key : Text)
      (checked started : ℚ) (hnow : now ≤ checked) (hclock : checked ≤ started)
      (hreads : s.ReadsKinds) : Reachable kinds (exec (raw checked started key smc) s).1.2 started

/-- What every call leaves. -/
structure Inv (kinds : Text → Option (Text × ℕ)) (smc : SMC) (now : ℚ) : Prop where
  right : Right kinds smc.table
  last : smc.lastScan = smc.scans.head?
  past : ∀ scan ∈ smc.scans, scan ≤ now
  apart : smc.scans.Pairwise fun later earlier => earlier + rescanMinInterval ≤ later

namespace Inv

variable {smc : SMC} {now : ℚ}

/-- The scans are in order, so that what is far from the last is far from all. -/
theorem before_last (h : Inv kinds smc now) {last scan : ℚ} (hlast : smc.lastScan = some last)
    (hscan : scan ∈ smc.scans) : scan ≤ last := by
  have hhead := h.last
  have hapart := h.apart
  cases hscans : smc.scans with
  | nil => simp [hscans] at hscan
  | cons first rest =>
      rw [hscans] at hscan hapart hhead
      rw [hlast] at hhead
      cases hhead
      rcases List.mem_cons.mp hscan with rfl | hrest
      · exact le_refl _
      · have hle := List.rel_of_pairwise_cons hapart hrest
        have hpos : (0 : ℚ) < rescanMinInterval := by norm_num [rescanMinInterval]
        linarith

theorem openTable (s : Files kinds) (cachePath : Bool) (started : ℚ) (hcache : s.RightCache)
    (hreads : s.ReadsKinds) :
    Inv kinds (exec (openTable started (SMC.new cachePath)) s).1 started where
  right := openTable_right hreads hcache cachePath
  last := by
    obtain ⟨hscans, hlast⟩ | ⟨hscans, hlast⟩ := openTable_scans s started cachePath
    · rw [hscans, hlast]
      rfl
    · rw [hscans, hlast]
      rfl
  past := by
    intro scan hscan
    obtain ⟨hscans, -⟩ | ⟨hscans, -⟩ := openTable_scans s started cachePath
    · simp [hscans] at hscan
    · rw [hscans, List.mem_singleton] at hscan
      exact le_of_eq hscan
  apart := by
    obtain ⟨hscans, -⟩ | ⟨hscans, -⟩ := openTable_scans s started cachePath
    · rw [hscans]
      exact List.Pairwise.nil
    · rw [hscans]
      exact List.pairwise_singleton _ _

theorem raw (h : Inv kinds smc now) (s : Files kinds) (key : Text) {checked started : ℚ}
    (hnow : now ≤ checked) (hclock : checked ≤ started) (hreads : s.ReadsKinds) :
    Inv kinds (exec (raw checked started key smc) s).1.2 started := by
  have hright : Right kinds (exec (SmcTable.raw checked started key smc) s).1.2.table :=
    raw_right hreads h.right
  obtain heq | ⟨hlast, s', count, -, heq⟩ := raw_smc_cases s smc checked started key
  · rw [heq]
    exact { h with past := fun scan hscan => (h.past scan hscan).trans (hnow.trans hclock) }
  · obtain ⟨hscans, hlastScan⟩ := scan_scans s' started count smc
    rw [heq] at hright ⊢
    refine ⟨hright, by rw [hscans, hlastScan]; rfl, ?_, ?_⟩
    · intro scan hscan
      rw [hscans, List.mem_cons] at hscan
      rcases hscan with rfl | hscan
      · exact le_refl _
      · exact (h.past scan hscan).trans (hnow.trans hclock)
    · rw [hscans, List.pairwise_cons]
      refine ⟨?_, h.apart⟩
      intro scan hscan
      -- the first scan has set `last_scan`
      cases hsome : smc.lastScan with
      | none =>
          have hhead := h.last
          rw [hsome, eq_comm, List.head?_eq_none_iff] at hhead
          rw [hhead] at hscan
          cases hscan
      | some last =>
          have hle := h.before_last hsome hscan
          have hminute := hlast last hsome
          linarith

end Inv

theorem Reachable.inv {smc : SMC} {now : ℚ} (h : Reachable kinds smc now) : Inv kinds smc now := by
  induction h with
  | openTable s cachePath started hcache hreads => exact .openTable s cachePath started hcache hreads
  | raw _ s key checked started hnow hclock hreads ih => exact ih.raw s key hnow hclock hreads

/-- In every state of a run, a read gives None or the type and the bytes of the key,
scans are a minute apart, a scan that an `OSError` ends leaves the table, and a key
that exists and is in the table is read if no operation fails and no scan was started
within the minute. -/
theorem run_raw {smc : SMC} {now : ℚ} (h : Reachable kinds smc now) (s : Files kinds)
    (hreads : s.ReadsKinds) (key : Text) (hkey : key ≠ [] ∨ key ∉ smc.table)
    (checked started : ℚ) :
    ((exec (raw checked started key smc) s).1.1 = none ∨
      ∃ k ∈ s.keys.keys, k.name = key ∧
        (exec (raw checked started key smc) s).1.1 = some (k.type, k.data.take k.length)) ∧
    smc.scans.Pairwise (fun later earlier => earlier + rescanMinInterval ≤ later) ∧
    (∀ count, (exec (scan started count smc) s).1.1 = false →
      (exec (scan started count smc) s).1.2.table = smc.table) ∧
    (s.Quiet → (∀ scan ∈ smc.scans, rescanMinInterval ≤ checked - scan) → ∀ k ∈ s.keys.keys,
      k.name = key → key ∈ smc.table →
      (exec (raw checked started key smc) s).1.1 = some (k.type, k.data.take k.length)) := by
  have hinv := h.inv
  refine ⟨?_, hinv.apart, fun count => scan_interrupted, ?_⟩
  · cases hresult : (exec (raw checked started key smc) s).1.1 with
    | none => exact .inl rfl
    | some value =>
        right
        obtain ⟨typ, bytes⟩ := value
        rcases hkey with hkey | habsent
        · obtain ⟨k, hmem, hname, rfl, rfl⟩ := raw_value hreads hinv.right hkey hresult
          exact ⟨k, hmem, hname, rfl⟩
        · rw [raw_absent habsent] at hresult
          cases hresult
  · rintro hquiet hold k hk rfl hmem
    apply raw_quiet hquiet hinv.right _ hk hmem
    intro last hlast
    apply hold
    rw [hinv.last] at hlast
    exact List.mem_of_mem_head? hlast

/-! ## A type that cannot be read -/

section Unread

/-- `ACPW`, of type `ui32`. -/
def acpw : Key where
  name := "ACPW".toList
  type := "ui32".toList
  length := 4
  data := [0x00, 0x01, 0x36, 0x88]

def acpwKinds (name : Text) : Option (Text × ℕ) :=
  if name = acpw.name then some (acpw.type, acpw.length) else none

theorem acpw_named : ∀ key ∈ [acpw], key.name ≠ [] := by decide

theorem acpw_kind : ∀ key ∈ [acpw], acpwKinds key.name = some (key.type, key.length) := by decide

def acpwKeys : KeyList acpwKinds where
  keys := [acpw]
  distinct := List.nodup_singleton _
  named := acpw_named
  kind := acpw_kind
  positive := by decide

/-- A call that fails where `fails` says. -/
def acpwFiles (fails : ℕ → File → Bool) : Files acpwKinds where
  keys := acpwKeys
  selector := 0
  cacheFile := none
  fails := fails
  operations := 0

theorem run_raw_acpw :
    (exec (raw 100 100 acpw.name (exec (openTable 0 (SMC.new false))
      (acpwFiles fun _ _ => false)).1) (acpwFiles fun _ _ => false)).1.1 =
      some (acpw.type, acpw.data.take acpw.length) := by
  have hquiet : (acpwFiles fun _ _ => false).Quiet := fun _ _ => rfl
  have hopen : Reachable acpwKinds (exec (openTable 0 (SMC.new false))
      (acpwFiles fun _ _ => false)).1 0 := by
    apply Reachable.openTable
    · intro raw hraw
      cases hraw
    · exact hquiet.readsKinds
  obtain ⟨-, -, -, hread⟩ := run_raw hopen _ hquiet.readsKinds acpw.name (.inl (by decide)) 100 100
  apply hread hquiet _ acpw List.mem_cons_self rfl (by decide)
  intro scan hscan
  obtain rfl : scan = 0 := List.mem_singleton.mp hscan
  norm_num [rescanMinInterval]

/-- One read of the type fails while `open` scans. No later read fails, and each gives
the bytes of the key with an empty type. -/
theorem unread_type :
    (exec (raw 100 100 acpw.name (exec (openTable 0 (SMC.new false))
      (acpwFiles fun n file => n = 3 ∧ file = .keyAtIndexType)).1) (acpwFiles fun _ _ => false)).1.1 =
      some ([], acpw.data) ∧
    ∀ k ∈ acpwKeys.keys, some ([], acpw.data) ≠ some (k.type, k.data.take k.length) := by
  exact ⟨rfl, by decide⟩

end Unread

end TurboMac.Linux.SmcTable
