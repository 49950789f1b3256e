import TurboMac.Lib.Interleaving
import TurboMac.Linux.Persist
import TurboMac.Linux.Readback

/-! # `cap.py`, `turbomac-cap.sh` and the units

`turbomac-cap.sh` runs `turbomac.cap apply`, and writes the cap by a plain echo where that
has failed. It is run at boot, before the daemon starts and after it has ended, whichever
way it ends. `turbomacd.service` says of this that a crash can only ever leave the static
cap in place, never the firmware's limits.

The GPU step of `apply` changes neither its status nor a limit and is left out, and so is
what it prints. What a process that is killed has not written by then it has not written.
-/

namespace TurboMac.Linux

open Decimal

/-! ## The zone -/

/-- The package zone. Its limits are in microwatts, by constraint. -/
structure RaplZone where
  limitUw : Fin 2 → ℤ
  enabled : Bool
  /-- whether the short constraint is the first one -/
  swapped : Bool

/-- What becomes of a write. -/
inductive WriteOutcome where
  | takes
  | ignored
  | fails (error : String)
deriving DecidableEq, Repr

/-- How the files of the zone and the MSRs 0x606 and 0x610 answer. -/
structure ZoneAnswers where
  write : ZoneFile → WriteOutcome
  readable : ZoneFile → Bool
  msr : Option (ℕ × ℕ)

namespace RaplZone

/-- A limit is cut to whole units of the register. -/
def cut (uw : ℤ) : ℤ := uw / Package.unitUw * Package.unitUw

def set (z : RaplZone) : ZoneFile → ℤ → RaplZone
  | .powerLimit i, uw => { z with limitUw := Function.update z.limitUw i (cut uw) }
  | .enabled, n => { z with enabled := n ≠ 0 }

def get (z : RaplZone) : ZoneFile → ℤ
  | .powerLimit i => z.limitUw i
  | .enabled => if z.enabled then 1 else 0

def write (answer : ZoneFile → WriteOutcome) (file : ZoneFile) (v : ℤ) (z : RaplZone) :
    Option String × RaplZone :=
  match answer file with
  | .takes => (none, z.set file v)
  | .ignored => (none, z)
  | .fails error => (some error, z)

/-- One limit, written to some constraints in turn. -/
def writeEach (answer : ZoneFile → WriteOutcome) (uw : ℤ) (is : List (Fin 2)) (z : RaplZone) :
    RaplZone :=
  is.foldl (fun z i => (write answer (.powerLimit i) uw z).2) z

def access (answers : ZoneAnswers) : ZoneAccess RaplZone where
  write := write answers.write
  read file z := if answers.readable file then some (z.get file) else none
  powerUnitMsr _ := answers.msr.map Prod.fst
  pkgLimitMsr _ := answers.msr.map Prod.snd

/-- The constraints of a `Rapl` of the zone. -/
def constraints (z : RaplZone) : Constraints := .ofNames (Package.constraintName z.swapped)

def pl1Uw (z : RaplZone) : ℤ := z.limitUw z.constraints.long

def pl2Uw (z : RaplZone) : ℤ := z.limitUw z.constraints.short

end RaplZone

/-! ## `cap.py` -/

/-- The exit status of `turbomac.cap apply`: 0, 3, 4, 2, or that of a process that has
raised, been killed or not been found. -/
inductive CapExit where
  | verified
  | mismatch
  | writeError
  | unavailable
  | died
deriving DecidableEq, Repr

structure CapAnswers where
  available : Bool
  /-- what `load_or_capture_firmware` returns, none if it raises -/
  firmware : Option (Option FirmwareRecord)
  zone : ZoneAnswers
  /-- whether it ends before it returns -/
  dies : Bool

/-- `apply`. -/
def capApply (file : File) (answers : CapAnswers) (z : RaplZone) : CapExit × RaplZone :=
  match load file with
  | none => (.died, z)
  | some (cfg, _) =>
    if !answers.available then (.unavailable, z)
    else
      match answers.firmware with
      | none => (.died, z)
      | some fw =>
        let static := (cfg .governorStaticCapW).number
        let (rb, z) :=
          (RaplZone.access answers.zone).applyAndVerify z.constraints static static hardMaxW fw z
        (if answers.dies then .died
          else if rb.writeErrors ≠ [] then .writeError
          else if rb.ok then .verified
          else .mismatch, z)

/-! ## `turbomac-cap.sh` -/

/-- What the shell reads of the file with `python3 -c`: a number, wherever it lies. -/
def shellCapW : File → Option ℚ
  | .json (.obj members) =>
    match members.lookup "governor" with
    | some (.obj items) =>
      match items.lookup "static_cap_w" with
      | some (.int n) => some n
      | some (.float q) => some q
      | _ => none
    | _ => none
  | _ => none

structure ScriptAnswers where
  python : CapAnswers
  /-- whether `python3 -c` works -/
  reads : Bool
  echo : ZoneFile → WriteOutcome
  /-- whether the script ends by itself -/
  ends : Bool

/-- The plain echo: the two limits, one after the other, and `enabled`. -/
def capEcho (file : File) (answers : ScriptAnswers) (z : RaplZone) : RaplZone :=
  let uw := fallbackUw (if answers.reads then shellCapW file else none)
  (RaplZone.write answers.echo .enabled 1
    (RaplZone.writeEach answers.echo uw (List.finRange 2) z)).2

/-- `turbomac-cap.sh apply`. A mismatch is left to the daemon. -/
def capScript (file : File) (answers : ScriptAnswers) (z : RaplZone) : CapExit × RaplZone :=
  match capApply file answers.python z with
  | (.verified, z) => (.verified, z)
  | (.mismatch, z) => (.mismatch, z)
  | (exit, z) => (exit, capEcho file answers z)

/-- The cap has been verified, or the echo has taken. -/
def ScriptAnswers.heard (answers : ScriptAnswers) (exit : CapExit) : Bool :=
  match exit with
  | .verified => true
  | .mismatch => false
  | _ => answers.reads && (List.finRange 2).all fun i => answers.echo (.powerLimit i) = .takes

/-! ## The units -/

/-- Where the units are: before the cap, between the lives of the daemon, after
`ExecStartPre`, in a life, and after its end. -/
inductive Phase where
  | booted
  | capped
  | ready
  | running
  | exited
deriving DecidableEq, Repr

structure Units where
  phase : Phase
  zone : RaplZone
  file : File
  /-- whether a script has been heard since the boot -/
  heard : Bool
  /-- what the last script has gone by, if it has been heard -/
  last : Option (File × Option FirmwareRecord)

inductive UnitStep where
  /-- with the limits that the firmware has left -/
  | boot (zone : RaplZone)
  | script (answers : ScriptAnswers)
  | start
  /-- `set_limits` of the governor -/
  | setLimits (pl1W pl2W : ℚ) (firmware : Option FirmwareRecord) (answers : ZoneAnswers)
  /-- the configuration is saved, edited or lost -/
  | configure (file : File)
  /-- the daemon stops, crashes or is killed, or has not come up -/
  | exit

namespace Units

def booted (zone : RaplZone) (file : File) : Units := ⟨.booted, zone, file, false, none⟩

/-- What comes after a script: a cap that is killed starts no daemon, and an
`ExecStartPre` that is killed is followed by `ExecStopPost`. -/
def afterScript (ends : Bool) : Phase → Option Phase
  | .booted => some (if ends then .capped else .booted)
  | .capped => some (if ends then .ready else .exited)
  | .exited => some .capped
  | .ready | .running => none

def step (u : Units) : UnitStep → Option Units
  | .boot zone => some (booted zone u.file)
  | .script answers =>
    let (exit, zone) := capScript u.file answers u.zone
    let heard := answers.heard exit
    (afterScript answers.ends u.phase).map fun phase =>
      { phase, zone, file := u.file, heard := u.heard || heard
        last := if heard then some (u.file, answers.python.firmware.join) else none }
  | .start => if u.phase = .ready then some { u with phase := .running } else none
  | .setLimits pl1W pl2W firmware answers =>
    if u.phase = .running then
      some { u with
        zone := ((RaplZone.access answers).applyAndVerify u.zone.constraints pl1W pl2W hardMaxW
          firmware u.zone).2 }
    else none
  | .configure file => some { u with file }
  | .exit => if u.phase = .ready ∨ u.phase = .running then some { u with phase := .exited } else none

end Units

/-! ## No limit above 45 W -/

theorem elim_min_le (capW : ℚ) (firmwareW : Option ℚ) :
    firmwareW.elim capW (min capW) ≤ capW := by
  cases firmwareW with
  | none => exact le_refl capW
  | some f => exact min_le_left _ _

/-- What `clamp_limits` lets through is at most 45 W. -/
theorem wToUw_clampToRecord_le (pl1W pl2W : ℚ) (firmware : Option FirmwareRecord) :
    wToUw (clampToRecord pl1W pl2W hardMaxW firmware).1 ≤ 45000000 ∧
      wToUw (clampToRecord pl1W pl2W hardMaxW firmware).2 ≤ 45000000 := by
  have hle (request : ℚ) (f : Option ℚ) :
      min request (f.elim hardMaxW (min hardMaxW)) ≤ hardMaxW :=
    (min_le_right _ _).trans (elim_min_le hardMaxW f)
  rw [clampToRecord_eq]
  exact ⟨wToUw_floorEighth_le (hle _ _), wToUw_floorEighth_le (hle _ _)⟩

/-- What a write may do to the limits: each is as it was or at most 45 W. -/
def RaplZone.Tamed (z z' : RaplZone) : Prop :=
  z'.swapped = z.swapped ∧ ∀ i, z'.limitUw i = z.limitUw i ∨ z'.limitUw i ≤ 45000000

namespace RaplZone

variable {z z' z'' : RaplZone} {answer : ZoneFile → WriteOutcome} {uw : ℤ}

theorem Tamed.refl (z : RaplZone) : z.Tamed z := ⟨rfl, fun _ => .inl rfl⟩

theorem Tamed.trans (h : z.Tamed z') (h' : z'.Tamed z'') : z.Tamed z'' := by
  refine ⟨h'.1.trans h.1, ?_⟩
  intro i
  rcases h'.2 i with heq | hle
  · rw [heq]
    exact h.2 i
  · exact .inr hle

theorem Tamed.le (h : z.Tamed z') (hz : ∀ i, z.limitUw i ≤ 45000000) (i : Fin 2) :
    z'.limitUw i ≤ 45000000 := by
  rcases h.2 i with heq | hle
  · exact heq.trans_le (hz i)
  · exact hle

theorem cut_le (uw : ℤ) : cut uw ≤ uw := Int.ediv_mul_le uw (by decide)

theorem lt_cut (uw : ℤ) : uw - Package.unitUw < cut uw := by
  have hlt := Int.lt_ediv_add_one_mul_self uw (show 0 < Package.unitUw by decide)
  rw [add_mul, one_mul] at hlt
  unfold cut
  omega

/-- Every way out of a write. -/
theorem write_cases (answer : ZoneFile → WriteOutcome) (file : ZoneFile) (v : ℤ) (z : RaplZone) :
    (answer file = .takes ∧ write answer file v z = (none, z.set file v)) ∨
    (answer file = .ignored ∧ write answer file v z = (none, z)) ∨
    ∃ error, answer file = .fails error ∧ write answer file v z = (some error, z) := by
  unfold write
  cases h : answer file with
  | takes => exact .inl ⟨rfl, rfl⟩
  | ignored => exact .inr (.inl ⟨rfl, rfl⟩)
  | fails error => exact .inr (.inr ⟨error, rfl, rfl⟩)

theorem tamed_set_limit (z : RaplZone) (i : Fin 2) (huw : uw ≤ 45000000) :
    z.Tamed (z.set (.powerLimit i) uw) := by
  refine ⟨rfl, ?_⟩
  intro j
  by_cases hij : j = i
  · refine .inr ?_
    simp only [set, hij, Function.update_self]
    exact (cut_le uw).trans huw
  · exact .inl (Function.update_of_ne hij _ _)

/-- A limit of at most 45 W that is written tames, whatever becomes of it. -/
theorem tamed_write_limit (z : RaplZone) (i : Fin 2) (huw : uw ≤ 45000000) :
    z.Tamed (write answer (.powerLimit i) uw z).2 := by
  rcases write_cases answer (.powerLimit i) uw z with ⟨-, h⟩ | ⟨-, h⟩ | ⟨error, -, h⟩
  · rw [h]
    exact z.tamed_set_limit i huw
  · rw [h]
    exact Tamed.refl z
  · rw [h]
    exact Tamed.refl z

theorem tamed_writeEach (is : List (Fin 2)) (z : RaplZone) (huw : uw ≤ 45000000) :
    z.Tamed (writeEach answer uw is z) := by
  induction is generalizing z with
  | nil => exact Tamed.refl z
  | cons i is ih => exact (z.tamed_write_limit i huw).trans (ih _)

/-- Writes that take are in the zone. -/
theorem writeEach_takes (htakes : ∀ i, answer (.powerLimit i) = .takes) {is : List (Fin 2)}
    {z : RaplZone} {i : Fin 2} (h : i ∈ is ∨ z.limitUw i = cut uw) :
    (writeEach answer uw is z).limitUw i = cut uw := by
  induction is generalizing z with
  | nil => exact h.resolve_left List.not_mem_nil
  | cons j is ih =>
      have hwrite : writeEach answer uw (j :: is) z =
          writeEach answer uw is (z.set (.powerLimit j) uw) := by
        rw [writeEach, List.foldl_cons, write, htakes j, writeEach]
      rw [hwrite]
      apply ih
      by_cases hij : i = j
      · rw [hij]
        exact .inr (Function.update_self _ _ _)
      · rw [List.mem_cons, or_iff_right hij] at h
        exact h.imp_right (Function.update_of_ne hij _ _).trans

theorem tamed_write_enabled (z : RaplZone) (n : ℤ) : z.Tamed (write answer .enabled n z).2 := by
  rcases write_cases answer .enabled n z with ⟨-, h⟩ | ⟨-, h⟩ | ⟨error, -, h⟩
  · rw [h]
    exact ⟨rfl, fun _ => .inl rfl⟩
  · rw [h]
    exact Tamed.refl z
  · rw [h]
    exact Tamed.refl z

theorem tamed_writeLimits (answers : ZoneAnswers) (c : Constraints) {w1 w2 : ℚ}
    (hw1 : wToUw w1 ≤ 45000000) (hw2 : wToUw w2 ≤ 45000000) (z : RaplZone) :
    z.Tamed ((access answers).writeLimits c w1 w2 z).2 :=
  ((z.tamed_write_limit c.long hw1).trans (tamed_write_limit _ c.short hw2)).trans
    (tamed_write_enabled _ 1)

/-- `apply_and_verify` tames, whatever is asked for. -/
theorem tamed_applyAndVerify (answers : ZoneAnswers) (c : Constraints) (pl1W pl2W : ℚ)
    (firmware : Option FirmwareRecord) (z : RaplZone) :
    z.Tamed ((access answers).applyAndVerify c pl1W pl2W hardMaxW firmware z).2 := by
  rcases wToUw_clampToRecord_le pl1W pl2W firmware with ⟨hw1, hw2⟩
  exact z.tamed_writeLimits answers c hw1 hw2

end RaplZone

theorem tamed_capApply (file : File) (answers : CapAnswers) (z : RaplZone) :
    z.Tamed (capApply file answers z).2 := by
  unfold capApply
  split
  · exact RaplZone.Tamed.refl z
  · split
    · exact RaplZone.Tamed.refl z
    · split
      · exact RaplZone.Tamed.refl z
      · exact z.tamed_applyAndVerify _ _ _ _ _

theorem tamed_capEcho (file : File) (answers : ScriptAnswers) (z : RaplZone) :
    z.Tamed (capEcho file answers z) := by
  have hle := fallbackUw_le (if answers.reads then shellCapW file else none)
  exact (z.tamed_writeEach (List.finRange 2) hle).trans (RaplZone.tamed_write_enabled _ 1)

/-- Every way out of the script. -/
theorem capScript_cases (file : File) (answers : ScriptAnswers) (z : RaplZone) :
    ((capApply file answers.python z).1 = .verified ∧
      capScript file answers z = capApply file answers.python z) ∨
    ((capApply file answers.python z).1 = .mismatch ∧
      capScript file answers z = capApply file answers.python z) ∨
    ((capApply file answers.python z).1 ≠ .verified ∧
      (capApply file answers.python z).1 ≠ .mismatch ∧
      capScript file answers z = ((capApply file answers.python z).1,
        capEcho file answers (capApply file answers.python z).2)) := by
  unfold capScript
  rcases capApply file answers.python z with ⟨exit, z'⟩
  cases exit with
  | verified => exact .inl ⟨rfl, rfl⟩
  | mismatch => exact .inr (.inl ⟨rfl, rfl⟩)
  | writeError | unavailable | died =>
      exact .inr (.inr ⟨CapExit.noConfusion, CapExit.noConfusion, rfl⟩)

theorem tamed_capScript (file : File) (answers : ScriptAnswers) (z : RaplZone) :
    z.Tamed (capScript file answers z).2 := by
  have hpython := tamed_capApply file answers.python z
  rcases capScript_cases file answers z with ⟨-, h⟩ | ⟨-, h⟩ | ⟨-, -, h⟩
  · rw [h]
    exact hpython
  · rw [h]
    exact hpython
  · rw [h]
    exact hpython.trans (tamed_capEcho file answers _)

/-! ## A cap that is heard -/

/-- A readback that is right has found the limits that were wanted. -/
theorem compareLimits_found {w1 w2 : ℚ} {sysfs : SysfsLimits} {msr : Option MsrLimit}
    (h : (compareLimits w1 w2 sysfs msr).1 = true) :
    sysfs.pl1Uw = some (wToUw w1) ∧ sysfs.pl2Uw = some (wToUw w2) := by
  unfold compareLimits at h
  split at h
  · rename_i pl1Uw pl2Uw h1 h2
    split at h
    · cases h
    · rename_i hmatch
      rw [not_or, not_not, not_not] at hmatch
      rw [h1, h2, hmatch.1, hmatch.2]
      exact ⟨rfl, rfl⟩
  · cases h

theorem RaplZone.read_found {answers : ZoneAnswers} {file : ZoneFile} {z : RaplZone} {v : ℤ}
    (h : (RaplZone.access answers).read file z = some v) : z.get file = v := by
  simp only [RaplZone.access] at h
  split at h
  · exact Option.some.inj h
  · cases h

/-- A limit of the readback, as the zone has it. -/
theorem RaplZone.applyAndVerify_found {answers : ZoneAnswers} {pl1W pl2W : ℚ}
    {firmware : Option FirmwareRecord} {z : RaplZone} {rb : ReadbackRecord} {z' : RaplZone}
    (happly : (RaplZone.access answers).applyAndVerify z.constraints pl1W pl2W hardMaxW firmware z =
      (rb, z')) (hok : rb.ok = true) :
    z'.pl1Uw = wToUw (clampToRecord pl1W pl2W hardMaxW firmware).1 ∧
      z'.pl2Uw = wToUw (clampToRecord pl1W pl2W hardMaxW firmware).2 := by
  have htamed := z.tamed_applyAndVerify answers z.constraints pl1W pl2W firmware
  rw [happly] at htamed
  have hconstraints : z'.constraints = z.constraints := by
    rw [RaplZone.constraints, htamed.1, RaplZone.constraints]
  simp only [ZoneAccess.applyAndVerify, Prod.mk.injEq] at happly
  rcases happly with ⟨rfl, hz'⟩
  dsimp only at hok
  split at hok
  · have hfound := compareLimits_found hok
    rw [hz'] at hfound
    rw [RaplZone.pl1Uw, RaplZone.pl2Uw, hconstraints]
    exact ⟨RaplZone.read_found hfound.1, RaplZone.read_found hfound.2⟩
  · cases hok

/-- What has been verified is in the zone. -/
theorem capApply_verified {file : File} {answers : CapAnswers} {z : RaplZone}
    (h : (capApply file answers z).1 = .verified) :
    ∃ cfg problems, load file = some (cfg, problems) ∧
      (capApply file answers z).2.pl1Uw =
        wToUw (clampToRecord (cfg .governorStaticCapW).number (cfg .governorStaticCapW).number
          hardMaxW answers.firmware.join).1 ∧
      (capApply file answers z).2.pl2Uw =
        wToUw (clampToRecord (cfg .governorStaticCapW).number (cfg .governorStaticCapW).number
          hardMaxW answers.firmware.join).2 := by
  unfold capApply at h ⊢
  cases hload : load file with
  | none => simp [hload] at h
  | some loaded =>
      rcases loaded with ⟨cfg, problems⟩
      refine ⟨cfg, problems, rfl, ?_⟩
      cases havailable : answers.available with
      | false => simp [hload, havailable] at h
      | true =>
          cases hfirmware : answers.firmware with
          | none => simp [hload, havailable, hfirmware] at h
          | some fw =>
              simp only [hload, havailable, hfirmware, Bool.not_true, Bool.false_eq_true, if_false,
                Option.join_some] at h ⊢
              have hok : ((RaplZone.access answers.zone).applyAndVerify z.constraints
                  (cfg .governorStaticCapW).number (cfg .governorStaticCapW).number hardMaxW fw
                  z).1.ok = true := by
                split_ifs at h with hdies herrors hok
                exact hok
              exact RaplZone.applyAndVerify_found rfl hok

/-- An echo that takes is in the zone. -/
theorem capEcho_takes {file : File} {answers : ScriptAnswers} (z : RaplZone)
    (htakes : ∀ i, answers.echo (.powerLimit i) = .takes) (i : Fin 2) :
    (capEcho file answers z).limitUw i =
      RaplZone.cut (fallbackUw (if answers.reads then shellCapW file else none)) := by
  have henabled (z : RaplZone) :
      (RaplZone.write answers.echo .enabled 1 z).2.limitUw = z.limitUw := by
    rcases RaplZone.write_cases answers.echo .enabled 1 z with ⟨-, h⟩ | ⟨-, h⟩ | ⟨error, -, h⟩
    · rw [h]
      rfl
    · rw [h]
    · rw [h]
  rw [capEcho, henabled]
  exact RaplZone.writeEach_takes htakes (.inl (List.mem_finRange i))

/-- An echo that is heard has read the cap and taken. -/
theorem echo_of_heard {answers : ScriptAnswers} {exit : CapExit} (h : answers.heard exit = true)
    (hverified : exit ≠ .verified) (hmismatch : exit ≠ .mismatch) :
    answers.reads = true ∧ ∀ i, answers.echo (.powerLimit i) = .takes := by
  unfold ScriptAnswers.heard at h
  split at h
  · exact absurd rfl hverified
  · cases h
  · simpa using h

/-- The limits are those of the two constraints. -/
theorem RaplZone.limit_cases (z : RaplZone) (i : Fin 2) : z.limitUw i = z.pl1Uw ∨ z.limitUw i = z.pl2Uw := by
  unfold RaplZone.pl1Uw RaplZone.pl2Uw RaplZone.constraints
  have hboth : i = (Constraints.ofNames (Package.constraintName z.swapped)).long ∨
      i = (Constraints.ofNames (Package.constraintName z.swapped)).short := by
    revert i
    cases z.swapped with
    | false => decide
    | true => decide
  rcases hboth with rfl | rfl
  · exact .inl rfl
  · exact .inr rfl

/-- A cap that is heard is nowhere above 45 W. -/
theorem heard_le {file : File} {answers : ScriptAnswers} {z : RaplZone}
    (h : answers.heard (capScript file answers z).1 = true) (i : Fin 2) :
    (capScript file answers z).2.limitUw i ≤ 45000000 := by
  rcases capScript_cases file answers z with ⟨hexit, hscript⟩ | ⟨hexit, hscript⟩ | ⟨hne, hne', hscript⟩
  · -- verified by Python
    rw [hscript]
    rcases capApply_verified hexit with ⟨cfg, problems, -, h1, h2⟩
    rcases RaplZone.limit_cases (capApply file answers.python z).2 i with hlimit | hlimit
    · rw [hlimit, h1]
      exact (wToUw_clampToRecord_le _ _ _).1
    · rw [hlimit, h2]
      exact (wToUw_clampToRecord_le _ _ _).2
  · -- a mismatch is not heard
    rw [hscript, hexit] at h
    cases h
  · -- the echo
    rw [hscript] at h ⊢
    obtain ⟨-, htakes⟩ := echo_of_heard h hne hne'
    rw [capEcho_takes _ htakes]
    exact (RaplZone.cut_le _).trans (fallbackUw_le _)

/-! ## The cap in a limit -/

/-- The limit is the cap, or the firmware's limit where that is lower, up to a unit of the
register and a microwatt. -/
structure NearCap (capW : ℚ) (firmwareW : Option ℚ) (uw : ℤ) : Prop where
  le : (uw : ℚ) / 1000000 ≤ capW + 1 / 1000000
  gt : firmwareW.elim capW (min capW) - 1 / 8 - 1 / 1000000 < (uw : ℚ) / 1000000

/-- What `apply` writes for a limit. -/
theorem nearCap_floorEighth {capW : ℚ} (hcap : capW ≤ 45) (firmwareW : Option ℚ) :
    NearCap capW firmwareW
      (wToUw (floorEighth (min capW (firmwareW.elim hardMaxW (min hardMaxW))))) := by
  have hmin : min capW (firmwareW.elim hardMaxW (min hardMaxW)) = firmwareW.elim capW (min capW) := by
    cases firmwareW with
    | none => exact min_eq_left hcap
    | some f =>
        rw [Option.elim_some, Option.elim_some, ← min_assoc, hardMaxW, min_eq_left hcap]
  have hle := elim_min_le capW firmwareW
  have hwatts (w : ℚ) : ((wToUw (floorEighth w) : ℤ) : ℚ) / 1000000 = floorEighth w := by
    rw [wToUw_floorEighth, floorEighth_eq, Package.unitUw]
    push_cast
    ring
  have hupper := floorEighth_le (firmwareW.elim capW (min capW))
  have hlower := floorEighth_gt (firmwareW.elim capW (min capW))
  rw [hmin]
  constructor
  · rw [hwatts]
    linarith
  · rw [hwatts]
    linarith

/-- What the echo leaves in a limit. -/
theorem nearCap_cut {capW : ℚ} (hcap : 10 ≤ capW ∧ capW ≤ 45) (firmwareW : Option ℚ) :
    NearCap capW firmwareW (RaplZone.cut (fallbackUw (some capW))) := by
  have hround := abs_le.1 (abs_roundHalfEven_sub_le (capW * 1000000))
  have hcut := RaplZone.cut_le (wToUw capW)
  have hcut' := RaplZone.lt_cut (wToUw capW)
  have hle := elim_min_le capW firmwareW
  have hupper : ((RaplZone.cut (wToUw capW) : ℤ) : ℚ) ≤ wToUw capW := by exact_mod_cast hcut
  have hlower : (wToUw capW : ℚ) - 125000 < (RaplZone.cut (wToUw capW) : ℤ) := by exact_mod_cast hcut'
  simp only [fallbackUw, if_pos hcap]
  unfold wToUw at hupper hlower ⊢
  constructor
  · rw [div_le_iff₀ (by norm_num)]
    linarith
  · rw [lt_div_iff₀ (by norm_num)]
    linarith

/-- The shell reads the cap of a file that the daemon has saved. -/
theorem shellCapW_save {c : Settings} {capW : ℚ} (h : c .governorStaticCapW = .num capW) :
    shellCapW (save c) = some capW := by
  have hsection : (("schema", Json.int 1) :: Section.all.map fun s => (s.name, c.sectionJson s)).lookup
      "governor" = some (c.sectionJson .governor) := by
    simp [Section.all, Section.name, List.lookup_cons]
  have hitems : c.sectionJson .governor = .obj (("mode", (c .governorMode).toJson) ::
      ("static_cap_w", (c .governorStaticCapW).toJson) ::
        ((Key.all.filter fun k => k.section_ = .governor).drop 2).map
          fun k => (k.name, (c k).toJson)) := rfl
  have hmode : ("static_cap_w" == "mode") = false := by decide
  have hself : ("static_cap_w" == "static_cap_w") = true := by decide
  simp only [save, shellCapW, hsection, hitems, h, Value.toJson]
  rw [List.lookup_cons, List.lookup_cons]
  simp only [hmode, hself]
  split_ifs with hden
  · simp [Rat.coe_int_num_of_den_eq_one hden]
  · rfl

/-- A cap that is heard of a configuration that the daemon has saved is in both limits,
whichever of the two readers it has come from. -/
theorem heard_near {c : Settings} (hvalid : c.Valid) {capW : ℚ}
    (hnum : c .governorStaticCapW = .num capW) (hcap : 10 ≤ capW ∧ capW ≤ 45)
    {answers : ScriptAnswers} {z : RaplZone}
    (h : answers.heard (capScript (save c) answers z).1 = true) :
    NearCap capW (firmwarePl1W answers.python.firmware.join) (capScript (save c) answers z).2.pl1Uw ∧
      NearCap capW (firmwarePl2W answers.python.firmware.join)
        (capScript (save c) answers z).2.pl2Uw := by
  rcases capScript_cases (save c) answers z with
    ⟨hexit, hscript⟩ | ⟨hexit, hscript⟩ | ⟨hne, hne', hscript⟩
  · rw [hscript]
    rcases capApply_verified hexit with ⟨cfg, problems, hload, h1, h2⟩
    rw [load_save hvalid] at hload
    cases hload
    rw [hnum, Value.number, clampToRecord_eq] at h1 h2
    rw [h1, h2]
    exact ⟨nearCap_floorEighth hcap.2 _, nearCap_floorEighth hcap.2 _⟩
  · rw [hscript, hexit] at h
    cases h
  · rw [hscript] at h ⊢
    obtain ⟨hreads, htakes⟩ := echo_of_heard h hne hne'
    have hlimit (z : RaplZone) (i : Fin 2) :
        (capEcho (save c) answers z).limitUw i = RaplZone.cut (fallbackUw (some capW)) := by
      rw [capEcho_takes z htakes, hreads, if_pos rfl, shellCapW_save hnum]
    unfold RaplZone.pl1Uw RaplZone.pl2Uw
    rw [hlimit, hlimit]
    exact ⟨nearCap_cut hcap _, nearCap_cut hcap _⟩

/-! ## Runs -/

namespace Units

/-- What the caps have come to: no limit above 45 W once one has been heard, and the static
cap in both limits whenever no daemon lives and the last one has been heard. -/
structure Kept (u : Units) : Prop where
  bounded : u.heard = true → ∀ i, u.zone.limitUw i ≤ 45000000
  capped : u.phase = .capped ∨ u.phase = .ready → ∀ (c : Settings) (capW : ℚ)
    (firmware : Option FirmwareRecord), c.Valid → c .governorStaticCapW = .num capW →
    10 ≤ capW ∧ capW ≤ 45 → u.last = some (save c, firmware) →
    NearCap capW (firmwarePl1W firmware) u.zone.pl1Uw ∧
      NearCap capW (firmwarePl2W firmware) u.zone.pl2Uw

/-- Elsewhere than before a life only the bound counts. -/
theorem Kept.of_bounded {u : Units} (hcapped : u.phase ≠ .capped) (hready : u.phase ≠ .ready)
    (hbounded : u.heard = true → ∀ i, u.zone.limitUw i ≤ 45000000) : u.Kept := by
  refine ⟨hbounded, ?_⟩
  rintro (hphase | hphase)
  · exact absurd hphase hcapped
  · exact absurd hphase hready

theorem kept_booted (zone : RaplZone) (file : File) : (booted zone file).Kept := by
  apply Kept.of_bounded Phase.noConfusion Phase.noConfusion
  intro hheard
  cases hheard

/-- What a script leaves. -/
theorem step_script {u u' : Units} {answers : ScriptAnswers}
    (h : u.step (.script answers) = some u') :
    u'.zone = (capScript u.file answers u.zone).2 ∧
      u'.heard = (u.heard || answers.heard (capScript u.file answers u.zone).1) ∧
      u'.last = if answers.heard (capScript u.file answers u.zone).1 then
        some (u.file, answers.python.firmware.join) else none := by
  obtain ⟨phase, -, rfl⟩ := Option.map_eq_some_iff.1 h
  exact ⟨rfl, rfl, rfl⟩

theorem kept_script {u u' : Units} (hu : u.Kept) {answers : ScriptAnswers}
    (hstep : u.step (.script answers) = some u') : u'.Kept := by
  rcases step_script hstep with ⟨hzone, hheard, hlast⟩
  constructor
  · intro h i
    rw [hheard, Bool.or_eq_true_iff] at h
    rw [hzone]
    rcases h with hbefore | hnow
    · exact (tamed_capScript u.file answers u.zone).le (hu.bounded hbefore) i
    · exact heard_le hnow i
  · intro _ c capW firmware hvalid hnum hcap hsaved
    rw [hlast, Option.ite_none_right_eq_some, Option.some_inj, Prod.mk.injEq] at hsaved
    rcases hsaved with ⟨hnow, hfile, rfl⟩
    rw [hzone]
    rw [hfile] at hnow ⊢
    exact heard_near hvalid hnum hcap hnow

theorem kept_step (u : Units) (s : UnitStep) (u' : Units) (hu : u.Kept) (hstep : u.step s = some u') :
    u'.Kept := by
  cases s with
  | boot zone =>
      obtain rfl := Option.some.inj hstep
      exact kept_booted zone u.file
  | script answers => exact kept_script hu hstep
  | start =>
      obtain rfl := Option.some.inj (Option.ite_none_right_eq_some.1 hstep).2
      exact Kept.of_bounded Phase.noConfusion Phase.noConfusion hu.bounded
  | setLimits pl1W pl2W firmware answers =>
      obtain ⟨hphase, hnext⟩ := Option.ite_none_right_eq_some.1 hstep
      obtain rfl := Option.some.inj hnext
      apply Kept.of_bounded (hphase ▸ Phase.noConfusion) (hphase ▸ Phase.noConfusion)
      intro hheard
      exact (u.zone.tamed_applyAndVerify answers _ pl1W pl2W firmware).le (hu.bounded hheard)
  | configure file =>
      obtain rfl := Option.some.inj hstep
      exact ⟨hu.bounded, hu.capped⟩
  | exit =>
      obtain rfl := Option.some.inj (Option.ite_none_right_eq_some.1 hstep).2
      exact Kept.of_bounded Phase.noConfusion Phase.noConfusion hu.bounded

/-- **What a crash leaves.** However the boots, the lives of the daemon, the caps and their
failures follow one another: once a cap has been heard since the boot no limit is above
45 W, and between two lives a cap that has been heard is in both limits. -/
theorem crash_leaves_cap (zone : RaplZone) (file : File) (steps : List UnitStep) (u : Units)
    (hrun : Interleaving.run step (booted zone file) steps = some u) : u.Kept :=
  Interleaving.run_invariant kept_step (kept_booted zone file) steps hrun

/-- Firmware limits of 100 W and 125 W. -/
def sampleZone : RaplZone :=
  ⟨fun i => 100000000 + 25000000 * i.val, true, false⟩

/-- Python is killed and the echo takes, whichever script it is. -/
def killedScript : ScriptAnswers :=
  ⟨⟨true, none, ⟨fun _ => .takes, fun _ => true, none⟩, true⟩, true, fun _ => .takes, true⟩

/-- The daemon is started, writes 45 W and is killed. -/
def crashSteps : List UnitStep :=
  [.script killedScript, .script killedScript, .start,
    .setLimits 45 45 none ⟨fun _ => .takes, fun _ => true, none⟩, .exit, .script killedScript]

theorem step_killed {u : Units} {phase : Phase} (hfile : u.file = save .defaults)
    (hphase : afterScript true u.phase = some phase) : u.step (.script killedScript) =
      some ⟨phase, capEcho (save .defaults) killedScript u.zone, save .defaults, true,
        some (save .defaults, none)⟩ := by
  have hscript (z : RaplZone) : capScript (save .defaults) killedScript z =
      (.died, capEcho (save .defaults) killedScript z) := by
    simp only [capScript, capApply, load_save defaults_valid]
    rfl
  have hheard : killedScript.heard .died = true := rfl
  simp only [step, hfile, hscript, hheard, Bool.or_true, if_true]
  rw [show killedScript.ends = true from rfl, hphase]
  rfl

theorem crash_leaves_cap_killed :
    ∃ u, Interleaving.run step (booted sampleZone (save .defaults)) crashSteps = some u ∧
      NearCap 35 none u.zone.pl1Uw ∧ NearCap 35 none u.zone.pl2Uw := by
  -- the life of the daemon up to its end, and the script that follows
  obtain ⟨u, hlife, hfile, hphase⟩ : ∃ u, Interleaving.run step (booted sampleZone (save .defaults))
      crashSteps.dropLast = some u ∧ u.file = save .defaults ∧ u.phase = .exited := by
    apply Exists.intro
    apply And.intro
    · rfl
    · exact ⟨rfl, rfl⟩
  have hstep : u.step (.script killedScript) = some ⟨.capped,
      capEcho (save .defaults) killedScript u.zone, save .defaults, true,
      some (save .defaults, none)⟩ := by
    apply step_killed hfile
    rw [hphase]
    rfl
  have hrun := (Interleaving.run_concat step (booted sampleZone (save .defaults)) crashSteps.dropLast
    (.script killedScript)).trans ((congrArg (Option.bind · _) hlife).trans hstep)
  exact ⟨_, hrun, (crash_leaves_cap _ _ _ _ hrun).capped (.inl rfl) .defaults 35 none defaults_valid
    rfl (by norm_num) rfl⟩

end Units

end TurboMac.Linux
