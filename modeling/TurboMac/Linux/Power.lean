import Mathlib.Tactic.FieldSimp
import Mathlib.Tactic.Linarith
import Mathlib.Tactic.Positivity
import TurboMac.Lib.Counter
import TurboMac.Lib.Table

/-! # `rapl.py`: power from energy counters

`Rapl.power` over the zones that `__init__` finds. Each zone's counter is read with
the time, and the watts are those since the zone's last reading. A read that fails
moves nothing, so that over a run all energy between the first and the last reading
is reported.
-/

namespace TurboMac.Linux

open Table

/-- `energy_delta_w`. -/
def energyDeltaW (prevUj curUj maxRangeUj : ℤ) (dtS : ℚ) : Option ℚ :=
  if dtS ≤ 0 then none
  else
    let delta := curUj - prevUj
    if delta < 0 then
      if maxRangeUj ≤ 0 then none else some ((delta + maxRangeUj : ℤ) / 1000000 / dtS)
    else some (delta / 1000000 / dtS)

/-- The package zone and its subzones by name, each with its path, the range of its
counter, and the time and value of its last reading. -/
structure Rapl where
  zones : List (String × String)
  maxRange : List (String × ℤ)
  last : String → Option (ℚ × ℤ)

/-- Watts by zone. -/
abbrev PowerReport := List (String × Option ℚ)

/-- A call of `power`: the time, and what the counter in a path reads. -/
structure PowerCall where
  now : ℚ
  energyUj : String → Option ℤ

namespace Rapl

/-- The zones of `__init__`, from the sorted subzones and the names read of them. -/
def findZones (zone : String) (subs : List (String × Option String)) : List (String × String) :=
  subs.foldl
    (fun zones sub =>
      match sub.2 with
      | some name =>
        if name ∈ ["core", "uncore", "dram"] then Table.modify zones name fun _ => sub.1 else zones
      | none => zones)
    [("package", zone)]

/-- `__init__`. -/
def init (zone : String) (subs : List (String × Option String))
    (maxEnergyRangeUj : String → Option ℤ) : Rapl :=
  let zones := findZones zone subs
  ⟨zones, zones.map fun item => (item.1, (maxEnergyRangeUj item.2).getD 0), fun _ => none⟩

/-- What the loop of `power` does for one zone. -/
def powerZone (call : PowerCall) (acc : PowerReport × Rapl) (item : String × String) :
    PowerReport × Rapl :=
  let (out, rapl) := acc
  let (name, z) := item
  match call.energyUj z with
  | none => (out ++ [(name, none)], rapl)
  | some cur =>
    let watts :=
      match rapl.last name with
      | some (t, prev) => energyDeltaW prev cur (get rapl.maxRange name) (call.now - t)
      | none => none
    (out ++ [(name, watts)], { rapl with last := Function.update rapl.last name (some (call.now, cur)) })

/-- `power`. -/
def power (rapl : Rapl) (call : PowerCall) : PowerReport × Rapl :=
  rapl.zones.foldl (powerZone call) ([], rapl)

/-- The reports of a run of calls, each with its call. -/
def runPower (rapl : Rapl) : List PowerCall → List (PowerCall × PowerReport)
  | [] => []
  | call :: calls => (call, (rapl.power call).1) :: runPower (rapl.power call).2 calls

end Rapl

/-! ## One call -/

/-- What a call reports of a zone, by its counter's range, its last reading and the new one. -/
def zoneWatts (range : ℤ) (last : Option (ℚ × ℤ)) (now : ℚ) (reading : Option ℤ) : Option ℚ :=
  match last, reading with
  | some (t, prev), some cur => energyDeltaW prev cur range (now - t)
  | _, _ => none

/-- The last reading of a zone after a call. -/
def lastReading (last : Option (ℚ × ℤ)) (now : ℚ) (reading : Option ℤ) : Option (ℚ × ℤ) :=
  match reading with
  | some cur => some (now, cur)
  | none => last

namespace Rapl

/-- The zones with another last reading of one of them. -/
def move (rapl : Rapl) (name : String) (reading : Option (ℚ × ℤ)) : Rapl :=
  { rapl with last := Function.update rapl.last name reading }

variable (call : PowerCall)

theorem powerZone_eq (out : PowerReport) (rapl : Rapl) (item : String × String) :
    powerZone call (out, rapl) item =
      (out ++ [(item.1, zoneWatts (get rapl.maxRange item.1) (rapl.last item.1) call.now
        (call.energyUj item.2))],
        rapl.move item.1 (lastReading (rapl.last item.1) call.now (call.energyUj item.2))) := by
  cases hread : call.energyUj item.2 with
  | none =>
      have hsame : rapl.move item.1 (rapl.last item.1) = rapl := by
        rw [move, Function.update_eq_self]
      cases hlast : rapl.last item.1 with
      | none => simp only [powerZone, hread, zoneWatts, lastReading, ← hlast, hsame]
      | some prev => simp only [powerZone, hread, zoneWatts, lastReading, ← hlast, hsame]
  | some cur =>
      cases hlast : rapl.last item.1 with
      | none => simp only [powerZone, hread, zoneWatts, lastReading, hlast, move]
      | some prev => simp only [powerZone, hread, zoneWatts, lastReading, hlast, move]

/-- The loop of `power`: each zone is reported and moved by itself. -/
theorem foldl_powerZone {items : List (String × String)} (hnodup : (items.map Prod.fst).Nodup)
    (out : PowerReport) (rapl : Rapl) :
    let r := items.foldl (powerZone call) (out, rapl)
    r.1 = out ++ items.map (fun item => (item.1, zoneWatts (get rapl.maxRange item.1)
        (rapl.last item.1) call.now (call.energyUj item.2))) ∧
      r.2.zones = rapl.zones ∧ r.2.maxRange = rapl.maxRange ∧
      (∀ item ∈ items, r.2.last item.1 =
        lastReading (rapl.last item.1) call.now (call.energyUj item.2)) ∧
      ∀ name ∉ items.map Prod.fst, r.2.last name = rapl.last name := by
  induction items generalizing out rapl with
  | nil => simp
  | cons item items ih =>
      rw [List.map_cons, List.nodup_cons] at hnodup
      obtain ⟨hfresh, hnodup⟩ := hnodup
      rw [List.foldl_cons, powerZone_eq]
      set rapl' :=
        rapl.move item.1 (lastReading (rapl.last item.1) call.now (call.energyUj item.2))
      have hsame : ∀ name, name ≠ item.1 → rapl'.last name = rapl.last name := by
        intro name hname
        exact Function.update_of_ne hname _ _
      have hne : ∀ other ∈ items, other.1 ≠ item.1 := by
        intro other hother heq
        apply hfresh
        rw [← heq]
        exact List.mem_map_of_mem hother
      obtain ⟨hout, hzones, hrange, hin, hother⟩ := ih hnodup (out ++ [(item.1,
        zoneWatts (get rapl.maxRange item.1) (rapl.last item.1) call.now (call.energyUj item.2))]) rapl'
      refine ⟨?_, hzones, hrange, ?_, ?_⟩
      · have hrest : items.map (fun other => (other.1, zoneWatts (get rapl'.maxRange other.1)
              (rapl'.last other.1) call.now (call.energyUj other.2))) =
            items.map (fun other => (other.1, zoneWatts (get rapl.maxRange other.1)
              (rapl.last other.1) call.now (call.energyUj other.2))) := by
          apply List.map_congr_left
          intro other hmem
          rw [hsame other.1 (hne other hmem)]
          rfl
        rw [hout, hrest, List.append_assoc]
        rfl
      · intro other hmem
        rcases List.mem_cons.1 hmem with rfl | hmem
        · rw [hother _ hfresh]
          exact Function.update_self _ _ _
        · rw [hin other hmem, hsame other.1 (hne other hmem)]
      · intro name hname
        rw [List.map_cons, List.mem_cons, not_or] at hname
        rw [hother name hname.2, hsame name hname.1]

/-- The zones are found under different names. -/
theorem nodup_findZones (zone : String) (subs : List (String × Option String)) :
    ((findZones zone subs).map Prod.fst).Nodup := by
  unfold findZones
  have hstart : (([("package", zone)] : List (String × String)).map Prod.fst).Nodup := by simp
  revert hstart
  generalize [("package", zone)] = zones
  intro hzones
  induction subs generalizing zones with
  | nil => exact hzones
  | cons sub subs ih =>
      rw [List.foldl_cons]
      apply ih
      split
      · split_ifs
        · exact nodup_modify hzones _ _
        · exact hzones
      · exact hzones

/-- The range that `__init__` has read for a zone. -/
theorem get_maxRange_init {zone name path : String} {subs : List (String × Option String)}
    (rangeUj : String → ℤ) (hzone : (name, path) ∈ findZones zone subs) :
    get (init zone subs fun path => some (rangeUj path)).maxRange name = rangeUj path := by
  apply get_of_mem
  · show ((List.map _ (findZones zone subs)).map Prod.fst).Nodup
    rw [List.map_map]
    exact nodup_findZones zone subs
  · exact List.mem_map.2 ⟨(name, path), hzone, rfl⟩

variable {rapl : Rapl} {name path : String}

/-- What a call says of a zone and leaves behind. -/
theorem power_spec (hnodup : (rapl.zones.map Prod.fst).Nodup) (hzone : (name, path) ∈ rapl.zones) :
    get (rapl.power call).1 name = zoneWatts (get rapl.maxRange name) (rapl.last name) call.now
        (call.energyUj path) ∧
      (rapl.power call).2.last name = lastReading (rapl.last name) call.now (call.energyUj path) := by
  obtain ⟨hout, -, -, hin, -⟩ := foldl_powerZone call hnodup [] rapl
  refine ⟨?_, hin _ hzone⟩
  have hkeys : ((rapl.power call).1.map Prod.fst).Nodup := by
    rw [power, hout, List.nil_append, List.map_map]
    exact hnodup
  apply get_of_mem hkeys
  rw [power, hout, List.nil_append]
  exact List.mem_map.2 ⟨(name, path), hzone, rfl⟩

@[simp] theorem power_zones (hnodup : (rapl.zones.map Prod.fst).Nodup) :
    (rapl.power call).2.zones = rapl.zones := (foldl_powerZone call hnodup [] rapl).2.1

@[simp] theorem power_maxRange (hnodup : (rapl.zones.map Prod.fst).Nodup) :
    (rapl.power call).2.maxRange = rapl.maxRange := (foldl_powerZone call hnodup [] rapl).2.2.1

theorem mem_report (hnodup : (rapl.zones.map Prod.fst).Nodup) (hzone : (name, path) ∈ rapl.zones) :
    (name, get (rapl.power call).1 name) ∈ (rapl.power call).1 := by
  obtain ⟨hout, -⟩ := foldl_powerZone call hnodup [] rapl
  rw [(power_spec call hnodup hzone).1, power, hout, List.nil_append]
  exact List.mem_map.2 ⟨(name, path), hzone, rfl⟩

end Rapl

/-! ## A run of calls -/

/-- All that is read in a path. -/
def readings (path : String) (calls : List PowerCall) : List ℤ :=
  calls.filterMap fun call => call.energyUj path

theorem readings_cons (path : String) (call : PowerCall) (calls : List PowerCall) :
    readings path (call :: calls) = (call.energyUj path).toList ++ readings path calls := by
  unfold readings
  rw [List.filterMap_cons]
  cases call.energyUj path with
  | none => rfl
  | some r => rfl

/-- Watts times the time since the zone's last reading. -/
def reportJ (watts since : Option ℚ) (now : ℚ) : ℚ :=
  match watts, since with
  | some watts, some t => watts * (now - t)
  | _, _ => 0

/-- The joules of all reports of a zone. -/
def reportedJ (name path : String) (since : Option ℚ) : List (PowerCall × PowerReport) → ℚ
  | [] => 0
  | (call, out) :: reports =>
    reportJ (get out name) since call.now +
      reportedJ name path (if (call.energyUj path).isSome then some call.now else since) reports

theorem energyDeltaW_eq {prevUj curUj maxRangeUj : ℤ} {dtS : ℚ} (hrange : 0 < maxRangeUj)
    (hdt : 0 < dtS) : energyDeltaW prevUj curUj maxRangeUj dtS =
      some (Counter.advance maxRangeUj prevUj curUj / 1000000 / dtS) := by
  unfold energyDeltaW Counter.advance
  rw [if_neg (not_le.2 hdt)]
  by_cases hwrap : curUj < prevUj
  · simp only [hwrap, if_true, sub_neg, if_neg (not_le.2 hrange)]
  · simp only [hwrap, if_false, sub_neg, Int.cast_sub]

namespace Rapl

variable {rapl : Rapl} {name path : String}

theorem zoneWatts_failed (range : ℤ) (last : Option (ℚ × ℤ)) (now : ℚ) :
    zoneWatts range last now none = none := by
  cases last with
  | none => rfl
  | some r => rfl

/-- What is reported over a run is what the readings say, whatever they are. -/
theorem reportedJ_runPower (hnodup : (rapl.zones.map Prod.fst).Nodup)
    (hzone : (name, path) ∈ rapl.zones) (hrange : 0 < get rapl.maxRange name)
    {calls : List PowerCall} (htimes : calls.Pairwise fun a b => a.now < b.now)
    (hlast : ∀ r ∈ rapl.last name, ∀ call ∈ calls, r.1 < call.now) :
    reportedJ name path ((rapl.last name).map Prod.fst) (rapl.runPower calls) =
      Counter.travelled (get rapl.maxRange name)
        ((rapl.last name).toList.map Prod.snd ++ readings path calls) / 1000000 := by
  induction calls generalizing rapl with
  | nil =>
      cases rapl.last name with
      | none => simp [runPower, reportedJ, readings, Counter.travelled]
      | some r => simp [runPower, reportedJ, readings, Counter.travelled]
  | cons call calls ih =>
      rw [List.pairwise_cons] at htimes
      obtain ⟨hwatts, hnext⟩ := power_spec call hnodup hzone
      have hzones := power_zones call hnodup
      have hranges := power_maxRange call hnodup
      -- the run after the call, by induction
      have hrest := @ih (rapl.power call).2 (by rwa [hzones]) (by rwa [hzones]) (by rwa [hranges])
        htimes.2
      rw [hnext, hranges] at hrest
      rw [runPower, reportedJ, hwatts, readings_cons]
      cases hread : call.energyUj path with
      | none =>
          rw [hread] at hrest
          have hlater := hrest fun r hr other hmem => hlast r hr other (List.mem_cons_of_mem _ hmem)
          rw [Option.toList_none, List.nil_append]
          rw [zoneWatts_failed]
          -- a reading that fails is no report and moves nothing
          refine Eq.trans ?_ hlater
          simp [lastReading, reportJ]
      | some cur =>
          rw [hread] at hrest
          have hlater : reportedJ name path (some call.now) (runPower (rapl.power call).2 calls) =
              Counter.travelled (get rapl.maxRange name)
                (cur :: readings path calls) / 1000000 := by
            apply hrest
            intro r hr other hmem
            cases hr
            exact htimes.1 other hmem
          simp only [Option.isSome_some, if_true, hlater]
          cases hprev : rapl.last name with
          | none => simp [zoneWatts, reportJ]
          | some r =>
              have hdt : 0 < call.now - r.1 := by
                have hlt := hlast r hprev call List.mem_cons_self
                linarith
              simp only [zoneWatts, reportJ, energyDeltaW_eq hrange hdt, Option.map_some, Option.toList_some,
                List.map_cons, List.map_nil, List.cons_append, List.nil_append, Counter.travelled]
              push_cast
              field_simp

/-- A reading that a counter of the range can show. -/
def InRange (range r : ℤ) : Prop := 0 ≤ r ∧ r < range

/-- A counter that only goes up reports nothing negative. -/
theorem zoneWatts_nonneg {range : ℤ} (hrange : 0 < range) {last : Option (ℚ × ℤ)} {now : ℚ}
    {reading : Option ℤ} (hlast : ∀ r ∈ last, InRange range r.2)
    (hread : ∀ r ∈ reading, InRange range r) : ∀ watts ∈ zoneWatts range last now reading, 0 ≤ watts := by
  intro watts hmem
  unfold zoneWatts at hmem
  split at hmem
  · rename_i t prev cur
    by_cases hdt : now - t ≤ 0
    · -- no time has passed
      rw [energyDeltaW, if_pos hdt] at hmem
      cases hmem
    · rw [energyDeltaW_eq hrange (not_le.1 hdt)] at hmem
      cases hmem
      have hadvance := Counter.advance_nonneg (hread cur rfl).1 (hlast (t, prev) rfl).2
      have hcast : (0 : ℚ) ≤ Counter.advance range prev cur := by exact_mod_cast hadvance
      have hdt := (not_le.1 hdt).le
      positivity
  · cases hmem

theorem lastReading_inRange {range : ℤ} {last : Option (ℚ × ℤ)} {now : ℚ} {reading : Option ℤ}
    (hlast : ∀ r ∈ last, InRange range r.2) (hread : ∀ r ∈ reading, InRange range r) :
    ∀ r ∈ lastReading last now reading, InRange range r.2 := by
  intro r hr
  cases reading with
  | none => exact hlast r hr
  | some cur =>
      cases hr
      exact hread cur rfl

/-- No report of a run is negative, and one whose reading failed is none. -/
theorem runPower_reports (hnodup : (rapl.zones.map Prod.fst).Nodup)
    (hzone : (name, path) ∈ rapl.zones) (hrange : 0 < get rapl.maxRange name)
    {calls : List PowerCall}
    (hreads : ∀ call ∈ calls, ∀ r ∈ call.energyUj path, InRange (get rapl.maxRange name) r)
    (hlast : ∀ r ∈ rapl.last name, InRange (get rapl.maxRange name) r.2) :
    ∀ report ∈ rapl.runPower calls,
      (report.1.energyUj path = none → (name, none) ∈ report.2) ∧
      ∀ watts ∈ get report.2 name, 0 ≤ watts := by
  induction calls generalizing rapl with
  | nil =>
      intro report hreport
      cases hreport
  | cons call calls ih =>
      obtain ⟨hwatts, hnext⟩ := power_spec call hnodup hzone
      have hzones := power_zones call hnodup
      have hranges := power_maxRange call hnodup
      have hread := hreads call List.mem_cons_self
      intro report hreport
      rw [runPower, List.mem_cons] at hreport
      rcases hreport with rfl | hreport
      · constructor
        · intro hfailed
          have hmem := mem_report call hnodup hzone
          rwa [hwatts, hfailed, zoneWatts_failed] at hmem
        · rw [hwatts]
          exact zoneWatts_nonneg hrange hlast hread
      · -- the later reports, by induction
        refine @ih (rapl.power call).2 (by rwa [hzones]) (by rwa [hzones]) (by rwa [hranges])
          ?_ ?_ report hreport
        · intro other hmem
          rw [hranges]
          exact hreads other (List.mem_cons_of_mem _ hmem)
        · rw [hnext, hranges]
          exact lastReading_inRange hlast hread

end Rapl

/-! ## True energy -/

/-- A call with the energy that each path's zone has consumed until then, and the
paths whose counters cannot be read. -/
structure MeteredCall where
  now : ℚ
  consumedUj : String → ℤ
  failed : String → Bool

/-- A counter shows the energy modulo its range. -/
def MeteredCall.reads (rangeUj : String → ℤ) (c : MeteredCall) : PowerCall where
  now := c.now
  energyUj path := if c.failed path then none else some (c.consumedUj path % rangeUj path)

theorem MeteredCall.reads_inRange (c : MeteredCall) (rangeUj : String → ℤ) {path : String}
    (hrange : 0 < rangeUj path) :
    ∀ r ∈ (c.reads rangeUj).energyUj path, Rapl.InRange (rangeUj path) r := by
  intro r hr
  simp only [MeteredCall.reads] at hr
  split_ifs at hr
  · cases hr
  · cases hr
    exact ⟨Int.emod_nonneg _ hrange.ne', Int.emod_lt_of_pos _ hrange⟩

/-- The calls in which a path's counter is read. -/
def successes (path : String) (calls : List MeteredCall) : List MeteredCall :=
  calls.filter fun c => !c.failed path

/-- The energy between the first and the last of some calls. -/
def consumedJ (path : String) : List MeteredCall → ℚ
  | [] => 0
  | c :: cs => (((c :: cs).getLast (List.cons_ne_nil c cs)).consumedUj path - c.consumedUj path) / 1000000

theorem readings_reads (rangeUj : String → ℤ) (path : String) (calls : List MeteredCall) :
    readings path (calls.map (MeteredCall.reads rangeUj)) =
      ((successes path calls).map fun c => c.consumedUj path).map (· % rangeUj path) := by
  induction calls with
  | nil => rfl
  | cons c calls ih =>
      rw [List.map_cons, readings_cons, ih]
      cases hfailed : c.failed path with
      | false => simp [MeteredCall.reads, successes, hfailed]
      | true => simp [MeteredCall.reads, successes, hfailed]

theorem travelled_successes {range : ℤ} {path : String} {calls : List MeteredCall}
    (h : (calls.map fun c => c.consumedUj path).IsChain (Counter.Advances range)) :
    Counter.travelled range ((calls.map fun c => c.consumedUj path).map (· % range)) / 1000000 =
      consumedJ path calls := by
  cases calls with
  | nil => simp [Counter.travelled, consumedJ]
  | cons c calls =>
      have hlast : (c.consumedUj path :: calls.map fun c => c.consumedUj path).getLast
            (List.cons_ne_nil _ _) =
          ((c :: calls).getLast (List.cons_ne_nil c calls)).consumedUj path :=
        @List.getLast_map _ _ (fun c : MeteredCall => c.consumedUj path) (c :: calls) (by simp)
      rw [List.map_cons] at h ⊢
      rw [Counter.travelled_emod h, hlast, consumedJ, Int.cast_sub]

/-- Every zone's reports add up to the energy it has consumed from its first reading to
its last, whichever readings fail. -/
theorem energy_accounting (zone : String) (subs : List (String × Option String))
    (rangeUj : String → ℤ) {calls : List MeteredCall}
    (htimes : calls.Pairwise fun a b => a.now < b.now) {name path : String}
    (hzone : (name, path) ∈ Rapl.findZones zone subs) (hrange : 0 < rangeUj path)
    (hadvance : (successes path calls).IsChain fun a b =>
      Counter.Advances (rangeUj path) (a.consumedUj path) (b.consumedUj path)) :
    let rapl := Rapl.init zone subs fun path => some (rangeUj path)
    let reports := rapl.runPower (calls.map (MeteredCall.reads rangeUj))
    (∀ report ∈ reports, (report.1.energyUj path = none → (name, none) ∈ report.2) ∧
      ∀ watts ∈ get report.2 name, 0 ≤ watts) ∧
    reportedJ name path none reports = consumedJ path (successes path calls) := by
  intro rapl reports
  have hnodup := Rapl.nodup_findZones zone subs
  have hmax : get rapl.maxRange name = rangeUj path := Rapl.get_maxRange_init rangeUj hzone
  have hpos : 0 < get rapl.maxRange name := by rwa [hmax]
  constructor
  · apply Rapl.runPower_reports hnodup hzone hpos
    · intro call hcall
      obtain ⟨c, -, rfl⟩ := List.mem_map.1 hcall
      rw [hmax]
      exact c.reads_inRange rangeUj hrange
    · intro r hr
      cases hr
  · have hordered : (calls.map (MeteredCall.reads rangeUj)).Pairwise fun a b => a.now < b.now := by
      rw [List.pairwise_map]
      exact htimes
    have hreported := Rapl.reportedJ_runPower hnodup hzone hpos hordered (by
      intro r hr
      cases hr)
    rw [hmax, readings_reads] at hreported
    refine hreported.trans (travelled_successes ?_)
    rw [List.isChain_map]
    exact hadvance

/-- A wrap while the counter cannot be read. -/
def sampleCalls : List MeteredCall :=
  [⟨0, fun _ => 5, fun _ => false⟩, ⟨1, fun _ => 9, fun _ => true⟩, ⟨3, fun _ => 12, fun _ => false⟩]

theorem energy_accounting_sampleCalls :
    let rapl := Rapl.init "intel-rapl:0" [("intel-rapl:0:0", some "core")] fun _ => some 10
    let reports := rapl.runPower (sampleCalls.map (MeteredCall.reads fun _ => 10))
    (∀ report ∈ reports, (report.1.energyUj "intel-rapl:0:0" = none → ("core", none) ∈ report.2) ∧
      ∀ watts ∈ get report.2 "core", 0 ≤ watts) ∧
    reportedJ "core" "intel-rapl:0:0" none reports =
      consumedJ "intel-rapl:0:0" (successes "intel-rapl:0:0" sampleCalls) := by
  apply energy_accounting "intel-rapl:0" [("intel-rapl:0:0", some "core")] fun _ => 10
  · simp [sampleCalls]
  · simp [Rapl.findZones, Table.modify]
  · norm_num
  · simp [successes, sampleCalls, Counter.Advances]

end TurboMac.Linux
